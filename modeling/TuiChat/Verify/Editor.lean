import TuiChat.Client.Editor
import Mathlib.Data.List.SplitBy
import Mathlib.Algebra.Ring.Nat

/-!
# The editor on any text

Whatever is typed, pasted, moved and deleted, the cursor stays on a character boundary and the text
within its limit, and nothing panics (`editor_run_valid`): every operation splits the text where its
own pieces begin or end.
-/

namespace TuiChat

open Lib EditorState

variable {seg : Segmentation}

/-- The text holds no control character but newline. -/
def Printable (text : List Char) : Prop := ∀ c ∈ text, isControl c = true → c = '\n'

structure EditorState.Valid (maxBytes : Nat) (e : EditorState) : Prop where
  boundary : IsBoundary e.text e.cursor
  bounded : byteLength e.text ≤ maxBytes
  printable : Printable e.text

/-! ## The lines of a text -/

/-- A line starts at the text's start or after a newline, with no newline up to the offset. -/
theorem lineStart_append (a b : List Char) :
    ∃ l r, a = l ++ r ∧ (l = [] ∨ ∃ l', l = l' ++ ['\n']) ∧ '\n' ∉ r ∧
      lineStart (a ++ b) (byteLength a) = some (byteLength l) := by
  unfold lineStart
  rw [sliceTo_append]
  cases hfind : rfindChar '\n' a with
  | none => exact ⟨[], a, rfl, .inl rfl, rfindChar_eq_none.1 hfind, by simp [hfind]⟩
  | some index =>
    obtain ⟨l, r, rfl, hr, rfl⟩ := rfindChar_eq_some hfind
    refine ⟨l ++ ['\n'], r, by simp, .inr ⟨l, rfl⟩, hr, ?_⟩
    have hsize : '\n'.utf8Size = 1 := rfl
    simp [hfind, hsize]

/-- A line ends before a newline or at the text's end. -/
theorem lineEnd_append (a b : List Char) :
    ∃ m r, b = m ++ r ∧ (r = [] ∨ ∃ r', r = '\n' :: r') ∧
      lineEnd (a ++ b) (byteLength a) = some (byteLength (a ++ m)) := by
  unfold lineEnd
  rw [sliceFrom_append]
  cases hfind : findChar '\n' b with
  | none => exact ⟨b, [], by simp, .inl rfl, by simp [hfind]⟩
  | some index =>
    obtain ⟨m, r, rfl, -, rfl⟩ := findChar_eq_some hfind
    exact ⟨m, '\n' :: r, rfl, .inr ⟨r, rfl⟩, by simp [hfind]⟩

/-! ## Graphemes and columns -/

theorem previousGrapheme_append (hseg : seg.Covers) (a b : List Char) :
    ∃ l r, a = l ++ r ∧ previousGrapheme seg (a ++ b) (byteLength a) = some (byteLength l) := by
  unfold previousGrapheme
  rw [sliceTo_append]
  rcases List.eq_nil_or_concat (seg.graphemes a) with hnil | ⟨ps, p, hps⟩
  · exact ⟨a, [], by simp, by simp [hnil, indicesFrom]⟩
  · have ha : a = ps.flatten ++ p := by
      have hcover := hseg.graphemes a
      rw [hps] at hcover
      simpa using hcover.symm
    refine ⟨ps.flatten, p, ha, ?_⟩
    simp [hps, indicesFrom_append, indicesFrom]

theorem nextGrapheme_append (hseg : seg.Covers) (a b : List Char) :
    ∃ m r, b = m ++ r ∧ nextGrapheme seg (a ++ b) (byteLength a) = some (byteLength (a ++ m)) := by
  unfold nextGrapheme
  rw [sliceFrom_append]
  cases hps : seg.graphemes b with
  | nil => exact ⟨[], b, rfl, by simp [hps, indicesFrom]⟩
  | cons p ps =>
    have hb : b = p ++ ps.flatten := by
      have hcover := hseg.graphemes b
      rw [hps] at hcover
      simpa using hcover.symm
    exact ⟨p, ps.flatten, hb, by simp [hps, indicesFrom]⟩

/-- The column loop stops between two graphemes of the line. -/
theorem columnLoop_boundary (start column : Nat) : ∀ (ps : List (List Char)) (n width : Nat),
    ∃ qs, qs <+: ps ∧
      columnLoop seg start (start + n + byteLength ps.flatten) column width (indicesFrom n ps) =
        start + n + byteLength qs.flatten
  | [], n, width => ⟨[], List.prefix_rfl, rfl⟩
  | p :: ps, n, width => by
    simp only [indicesFrom, columnLoop]
    split
    · exact ⟨[], List.nil_prefix, by simp⟩
    · split
      · exact ⟨[p], by simp, by simp⟩
      · obtain ⟨qs, hqs, heq⟩ := columnLoop_boundary start column ps (n + byteLength p) (width + seg.width p)
        refine ⟨p :: qs, List.cons_prefix_cons.2 ⟨rfl, hqs⟩, ?_⟩
        have hstop : start + n + byteLength (p :: ps).flatten =
            start + (n + byteLength p) + byteLength ps.flatten := by
          rw [List.flatten_cons, byteLength_append]
          omega
        rw [hstop, heq, List.flatten_cons, byteLength_append]
        omega

theorem byteAtDisplayColumn_append (hseg : seg.Covers) (a line b : List Char) (column : Nat) :
    ∃ l r, line = l ++ r ∧
      byteAtDisplayColumn seg (a ++ (line ++ b)) (byteLength a) (byteLength (a ++ line)) column =
        some (byteLength (a ++ l)) := by
  obtain ⟨qs, ⟨rest, hrest⟩, heq⟩ :=
    @columnLoop_boundary seg (byteLength a) column (seg.graphemes line) 0 0
  refine ⟨qs.flatten, rest.flatten, ?_, ?_⟩
  · rw [← List.flatten_append, hrest, hseg.graphemes]
  · unfold byteAtDisplayColumn
    rw [slice_append]
    rw [hseg.graphemes, Nat.add_zero, ← byteLength_append, ← byteLength_append] at heq
    rw [Option.bind_eq_bind, Option.bind_some, heq]
    rfl

/-! ## What `insert` accepts -/

theorem accepted_prefix (hseg : seg.Covers) (value : List Char) (remaining : Nat) :
    ∃ a b, value = a ++ b ∧ accepted seg value remaining = some a ∧ byteLength a ≤ remaining := by
  unfold accepted
  split
  · next hle => exact ⟨value, [], by simp, rfl, hle⟩
  · dsimp only
    generalize hends : (indicesFrom 0 (seg.graphemes value)).map _ = ends
    cases hlast : (ends.takeWhile fun stop => decide (stop ≤ remaining)).getLast? with
    | none => exact ⟨[], value, rfl, sliceTo_append [] value, Nat.zero_le _⟩
    | some stop =>
      have hmem := List.mem_of_getLast? hlast
      have hle : stop ≤ remaining := by simpa using List.mem_takeWhile_imp hmem
      have hstop : stop ∈ ends := (List.takeWhile_prefix _).subset hmem
      rw [← hends] at hstop
      obtain ⟨⟨index, piece⟩, hpiece, rfl⟩ := List.mem_map.1 hstop
      obtain ⟨ps, qs, hpieces, rfl⟩ := mem_indicesFrom hpiece
      have hvalue : value = (ps.flatten ++ piece) ++ qs.flatten := by
        have hcover := hseg.graphemes value
        rw [hpieces] at hcover
        simpa using hcover.symm
      have hlength : 0 + byteLength ps.flatten + byteLength piece = byteLength (ps.flatten ++ piece) := by
        simp
      refine ⟨ps.flatten ++ piece, qs.flatten, hvalue, ?_, ?_⟩
      · rw [Option.getD_some]
        dsimp only
        rw [hlength, hvalue, sliceTo_append]
      · dsimp only at hle
        rw [← hlength]
        exact hle

theorem printable_normalizedChar (c : Char) : Printable (normalizedChar c) := by
  intro d hd hcontrol
  unfold normalizedChar at hd
  split at hd
  · exact List.mem_singleton.1 hd
  · split at hd
    · have hspace : d = ' ' := by simpa using hd
      rw [hspace] at hcontrol
      exact absurd hcontrol (by decide)
    · split at hd
      · rw [List.mem_singleton.1 hd] at hcontrol
        exact absurd hcontrol (by decide)
      · next hc =>
        rw [List.mem_singleton.1 hd] at hcontrol
        exact absurd hcontrol hc

theorem printable_normalized (value : List Char) : Printable (normalized value) := by
  intro c hc
  obtain ⟨d, -, hcd⟩ := List.mem_flatMap.1 hc
  exact printable_normalizedChar d c hcd

theorem normalizedChar_ne_nil (c : Char) : normalizedChar c ≠ [] := by
  unfold normalizedChar
  split
  · simp
  · split
    · simp
    · split
      · simp
      · simp

theorem normalized_eq_nil {value : List Char} : normalized value = [] ↔ value = [] := by
  constructor
  · intro h
    have hendings : lineEndings value = [] := by
      by_contra hne
      obtain ⟨c, hc⟩ := List.exists_mem_of_ne_nil _ hne
      exact normalizedChar_ne_nil c (List.flatMap_eq_nil_iff.1 h c hc)
    unfold lineEndings at hendings
    split at hendings
    · rfl
    · cases hendings
    · cases hendings
    · cases hendings
  · rintro rfl
    rfl

theorem Printable.append {a b : List Char} : Printable (a ++ b) ↔ Printable a ∧ Printable b := by
  simp only [Printable, List.mem_append, or_imp, forall_and]

/-- `insert` puts a part of the normalised value at the cursor: all of it if it returns true. -/
theorem insert_spec (hseg : seg.Covers) {maxBytes : Nat} {e : EditorState} (h : e.Valid maxBytes)
    (value : List Char) :
    ∃ whole e', e.insert seg value maxBytes = some (whole, e') ∧ e'.Valid maxBytes ∧
      ∃ a b inserted rest, e.text = a ++ b ∧ byteLength a = e.cursor ∧ normalized value = inserted ++ rest ∧
        e'.text = a ++ inserted ++ b ∧ (whole = true ↔ inserted = normalized value) := by
  obtain ⟨⟨a, b, htext, hcursor⟩, hbounded, hprintable⟩ := h
  unfold EditorState.insert
  split
  · next hstop =>
    refine ⟨value.isEmpty, e, rfl, ⟨⟨a, b, htext, hcursor⟩, hbounded, hprintable⟩,
      a, b, [], normalized value, htext, hcursor, rfl, by simpa using htext, ?_⟩
    rw [List.isEmpty_iff, eq_comm (a := []), normalized_eq_nil]
  · next hgo =>
    have hroom : byteLength e.text < maxBytes := by
      simp only [Bool.or_eq_true, decide_eq_true_eq, not_or] at hgo
      omega
    obtain ⟨inserted, rest, hvalue, haccepted, hle⟩ :=
      accepted_prefix hseg (normalized value) (maxBytes - byteLength e.text)
    have hinsert : insertStr e.text e.cursor inserted = some (a ++ inserted ++ b) := by
      rw [htext, ← hcursor, insertStr_append]
    let e' : EditorState :=
      { text := a ++ inserted ++ b, cursor := e.cursor + byteLength inserted, preferredColumn := none }
    refine ⟨byteLength inserted = byteLength (normalized value), e', ?_, ⟨?_, ?_, ?_⟩,
      a, b, inserted, rest, htext, hcursor, hvalue, rfl, ?_⟩
    · simp only [haccepted, hinsert, Option.bind_eq_bind, Option.bind_some, Option.pure_def, e']
    · have hend : e'.cursor = byteLength (a ++ inserted) := by rw [byteLength_append, hcursor]
      rw [hend]
      exact isBoundary_append _ _
    · have hlength : byteLength e'.text = byteLength e.text + byteLength inserted := by
        simp only [e', htext, byteLength_append]
        omega
      rw [hlength]
      omega
    · rw [htext, Printable.append] at hprintable
      have hinserted : Printable inserted := by
        have hnormalized := printable_normalized value
        rw [hvalue, Printable.append] at hnormalized
        exact hnormalized.1
      exact Printable.append.2 ⟨Printable.append.2 ⟨hprintable.1, hinserted⟩, hprintable.2⟩
    · rw [decide_eq_true_eq]
      constructor
      · intro hlength
        rw [hvalue, byteLength_append] at hlength
        have hrest : rest = [] := byteLength_eq_zero.1 (by omega)
        rw [hvalue, hrest, List.append_nil]
      · intro heq
        rw [heq]

/-! ## Every operation -/

namespace EditorState.Valid

variable {maxBytes : Nat} {e : EditorState}

theorem moveTo (h : e.Valid maxBytes) {cursor : Nat} (hc : IsBoundary e.text cursor) :
    (e.moveTo cursor).Valid maxBytes := ⟨hc, h.bounded, h.printable⟩

/-- A part of the text goes, up to or from the cursor. -/
theorem deleted (h : e.Valid maxBytes) {a m b : List Char} (htext : e.text = a ++ (m ++ b))
    (column : Option Nat) :
    EditorState.Valid maxBytes { text := a ++ [] ++ b, cursor := byteLength a, preferredColumn := column } := by
  obtain ⟨-, hbounded, hprintable⟩ := h
  rw [htext] at hbounded hprintable
  simp only [Printable.append] at hprintable
  refine ⟨?_, ?_, ?_⟩
  · rw [List.append_nil]
    exact isBoundary_append a b
  · simp only [byteLength_append, List.append_nil] at hbounded ⊢
    omega
  · rw [List.append_nil, Printable.append]
    exact ⟨hprintable.1, hprintable.2.2⟩

theorem moveLeft (hseg : seg.Covers) (h : e.Valid maxBytes) :
    ∃ e', e.moveLeft seg = some e' ∧ e'.Valid maxBytes := by
  obtain ⟨a, b, htext, hcursor⟩ := h.boundary
  obtain ⟨l, r, rfl, hprevious⟩ := previousGrapheme_append hseg a b
  have hl : IsBoundary e.text (byteLength l) := by
    rw [htext, List.append_assoc]
    exact isBoundary_append _ _
  refine ⟨_, ?_, h.moveTo hl⟩
  unfold EditorState.moveLeft
  rw [htext, ← hcursor, hprevious]
  rfl

theorem moveRight (hseg : seg.Covers) (h : e.Valid maxBytes) :
    ∃ e', e.moveRight seg = some e' ∧ e'.Valid maxBytes := by
  obtain ⟨a, b, htext, hcursor⟩ := h.boundary
  obtain ⟨m, r, rfl, hnext⟩ := nextGrapheme_append hseg a b
  have hm : IsBoundary e.text (byteLength (a ++ m)) := by
    rw [htext, ← List.append_assoc]
    exact isBoundary_append _ _
  refine ⟨_, ?_, h.moveTo hm⟩
  unfold EditorState.moveRight
  rw [htext, ← hcursor, hnext]
  rfl

theorem moveLineStart (h : e.Valid maxBytes) :
    ∃ e', e.moveLineStart = some e' ∧ e'.Valid maxBytes := by
  obtain ⟨a, b, htext, hcursor⟩ := h.boundary
  obtain ⟨l, r, rfl, -, -, hstart⟩ := lineStart_append a b
  have hl : IsBoundary e.text (byteLength l) := by
    rw [htext, List.append_assoc]
    exact isBoundary_append _ _
  refine ⟨_, ?_, h.moveTo hl⟩
  unfold EditorState.moveLineStart
  rw [htext, ← hcursor, hstart]
  rfl

theorem moveLineEnd (h : e.Valid maxBytes) :
    ∃ e', e.moveLineEnd = some e' ∧ e'.Valid maxBytes := by
  obtain ⟨a, b, htext, hcursor⟩ := h.boundary
  obtain ⟨m, r, rfl, -, hend⟩ := lineEnd_append a b
  have hm : IsBoundary e.text (byteLength (a ++ m)) := by
    rw [htext, ← List.append_assoc]
    exact isBoundary_append _ _
  refine ⟨_, ?_, h.moveTo hm⟩
  unfold EditorState.moveLineEnd
  rw [htext, ← hcursor, hend]
  rfl

theorem deleteBackward (hseg : seg.Covers) (h : e.Valid maxBytes) :
    ∃ e', e.deleteBackward seg = some e' ∧ e'.Valid maxBytes := by
  obtain ⟨a, b, htext, hcursor⟩ := h.boundary
  obtain ⟨l, r, rfl, hprevious⟩ := previousGrapheme_append hseg a b
  have hreplace := replaceRange_append l r b []
  unfold EditorState.deleteBackward
  rw [← List.append_assoc, ← htext] at hreplace
  rw [← htext] at hprevious
  rw [← hcursor, hprevious]
  simp only [Option.bind_eq_bind, Option.bind_some]
  split
  · refine ⟨_, rfl, ?_, h.bounded, h.printable⟩
    rw [hcursor]
    exact h.boundary
  · rw [hreplace]
    exact ⟨_, rfl, h.deleted (htext.trans (List.append_assoc l r b)) none⟩

theorem deleteForward (hseg : seg.Covers) (h : e.Valid maxBytes) :
    ∃ e', e.deleteForward seg = some e' ∧ e'.Valid maxBytes := by
  obtain ⟨a, b, htext, hcursor⟩ := h.boundary
  obtain ⟨m, r, rfl, hnext⟩ := nextGrapheme_append hseg a b
  have hreplace := replaceRange_append a m r []
  unfold EditorState.deleteForward
  rw [← htext] at hreplace hnext
  rw [← hcursor, hnext]
  simp only [Option.bind_eq_bind, Option.bind_some]
  split
  · refine ⟨_, rfl, ?_, h.bounded, h.printable⟩
    rw [hcursor]
    exact h.boundary
  · rw [hreplace]
    exact ⟨_, rfl, h.deleted htext none⟩

theorem deleteToLineStart (h : e.Valid maxBytes) :
    ∃ e', e.deleteToLineStart = some e' ∧ e'.Valid maxBytes := by
  obtain ⟨a, b, htext, hcursor⟩ := h.boundary
  obtain ⟨l, r, rfl, -, -, hstart⟩ := lineStart_append a b
  have hreplace := replaceRange_append l r b []
  unfold EditorState.deleteToLineStart
  rw [← List.append_assoc, ← htext] at hreplace
  rw [← htext] at hstart
  rw [← hcursor, hstart]
  simp only [Option.bind_eq_bind, Option.bind_some, hreplace]
  exact ⟨_, rfl, h.deleted (htext.trans (List.append_assoc l r b)) none⟩

/-- The word before the cursor starts at a boundary of the text that is left of the white space. -/
theorem deleteWordBackward (hseg : seg.Covers) (h : e.Valid maxBytes) :
    ∃ e', e.deleteWordBackward seg = some e' ∧ e'.Valid maxBytes := by
  obtain ⟨a, b, htext, hcursor⟩ := h.boundary
  unfold EditorState.deleteWordBackward
  split
  · exact ⟨e, rfl, h⟩
  rw [htext, ← hcursor, sliceTo_append]
  simp only [Option.bind_eq_bind, Option.bind_some]
  have hstart : ∀ p : Nat × List Char → Bool, ∃ l r, a = l ++ r ∧ byteLength l =
      ((indicesFrom 0 (seg.wordBounds (trimEnd a))).reverse.find? p).elim 0 Prod.fst := by
    intro p
    cases hword : (indicesFrom 0 (seg.wordBounds (trimEnd a))).reverse.find? p with
    | none => exact ⟨[], a, rfl, rfl⟩
    | some word =>
      obtain ⟨index, part⟩ := word
      have hmem := List.mem_reverse.1 (List.mem_of_find?_eq_some hword)
      obtain ⟨ps, qs, hpieces, rfl⟩ := mem_indicesFrom hmem
      obtain ⟨spaces, hspaces⟩ : trimEnd a <+: a := List.rdropWhile_prefix _ _
      have hcover := hseg.wordBounds (trimEnd a)
      rw [hpieces, List.flatten_append] at hcover
      refine ⟨ps.flatten, (part :: qs).flatten ++ spaces, ?_, by simp⟩
      rw [← List.append_assoc, hcover, hspaces]
  obtain ⟨l, r, rfl, heq⟩ := hstart fun word => !word.2.all isWhitespace
  generalize hword : Option.elim _ _ _ = start
  obtain rfl : byteLength l = start := heq.trans hword
  rw [List.append_assoc, replaceRange_append]
  exact ⟨_, rfl, h.deleted (htext.trans (List.append_assoc l r b)) none⟩

/-- The line above or below is between two boundaries of the text. -/
theorem targetLine_eq {text : List Char} {currentStart currentEnd : Nat} {direction : Int}
    (hstart : currentStart = 0 ∨ ∃ l r, text = l ++ '\n' :: r ∧ currentStart = byteLength l + 1)
    (hend : currentEnd = byteLength text ∨ ∃ l r, text = l ++ '\n' :: r ∧ currentEnd = byteLength l) :
    targetLine text currentStart currentEnd direction = some none ∨
      ∃ a line b, text = a ++ (line ++ b) ∧
        targetLine text currentStart currentEnd direction =
          some (some (byteLength a, byteLength (a ++ line))) := by
  unfold targetLine
  by_cases hdirection : direction < 0
  · rw [if_pos hdirection]
    rcases hstart with rfl | ⟨l, r, rfl, rfl⟩
    · exact .inl rfl
    · obtain ⟨a, line, rfl, -, -, hline⟩ := lineStart_append l ('\n' :: r)
      refine .inr ⟨a, line, '\n' :: r, List.append_assoc _ _ _, ?_⟩
      rw [if_neg (Nat.succ_ne_zero _), Nat.add_sub_cancel, hline]
      rfl
  · rw [if_neg hdirection]
    rcases hend with rfl | ⟨l, r, rfl, rfl⟩
    · rw [if_pos rfl]
      exact .inl rfl
    · have hne : byteLength l ≠ byteLength (l ++ '\n' :: r) := by
        have hpos := Char.utf8Size_pos '\n'
        simp only [byteLength_append, byteLength_cons]
        omega
      have hlength : byteLength l + 1 = byteLength (l ++ ['\n']) := by
        rw [byteLength_append]
        rfl
      obtain ⟨m, b, rfl, -, hline⟩ := lineEnd_append (l ++ ['\n']) r
      have htext : l ++ '\n' :: (m ++ b) = (l ++ ['\n']) ++ (m ++ b) := by simp
      refine .inr ⟨l ++ ['\n'], m, b, htext, ?_⟩
      rw [if_neg hne, hlength, htext, hline]
      rfl

theorem moveVertical (hseg : seg.Covers) (h : e.Valid maxBytes) (direction : Int) :
    ∃ e', e.moveVertical seg direction = some e' ∧ e'.Valid maxBytes := by
  obtain ⟨a, b, htext, hcursor⟩ := h.boundary
  obtain ⟨l, r, rfl, hl, -, hstart⟩ := lineStart_append a b
  obtain ⟨m, r', rfl, hr', hend⟩ := lineEnd_append (l ++ r) b
  rw [← htext] at hstart hend
  have hcolumn : ∃ column, aimedColumn seg e (byteLength l) = some column := by
    unfold aimedColumn
    split
    · next column _ => exact ⟨column, rfl⟩
    · have hslice := slice_append l r (m ++ r')
      rw [← List.append_assoc, ← htext] at hslice
      exact ⟨seg.width r, by rw [← hcursor, hslice]; rfl⟩
  obtain ⟨column, hcolumn⟩ := hcolumn
  have hstart' : byteLength l = 0 ∨ ∃ x y, e.text = x ++ '\n' :: y ∧ byteLength l = byteLength x + 1 := by
    rcases hl with rfl | ⟨l', rfl⟩
    · exact .inl rfl
    · exact .inr ⟨l', r ++ (m ++ r'), by simp [htext], by rw [byteLength_append]; rfl⟩
  have hend' : byteLength (l ++ r ++ m) = byteLength e.text ∨
      ∃ x y, e.text = x ++ '\n' :: y ∧ byteLength (l ++ r ++ m) = byteLength x := by
    rcases hr' with rfl | ⟨r', rfl⟩
    · exact .inl (by simp [htext])
    · exact .inr ⟨l ++ r ++ m, r', by simp [htext], rfl⟩
  unfold EditorState.moveVertical
  rw [← hcursor, hstart, hend]
  simp only [Option.bind_eq_bind, Option.bind_some, hcolumn]
  rcases @targetLine_eq e.text _ _ direction hstart' hend' with hnone | ⟨a, line, b, hline, htarget⟩
  · rw [hnone]
    exact ⟨e, rfl, h⟩
  · obtain ⟨x, y, rfl, hbyte⟩ := byteAtDisplayColumn_append hseg a line b column
    rw [htarget]
    simp only [Option.bind_some]
    rw [← hline] at hbyte
    rw [hbyte]
    refine ⟨_, rfl, ?_, h.bounded, h.printable⟩
    have htext' : e.text = (a ++ x) ++ (y ++ b) := by simp [hline]
    rw [htext']
    exact isBoundary_append _ _

/-- The hit loop ends between two graphemes. -/
theorem hitLoop_boundary (targetRow targetColumn wrapWidth : Nat) :
    ∀ (ps : List (List Char)) (n row column : Nat), ∃ qs, qs <+: ps ∧
      hitLoop seg targetRow targetColumn wrapWidth (n + byteLength ps.flatten) row column n (indicesFrom n ps) =
        n + byteLength qs.flatten
  | [], n, row, column => ⟨[], List.prefix_rfl, by simp [indicesFrom, hitLoop]⟩
  | p :: ps, n, row, column => by
    have hstop : n + byteLength (p :: ps).flatten = n + byteLength p + byteLength ps.flatten := by
      rw [List.flatten_cons, byteLength_append, Nat.add_assoc]
    have hrest : ∀ row column, ∃ qs, qs <+: p :: ps ∧
        hitLoop seg targetRow targetColumn wrapWidth (n + byteLength (p :: ps).flatten) row column
          (n + byteLength p) (indicesFrom (n + byteLength p) ps) = n + byteLength qs.flatten := by
      intro row column
      obtain ⟨qs, hqs, heq⟩ :=
        hitLoop_boundary targetRow targetColumn wrapWidth ps (n + byteLength p) row column
      refine ⟨p :: qs, List.cons_prefix_cons.2 ⟨rfl, hqs⟩, ?_⟩
      rw [hstop, heq, List.flatten_cons, byteLength_append, Nat.add_assoc]
    have hhere : ∃ qs, qs <+: p :: ps ∧ n = n + byteLength qs.flatten := ⟨[], List.nil_prefix, by simp⟩
    rw [indicesFrom, hitLoop]
    split
    · split
      · exact hhere
      · exact hrest _ _
    · dsimp only
      split
      · exact hhere
      · split
        · exact hhere
        · exact hrest _ _

theorem setCursorByVisualPosition (hseg : seg.Covers) (h : e.Valid maxBytes) (row column width : Nat) :
    (e.setCursorByVisualPosition seg row column width).Valid maxBytes := by
  obtain ⟨qs, ⟨rest, hrest⟩, heq⟩ :=
    @hitLoop_boundary seg row column (max width 1) (seg.graphemes e.text) 0 0 0
  rw [hseg.graphemes, Nat.zero_add, Nat.zero_add] at heq
  apply h.moveTo
  rw [heq, ← hseg.graphemes e.text, ← hrest, List.flatten_append]
  exact isBoundary_append _ _

end EditorState.Valid

/-! ## Sequences of operations -/

inductive EditorOp
  | set (text : List Char)
  | clear
  | insert (value : List Char)
  | moveLeft
  | moveRight
  | moveStart
  | moveEnd
  | moveLineStart
  | moveLineEnd
  | moveVertical (direction : Int)
  | deleteBackward
  | deleteForward
  | deleteWordBackward
  | deleteToLineStart
  | setCursorByVisualPosition (row column width : Nat)

/-- A text that is set is within the limit and has no control character but newline. -/
def EditorOp.Permitted (maxBytes : Nat) : EditorOp → Prop
  | .set text => byteLength text ≤ maxBytes ∧ Printable text
  | _ => True

def EditorState.apply (seg : Segmentation) (maxBytes : Nat) (e : EditorState) : EditorOp → Option EditorState
  | .set text => some (e.set text)
  | .clear => some e.clear
  | .insert value => (e.insert seg value maxBytes).map Prod.snd
  | .moveLeft => e.moveLeft seg
  | .moveRight => e.moveRight seg
  | .moveStart => some e.moveStart
  | .moveEnd => some e.moveEnd
  | .moveLineStart => e.moveLineStart
  | .moveLineEnd => e.moveLineEnd
  | .moveVertical direction => e.moveVertical seg direction
  | .deleteBackward => e.deleteBackward seg
  | .deleteForward => e.deleteForward seg
  | .deleteWordBackward => e.deleteWordBackward seg
  | .deleteToLineStart => e.deleteToLineStart
  | .setCursorByVisualPosition row column width => some (e.setCursorByVisualPosition seg row column width)

theorem EditorState.Valid.apply (hseg : seg.Covers) {maxBytes : Nat} {e : EditorState} (h : e.Valid maxBytes)
    {op : EditorOp} (hop : op.Permitted maxBytes) :
    ∃ e', e.apply seg maxBytes op = some e' ∧ e'.Valid maxBytes := by
  cases op with
  | set text => exact ⟨_, rfl, isBoundary_byteLength text, hop.1, hop.2⟩
  | clear => exact ⟨_, rfl, isBoundary_zero [], Nat.zero_le _, fun c hc => absurd hc List.not_mem_nil⟩
  | insert value =>
    obtain ⟨whole, e', heq, hvalid, -⟩ := insert_spec hseg h value
    exact ⟨e', by rw [EditorState.apply, heq]; rfl, hvalid⟩
  | moveLeft => exact h.moveLeft hseg
  | moveRight => exact h.moveRight hseg
  | moveStart => exact ⟨_, rfl, h.moveTo (isBoundary_zero _)⟩
  | moveEnd => exact ⟨_, rfl, h.moveTo (isBoundary_byteLength _)⟩
  | moveLineStart => exact h.moveLineStart
  | moveLineEnd => exact h.moveLineEnd
  | moveVertical direction => exact h.moveVertical hseg direction
  | deleteBackward => exact h.deleteBackward hseg
  | deleteForward => exact h.deleteForward hseg
  | deleteWordBackward => exact h.deleteWordBackward hseg
  | deleteToLineStart => exact h.deleteToLineStart
  | setCursorByVisualPosition row column width =>
    exact ⟨_, rfl, h.setCursorByVisualPosition hseg row column width⟩

/-- The operations one after the other; `none` where one of them panics. -/
def EditorState.run (seg : Segmentation) (maxBytes : Nat) (e : EditorState) (ops : List EditorOp) :
    Option EditorState := ops.foldlM (fun e op => e.apply seg maxBytes op) e

theorem EditorState.Valid.run (hseg : seg.Covers) {maxBytes : Nat} :
    ∀ {ops : List EditorOp} {e : EditorState}, e.Valid maxBytes → (∀ op ∈ ops, op.Permitted maxBytes) →
      ∃ e', e.run seg maxBytes ops = some e' ∧ e'.Valid maxBytes
  | [], e, h, _ => ⟨e, rfl, h⟩
  | op :: ops, e, h, hops => by
    obtain ⟨e₁, heq, h₁⟩ := h.apply hseg (hops op List.mem_cons_self)
    obtain ⟨e', heq', h'⟩ := EditorState.Valid.run hseg h₁
      fun op (hop : op ∈ ops) => hops op (List.mem_cons_of_mem _ hop)
    refine ⟨e', ?_, h'⟩
    rw [EditorState.run, List.foldlM_cons, heq]
    exact heq'

theorem EditorState.valid_new (maxBytes : Nat) : EditorState.new.Valid maxBytes :=
  ⟨isBoundary_zero [], Nat.zero_le _, fun _ hc => absurd hc List.not_mem_nil⟩

/-- No sequence of operations panics. The cursor it ends with is on a boundary and the text printable and
within the limit, and an insertion there returns true if and only if all of the normalised value went
in at the cursor. -/
theorem editor_run_valid (hseg : seg.Covers) (maxBytes : Nat) (ops : List EditorOp)
    (hops : ∀ op ∈ ops, op.Permitted maxBytes) :
    ∃ e, EditorState.new.run seg maxBytes ops = some e ∧
      IsBoundary e.text e.cursor ∧ e.cursor ≤ byteLength e.text ∧
      byteLength e.text ≤ maxBytes ∧ Printable e.text ∧
      ∀ value, ∃ whole e', e.insert seg value maxBytes = some (whole, e') ∧
        ∃ a b inserted rest, e.text = a ++ b ∧ byteLength a = e.cursor ∧ normalized value = inserted ++ rest ∧
          e'.text = a ++ inserted ++ b ∧ (whole = true ↔ inserted = normalized value) := by
  obtain ⟨e, heq, h⟩ := (EditorState.valid_new maxBytes).run hseg hops
  refine ⟨e, heq, h.boundary, h.boundary.le, h.bounded, h.printable, fun value => ?_⟩
  obtain ⟨whole, e', hinsert, -, hspec⟩ := insert_spec hseg h value
  exact ⟨whole, e', hinsert, hspec⟩

instance {text : List Char} : Decidable (Printable text) :=
  inferInstanceAs (Decidable (∀ c ∈ text, isControl c = true → c = '\n'))

instance {maxBytes : Nat} : ∀ op : EditorOp, Decidable (op.Permitted maxBytes)
  | .set text => inferInstanceAs (Decidable (byteLength text ≤ maxBytes ∧ Printable text))
  | .clear | .insert _ | .moveLeft | .moveRight | .moveStart | .moveEnd | .moveLineStart | .moveLineEnd
  | .moveVertical _ | .deleteBackward | .deleteForward | .deleteWordBackward | .deleteToLineStart
  | .setCursorByVisualPosition .. => instDecidableTrue

namespace Scenario.Editor

/-- Letters and ideographs: each is a grapheme, and words are apart where white space begins or ends. -/
def plain : Segmentation where
  graphemes text := text.map fun c => [c]
  wordBounds text := text.splitBy fun a b => isWhitespace a == isWhitespace b
  width text := (text.map fun c => if c.utf8Size = 3 then 2 else 1).sum

theorem plain_covers : plain.Covers where
  graphemes text := by
    induction text with
    | nil => rfl
    | cons c text ih => exact congrArg (c :: ·) ih
  wordBounds text := List.flatten_splitBy _ text

/-- A paste that does not fit, motion through two lines and deletions. -/
def typed : List EditorOp :=
  [ .insert "ab中\r\n12".toList, .moveVertical (-1), .moveRight, .insert " c\x1bdef".toList
  , .deleteWordBackward, .setCursorByVisualPosition 0 2 4, .deleteForward, .moveLineStart ]

/-- The paste is cut before the control character's substitute, and the ideograph is deleted. -/
example : (EditorState.new.run plain 12 typed).map (fun e => (e.text, e.cursor)) =
    some ("ab \n12".toList, 0) := by decide

theorem editor_run_valid_typed :
    ∃ e, EditorState.new.run plain 12 typed = some e ∧
      IsBoundary e.text e.cursor ∧ e.cursor ≤ byteLength e.text ∧
      byteLength e.text ≤ 12 ∧ Printable e.text ∧
      ∀ value, ∃ whole e', e.insert plain value 12 = some (whole, e') ∧
        ∃ a b inserted rest, e.text = a ++ b ∧ byteLength a = e.cursor ∧ normalized value = inserted ++ rest ∧
          e'.text = a ++ inserted ++ b ∧ (whole = true ↔ inserted = normalized value) :=
  editor_run_valid plain_covers 12 typed (by decide)

end Scenario.Editor

end TuiChat
