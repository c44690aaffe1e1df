import TuiChat.Verify.Editor

/-!
# The cursor in any text

A draft or a completion can put any text into the editor. The cursor is on a boundary of it, which is all
that the operations need in order not to panic, and they keep it there.
-/

namespace TuiChat

open Lib EditorState

variable {seg : Segmentation} {e : EditorState}

/-- The cursor is on a boundary of the text. -/
def EditorState.Sound (e : EditorState) : Prop := IsBoundary e.text e.cursor

/-- An operation that leaves the cursor on a boundary. -/
def EndsSound (r : Option EditorState) : Prop := ∃ e', r = some e' ∧ e'.Sound

namespace EditorState

theorem sound_set (e : EditorState) (text : List Char) : (e.set text).Sound := isBoundary_byteLength text

theorem sound_clear (e : EditorState) : e.clear.Sound := isBoundary_zero []

theorem sound_moveStart (e : EditorState) : e.moveStart.Sound := isBoundary_zero e.text

theorem sound_moveEnd (e : EditorState) : e.moveEnd.Sound := isBoundary_byteLength e.text

namespace Sound

/-- A part of the text before the cursor. -/
theorem moveTo {l r : List Char} (htext : e.text = l ++ r) : EndsSound (some (e.moveTo (byteLength l))) :=
  ⟨_, rfl, by
    unfold EditorState.Sound EditorState.moveTo
    rw [htext]
    exact isBoundary_append l r⟩

/-- A part of the text goes. -/
theorem delete {l r : List Char} (column : Option Nat) :
    EndsSound (some { text := l ++ [] ++ r, cursor := byteLength l, preferredColumn := column }) :=
  ⟨_, rfl, by
    unfold EditorState.Sound
    rw [List.append_nil]
    exact isBoundary_append l r⟩

theorem insert (hseg : seg.Covers) (h : e.Sound) (value : List Char) (maxBytes : Nat) :
    ∃ whole e', e.insert seg value maxBytes = some (whole, e') ∧ e'.Sound := by
  obtain ⟨a, b, htext, hcursor⟩ := h
  unfold EditorState.insert
  split
  · exact ⟨_, e, rfl, a, b, htext, hcursor⟩
  · obtain ⟨inserted, -, -, haccepted, -⟩ := accepted_prefix hseg (normalized value) (maxBytes - byteLength e.text)
    have hinsert : insertStr e.text e.cursor inserted = some (a ++ inserted ++ b) := by
      rw [htext, ← hcursor, insertStr_append]
    simp only [haccepted, hinsert, Option.bind_eq_bind, Option.bind_some]
    exact ⟨_, _, rfl, a ++ inserted, b, rfl, by rw [byteLength_append, hcursor]⟩

theorem moveLeft (hseg : seg.Covers) (h : e.Sound) : EndsSound (e.moveLeft seg) := by
  obtain ⟨a, b, htext, hcursor⟩ := h
  obtain ⟨l, r, rfl, hprevious⟩ := previousGrapheme_append hseg a b
  unfold EditorState.moveLeft
  rw [← htext, hcursor] at hprevious
  rw [hprevious]
  exact moveTo (htext.trans (List.append_assoc l r b))

theorem moveRight (hseg : seg.Covers) (h : e.Sound) : EndsSound (e.moveRight seg) := by
  obtain ⟨a, b, htext, hcursor⟩ := h
  obtain ⟨m, r, rfl, hnext⟩ := nextGrapheme_append hseg a b
  unfold EditorState.moveRight
  rw [← htext, hcursor] at hnext
  rw [hnext]
  exact moveTo (htext.trans (List.append_assoc a m r).symm)

theorem moveLineStart (h : e.Sound) : EndsSound e.moveLineStart := by
  obtain ⟨a, b, htext, hcursor⟩ := h
  obtain ⟨l, r, rfl, -, -, hstart⟩ := lineStart_append a b
  unfold EditorState.moveLineStart
  rw [← htext, hcursor] at hstart
  rw [hstart]
  exact moveTo (htext.trans (List.append_assoc l r b))

theorem moveLineEnd (h : e.Sound) : EndsSound e.moveLineEnd := by
  obtain ⟨a, b, htext, hcursor⟩ := h
  obtain ⟨m, r, rfl, -, hend⟩ := lineEnd_append a b
  unfold EditorState.moveLineEnd
  rw [← htext, hcursor] at hend
  rw [hend]
  exact moveTo (htext.trans (List.append_assoc a m r).symm)

theorem deleteBackward (hseg : seg.Covers) (h : e.Sound) : EndsSound (e.deleteBackward seg) := by
  obtain ⟨a, b, htext, hcursor⟩ := h
  obtain ⟨l, r, rfl, hprevious⟩ := previousGrapheme_append hseg a b
  have hreplace := replaceRange_append l r b []
  unfold EditorState.deleteBackward
  rw [← List.append_assoc, ← htext, hcursor] at hreplace
  rw [← htext, hcursor] at hprevious
  rw [hprevious]
  simp only [Option.bind_eq_bind, Option.bind_some]
  split
  · exact ⟨_, rfl, l ++ r, b, htext, hcursor⟩
  · rw [hreplace]
    exact @delete l b none

theorem deleteForward (hseg : seg.Covers) (h : e.Sound) : EndsSound (e.deleteForward seg) := by
  obtain ⟨a, b, htext, hcursor⟩ := h
  obtain ⟨m, r, rfl, hnext⟩ := nextGrapheme_append hseg a b
  have hreplace := replaceRange_append a m r []
  unfold EditorState.deleteForward
  rw [← htext, hcursor] at hreplace hnext
  rw [hnext]
  simp only [Option.bind_eq_bind, Option.bind_some]
  split
  · exact ⟨_, rfl, a, m ++ r, htext, hcursor⟩
  · rw [hreplace, ← hcursor]
    exact @delete a r none

theorem deleteToLineStart (h : e.Sound) : EndsSound e.deleteToLineStart := by
  obtain ⟨a, b, htext, hcursor⟩ := h
  obtain ⟨l, r, rfl, -, -, hstart⟩ := lineStart_append a b
  have hreplace := replaceRange_append l r b []
  unfold EditorState.deleteToLineStart
  rw [← List.append_assoc, ← htext, hcursor] at hreplace
  rw [← htext, hcursor] at hstart
  rw [hstart]
  simp only [Option.bind_eq_bind, Option.bind_some, hreplace]
  exact @delete l b none

/-- The word before the cursor starts at a boundary of the text before it. -/
theorem deleteWordBackward (hseg : seg.Covers) (h : e.Sound) : EndsSound (e.deleteWordBackward seg) := by
  obtain ⟨a, b, htext, hcursor⟩ := h
  unfold EditorState.deleteWordBackward
  split
  · exact ⟨e, rfl, a, b, htext, hcursor⟩
  rw [htext, ← hcursor, sliceTo_append]
  simp only [Option.bind_eq_bind, Option.bind_some]
  generalize hword : (List.find? _ _ : Option (Nat × List Char)) = word
  obtain ⟨l, r, rfl, heq⟩ : ∃ l r, a = l ++ r ∧ byteLength l = word.elim 0 Prod.fst := by
    cases word with
    | none => exact ⟨[], a, rfl, rfl⟩
    | some word =>
      obtain ⟨ps, qs, hpieces, hindex⟩ := mem_indicesFrom (List.mem_reverse.1 (List.mem_of_find?_eq_some hword))
      obtain ⟨spaces, hspaces⟩ : trimEnd a <+: a := List.rdropWhile_prefix _ _
      have hcover := hseg.wordBounds (trimEnd a)
      rw [hpieces, List.flatten_append] at hcover
      refine ⟨ps.flatten, (word.2 :: qs).flatten ++ spaces, ?_, by simp [hindex]⟩
      rw [← List.append_assoc, hcover, hspaces]
  have hstart : Option.elim word 0 (fun x => x.1) = byteLength l := heq.symm
  rw [hstart, List.append_assoc, replaceRange_append]
  exact @delete l b none

theorem setCursorByVisualPosition (hseg : seg.Covers) (row column width : Nat) :
    (e.setCursorByVisualPosition seg row column width).Sound := by
  obtain ⟨qs, ⟨rest, hrest⟩, heq⟩ :=
    @Valid.hitLoop_boundary seg row column (max width 1) (seg.graphemes e.text) 0 0 0
  rw [hseg.graphemes, Nat.zero_add, Nat.zero_add] at heq
  have htext : e.text = qs.flatten ++ rest.flatten := by rw [← List.flatten_append, hrest, hseg.graphemes]
  unfold EditorState.Sound EditorState.setCursorByVisualPosition EditorState.moveTo
  rw [heq]
  exact ⟨qs.flatten, rest.flatten, htext, rfl⟩

theorem moveVertical (hseg : seg.Covers) (h : e.Sound) (direction : Int) :
    EndsSound (e.moveVertical seg direction) := by
  obtain ⟨a, b, htext, hcursor⟩ := h
  obtain ⟨l, r, rfl, hl, -, hstart⟩ := lineStart_append a b
  obtain ⟨m, r', rfl, hr', hend⟩ := lineEnd_append (l ++ r) b
  rw [← htext, hcursor] at hstart hend
  obtain ⟨column, hcolumn⟩ : ∃ column, aimedColumn seg e (byteLength l) = some column := by
    unfold aimedColumn
    split
    · next column _ => exact ⟨column, rfl⟩
    · have hslice := slice_append l r (m ++ r')
      rw [← List.append_assoc, ← htext, hcursor] at hslice
      exact ⟨seg.width r, by rw [hslice]; rfl⟩
  have hstart' : byteLength l = 0 ∨ ∃ x y, e.text = x ++ '\n' :: y ∧ byteLength l = byteLength x + 1 := by
    rcases hl with rfl | ⟨l', rfl⟩
    · exact .inl rfl
    · exact .inr ⟨l', r ++ (m ++ r'), by simp [htext], by rw [byteLength_append]; rfl⟩
  have hend' : byteLength (l ++ r ++ m) = byteLength e.text ∨
      ∃ x y, e.text = x ++ '\n' :: y ∧ byteLength (l ++ r ++ m) = byteLength x := by
    rcases hr' with rfl | ⟨r', rfl⟩
    · exact .inl (by simp [htext])
    · exact .inr ⟨l ++ r ++ m, r', by simp [htext], rfl⟩
  unfold EditorState.moveVertical
  rw [hstart, hend]
  simp only [Option.bind_eq_bind, Option.bind_some, hcolumn]
  rcases Valid.targetLine_eq hstart' hend' with hnone | ⟨a, line, b, hline, htarget⟩
  · rw [hnone]
    exact ⟨e, rfl, l ++ r, m ++ r', htext, hcursor⟩
  · obtain ⟨x, y, rfl, hbyte⟩ := byteAtDisplayColumn_append hseg a line b column
    rw [htarget]
    simp only [Option.bind_some]
    rw [← hline] at hbyte
    rw [hbyte]
    exact ⟨_, rfl, a ++ x, y ++ b, by simp [hline], rfl⟩

end Sound

end EditorState

/-! ## Places on the screen -/

/-- The cursor of a sound editor is drawn somewhere. -/
theorem EditorState.Sound.drawn (h : e.Sound) (width : Nat) :
    ∃ place, editorCursorPosition seg e.text e.cursor width = some place := by
  obtain ⟨a, b, htext, hcursor⟩ := h
  unfold editorCursorPosition
  rw [htext, ← hcursor, sliceTo_append]
  exact ⟨_, rfl⟩

theorem editorCursorPosition_end (text : List Char) (width : Nat) :
    ∃ place, editorCursorPosition seg text (byteLength text) width = some place := by
  have hsound : EditorState.Sound (EditorState.new.set text) := EditorState.sound_set _ _
  exact hsound.drawn width

end TuiChat
