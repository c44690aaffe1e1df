import TuiChat.Verify.Editor

/-!
# Clicks on the place of the cursor

Drawing and hit testing wrap by two loops. Both go from one place to the next by `advanced`, and places
only grow (`le_drawnAt_foldl`). So the hit loop, asked for the place at which some cursor is drawn,
does not stop before that cursor, and where it stops the cursor is drawn at the place
(`hitLoop_drawn`): a click on the cursor's place leaves it there (`click_round_trip`).
-/

namespace TuiChat

open Lib EditorState

variable {seg : Segmentation} {wrapWidth : Nat}

/-- A prefix of a text that ends between two graphemes has the graphemes up to there. -/
def Segmentation.CutsAtGraphemes (seg : Segmentation) : Prop :=
  ∀ text ps qs, seg.graphemes text = ps ++ qs → seg.graphemes ps.flatten = ps

/-- Where the cursor is drawn: at the end of a full row it goes to the next. -/
def drawnAt (wrapWidth : Nat) (position : Nat × Nat) : Nat × Nat :=
  if position.2 = wrapWidth then (position.1 + 1, 0) else position

theorem editorCursorPosition_eq (text : List Char) (cursor width : Nat) :
    editorCursorPosition seg text cursor width = (sliceTo text cursor).map fun before =>
      let position := drawnAt (max width 1) ((seg.graphemes before).foldl (advanced seg (max width 1)) (0, 0))
      (min position.1 65535, min position.2 65535) := by
  unfold editorCursorPosition
  cases sliceTo text cursor with
  | none => rfl
  | some before => rfl

/-! ## Places in order -/

/-- A place comes no later than another: in an earlier row, or in its row and no further right. -/
def PlaceLe (a b : Nat × Nat) : Prop := a.1 < b.1 ∨ (a.1 = b.1 ∧ a.2 ≤ b.2)

theorem PlaceLe.refl (a : Nat × Nat) : PlaceLe a a := .inr ⟨rfl, Nat.le_refl _⟩

theorem PlaceLe.trans {a b c : Nat × Nat} (h : PlaceLe a b) (h' : PlaceLe b c) : PlaceLe a c := by
  unfold PlaceLe at *
  omega

theorem le_wrapped (row column width : Nat) : PlaceLe (row, column) (wrapped wrapWidth row column width) := by
  unfold wrapped
  split
  · exact .inl (Nat.lt_succ_self _)
  · exact PlaceLe.refl _

theorem le_advanced (position : Nat × Nat) (grapheme : List Char) :
    PlaceLe position (advanced seg wrapWidth position grapheme) := by
  unfold advanced
  split
  · exact .inl (Nat.lt_succ_self _)
  · exact (le_wrapped _ _ _).trans (.inr ⟨rfl, Nat.le_add_right _ _⟩)

theorem le_drawnAt (position : Nat × Nat) : PlaceLe position (drawnAt wrapWidth position) := by
  unfold drawnAt
  split
  · exact .inl (Nat.lt_succ_self _)
  · exact PlaceLe.refl _

/-- Graphemes are drawn no earlier than where they begin. -/
theorem le_drawnAt_foldl (gs : List (List Char)) (position : Nat × Nat) :
    PlaceLe position (drawnAt wrapWidth (gs.foldl (advanced seg wrapWidth) position)) := by
  induction gs generalizing position with
  | nil => exact le_drawnAt position
  | cons g gs ih => exact (le_advanced position g).trans (ih _)

/-! ## The hit loop -/

theorem one_le_graphemeWidth (grapheme : List Char) : 1 ≤ graphemeWidth seg grapheme := Nat.le_max_right _ _

/-- A grapheme other than a newline is hit at the place where the cursor before it is drawn. -/
theorem hit_here (position : Nat × Nat) (grapheme : List Char) :
    let target := drawnAt wrapWidth position
    let place := wrapped wrapWidth position.1 position.2 (graphemeWidth seg grapheme)
    (place.1 = target.1 ∧ target.2 < place.2 + graphemeWidth seg grapheme) ∨ place.1 > target.1 := by
  have hpos : 1 ≤ graphemeWidth seg grapheme := one_le_graphemeWidth grapheme
  unfold drawnAt wrapped
  dsimp only
  by_cases hfull : position.2 = wrapWidth
  · rw [if_pos hfull, if_pos (.inl hfull)]
    exact .inl ⟨rfl, by dsimp only; omega⟩
  · rw [if_neg hfull]
    split
    · exact .inr (Nat.lt_succ_self _)
    · exact .inl ⟨rfl, by dsimp only; omega⟩

/-- Asked for the place at which the cursor behind `qs` is drawn, the loop stops behind graphemes `qs'`
with the cursor drawn at that place. -/
theorem hitLoop_drawn (hwidth : 1 ≤ wrapWidth) : ∀ (ps qs : List (List Char)) (n : Nat) (position : Nat × Nat),
    qs <+: ps →
    let target := drawnAt wrapWidth (qs.foldl (advanced seg wrapWidth) position)
    ∃ qs', qs' <+: ps ∧ drawnAt wrapWidth (qs'.foldl (advanced seg wrapWidth) position) = target ∧
      hitLoop seg target.1 target.2 wrapWidth (n + byteLength ps.flatten) position.1 position.2 n
        (indicesFrom n ps) = n + byteLength qs'.flatten
  | [], qs, n, position, hqs => by
    rw [List.prefix_nil.1 hqs]
    exact ⟨[], List.prefix_rfl, rfl, by simp [indicesFrom, hitLoop]⟩
  | p :: ps, qs, n, position, hqs => by
    intro target
    have hstop : n + byteLength (p :: ps).flatten = n + byteLength p + byteLength ps.flatten := by
      rw [List.flatten_cons, byteLength_append, Nat.add_assoc]
    -- The loop goes on behind `p`, where it meets the place again.
    have hrest : ∀ qs₁, qs₁ <+: ps →
        drawnAt wrapWidth (qs₁.foldl (advanced seg wrapWidth) (advanced seg wrapWidth position p)) = target →
        ∃ qs', qs' <+: p :: ps ∧ drawnAt wrapWidth (qs'.foldl (advanced seg wrapWidth) position) = target ∧
          hitLoop seg target.1 target.2 wrapWidth (n + byteLength (p :: ps).flatten)
            (advanced seg wrapWidth position p).1 (advanced seg wrapWidth position p).2 (n + byteLength p)
            (indicesFrom (n + byteLength p) ps) = n + byteLength qs'.flatten := by
      intro qs₁ hqs₁ htarget
      obtain ⟨qs', hqs', hdrawn, heq⟩ :=
        hitLoop_drawn hwidth ps qs₁ (n + byteLength p) (advanced seg wrapWidth position p) hqs₁
      rw [htarget] at hdrawn heq
      refine ⟨p :: qs', List.cons_prefix_cons.2 ⟨rfl, hqs'⟩, hdrawn, ?_⟩
      rw [hstop, heq, List.flatten_cons, byteLength_append, Nat.add_assoc]
    have hhere : drawnAt wrapWidth position = target →
        ∃ qs', qs' <+: p :: ps ∧ drawnAt wrapWidth (qs'.foldl (advanced seg wrapWidth) position) = target ∧
          n = n + byteLength qs'.flatten := fun h => ⟨[], List.nil_prefix, h, by simp⟩
    rw [indicesFrom, hitLoop]
    cases qs with
    | nil =>
      have htarget : drawnAt wrapWidth position = target := rfl
      by_cases hnewline : p = ['\n']
      · have hadvanced : advanced seg wrapWidth position p = (position.1 + 1, 0) := if_pos hnewline
        rw [if_pos hnewline]
        by_cases hrow : position.1 = target.1
        · rw [if_pos hrow]
          exact hhere htarget
        · rw [if_neg hrow]
          have hfull : position.2 = wrapWidth := by
            by_contra hne
            rw [drawnAt, if_neg hne] at htarget
            exact hrow (by rw [htarget])
          have hagain : drawnAt wrapWidth (advanced seg wrapWidth position p) = target := by
            rw [← htarget, hadvanced, drawnAt, drawnAt, if_pos hfull, if_neg (by dsimp only; omega)]
          have hgo := hrest [] List.nil_prefix hagain
          rw [hadvanced] at hgo
          exact hgo
      · rw [if_neg hnewline]
        dsimp only
        rw [htarget.symm]
        rcases @hit_here seg wrapWidth position p with hhit | hbeyond
        · rw [if_pos hhit]
          exact hhere htarget
        · rw [if_pos hbeyond, ite_self]
          exact hhere htarget
    | cons q qs =>
      obtain ⟨rfl, hbehind⟩ := List.cons_prefix_cons.1 hqs
      have hle : PlaceLe (advanced seg wrapWidth position q) target :=
        le_drawnAt_foldl qs (advanced seg wrapWidth position q)
      have hgo := hrest qs hbehind rfl
      by_cases hnewline : q = ['\n']
      · have hadvanced : advanced seg wrapWidth position q = (position.1 + 1, 0) := if_pos hnewline
        rw [hadvanced] at hle hgo
        have hrow : position.1 ≠ target.1 := by
          unfold PlaceLe at hle
          dsimp only at hle
          omega
        rw [if_pos hnewline, if_neg hrow]
        exact hgo
      · have hadvanced : advanced seg wrapWidth position q =
            ((wrapped wrapWidth position.1 position.2 (graphemeWidth seg q)).1,
              (wrapped wrapWidth position.1 position.2 (graphemeWidth seg q)).2 + graphemeWidth seg q) :=
          if_neg hnewline
        rw [hadvanced] at hle hgo
        unfold PlaceLe at hle
        dsimp only at hle hgo ⊢
        rw [if_neg hnewline, if_neg (by omega), if_neg (by omega)]
        exact hgo

/-- The cursor that a click on a cursor's place gives is drawn there. -/
theorem click_round_trip (hseg : seg.Covers) (hcuts : seg.CutsAtGraphemes) (e : EditorState)
    {ps qs : List (List Char)} (hcursor : seg.graphemes e.text = ps ++ qs) (width : Nat) {row column : Nat}
    (hdrawn : editorCursorPosition seg e.text (byteLength ps.flatten) width = some (row, column))
    (hrow : row < 65535) (hcolumn : column < 65535) :
    editorCursorPosition seg e.text (e.setCursorByVisualPosition seg row column width).cursor width =
      some (row, column) := by
  have htext : ∀ qs', qs' <+: ps ++ qs →
      (sliceTo e.text (byteLength qs'.flatten)).map seg.graphemes = some qs' := by
    rintro qs' ⟨rest, hrest⟩
    have hsplit : e.text = qs'.flatten ++ rest.flatten := by
      rw [← hseg.graphemes e.text, hcursor, ← hrest, List.flatten_append]
    rw [hsplit, sliceTo_append, Option.map_some, hcuts e.text qs' rest (by rw [hcursor, hrest])]
  have hposition : ∀ qs', qs' <+: ps ++ qs →
      editorCursorPosition seg e.text (byteLength qs'.flatten) width =
        some (min (drawnAt (max width 1) (qs'.foldl (advanced seg (max width 1)) (0, 0))).1 65535,
          min (drawnAt (max width 1) (qs'.foldl (advanced seg (max width 1)) (0, 0))).2 65535) := by
    intro qs' hqs'
    obtain ⟨before, hbefore, hgraphemes⟩ := Option.map_eq_some_iff.1 (htext qs' hqs')
    rw [editorCursorPosition_eq, hbefore, Option.map_some, hgraphemes]
  rw [hposition ps (List.prefix_append ps qs)] at hdrawn
  have htarget : drawnAt (max width 1) (ps.foldl (advanced seg (max width 1)) (0, 0)) = (row, column) := by
    have hpair := Option.some.inj hdrawn
    have hfst : min _ 65535 = row := congrArg Prod.fst hpair
    have hsnd : min _ 65535 = column := congrArg Prod.snd hpair
    exact Prod.ext (by omega) (by omega)
  obtain ⟨qs', hqs', hagain, hhit⟩ := @hitLoop_drawn seg _ (Nat.le_max_right width 1) (ps ++ qs) ps 0 (0, 0)
    (List.prefix_append ps qs)
  rw [htarget] at hagain hhit
  have hnew : (e.setCursorByVisualPosition seg row column width).cursor = byteLength qs'.flatten := by
    rw [Nat.zero_add, Nat.zero_add, ← hcursor, hseg.graphemes] at hhit
    exact hhit
  rw [hnew, hposition qs' hqs', hagain, Nat.min_eq_left (by omega), Nat.min_eq_left (by omega)]

namespace Scenario.Editor

theorem plain_cuts : plain.CutsAtGraphemes := by
  intro text ps qs h
  have hps : ps = (text.map fun c => [c]).take ps.length := by
    have htake := congrArg (List.take ps.length) h
    rw [List.take_left] at htake
    exact htake.symm
  have hsingle : ∀ cs : List Char, plain.graphemes (cs.map fun c => [c]).flatten = cs.map fun c => [c] :=
    fun cs => congrArg plain.graphemes (plain_covers.graphemes cs)
  rw [hps, ← List.map_take]
  exact hsingle _

/-- A newline at the end of a full row, and a wide ideograph that does not fit. -/
def page : EditorState := EditorState.new.set "abc\nde中".toList

/-- The cursors before and behind the newline are drawn at one place, and a click on it gives the second. -/
theorem click_round_trip_page :
    (page.setCursorByVisualPosition plain 1 0 3).cursor = 4 ∧
    editorCursorPosition plain page.text 3 3 = some (1, 0) ∧
    editorCursorPosition plain page.text
      (page.setCursorByVisualPosition plain 1 0 3).cursor 3 = some (1, 0) := by
  have hdrawn : editorCursorPosition plain page.text 3 3 = some (1, 0) := by decide
  have hsplit : plain.graphemes page.text = ["a".toList, "b".toList, "c".toList] ++
      ["\n".toList, "d".toList, "e".toList, "中".toList] := by decide
  exact ⟨by decide, hdrawn, click_round_trip plain_covers plain_cuts page hsplit 3 hdrawn (by decide) (by decide)⟩

end Scenario.Editor

end TuiChat
