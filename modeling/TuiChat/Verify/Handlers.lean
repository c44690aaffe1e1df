import TuiChat.Client.Drawing
import TuiChat.Verify.Cursor
import TuiChat.Verify.Composer

/-!
# What a handler of the terminal does

`Behaves A D E m`: from a sound terminal, `m` does not panic, ends with an error only where `E`, performs
only actions of `A`, and opens the dialog only for targets of `D`. Every handler is given such a
description, composed of those of its parts.
-/

namespace TuiChat

open Lib
open Lib.Prog (wp)

variable {P : Primitives}

/-- A restart would show the same theme, and the same sidebar. -/
def Remembers (preferences : Table (Prod.fst : String × String → String)) (s : Screen) : Prop :=
  (Screen.ofPreferences preferences s.mouseEnabled).theme = s.theme ∧
    (Screen.ofPreferences preferences s.mouseEnabled).sidebarCollapsed = s.sidebarCollapsed

/-- The cursor is on a boundary of the text, which is the one that the client has; the picker has columns of a `u16`;
and the preferences are those that are saved. -/
structure Terminal.Sound (t : Terminal P) : Prop where
  cursor : t.screen.editor.Sound
  shown : t.world.app.editor.toList = t.screen.editor.text
  columns : t.screen.emojiPicker.columns < 65536
  remembered : Remembers t.preferences t.screen

/-- What a handler makes of a terminal: it is sound, the actions are of `A`, and the dialog is of the target it was
of, or of one of `D`. -/
structure Handled (A : Action → Prop) (D : DeleteTarget → Prop) (t t' : Terminal P) : Prop where
  sound : t'.Sound
  stopped : t'.stopped = t.stopped
  performed : ∃ actions, t'.performed = actions ++ t.performed ∧ ∀ a ∈ actions, A a
  dialog : ∀ d', t'.screen.deleteConfirmation = some d' →
    (∃ d, t.screen.deleteConfirmation = some d ∧ d.target = d'.target) ∨ D d'.target

variable {A : Action → Prop} {D : DeleteTarget → Prop} {E : Prop} {t t' t'' : Terminal P}

namespace Handled

/-- What leaves the actions and the dialog alone. -/
theorem aside (h : t'.Sound) (hs : t'.stopped = t.stopped) (hp : t'.performed = t.performed)
    (hd : t'.screen.deleteConfirmation = t.screen.deleteConfirmation) : Handled A D t t' where
  sound := h
  stopped := hs
  performed := ⟨[], hp, nofun⟩
  dialog d' hd' := .inl ⟨d', hd ▸ hd', rfl⟩

theorem refl (h : t.Sound) : Handled A D t t := aside h rfl rfl rfl

theorem trans (h : Handled A D t t') (h' : Handled A D t' t'') : Handled A D t t'' where
  sound := h'.sound
  stopped := h'.stopped.trans h.stopped
  performed := by
    obtain ⟨as, has, hA⟩ := h.performed
    obtain ⟨bs, hbs, hB⟩ := h'.performed
    refine ⟨bs ++ as, by rw [hbs, has, List.append_assoc], fun a ha => ?_⟩
    exact (List.mem_append.1 ha).elim (hB a) (hA a)
  dialog d'' hd'' := by
    rcases h'.dialog d'' hd'' with ⟨d', hd', htarget⟩ | hD
    · rcases h.dialog d' hd' with ⟨d, hd, heq⟩ | hD
      · exact .inl ⟨d, hd, heq.trans htarget⟩
      · exact .inr (htarget ▸ hD)
    · exact .inr hD

end Handled

def BehavesAt {α : Type} (A : Action → Prop) (D : DeleteTarget → Prop) (E : Prop) (t : Terminal P) (m : TermM P α) :
    Prop :=
  wp m (fun _ => Handled A D t) (fun e t' => Handled A D t t' ∧ e ≠ .panicked ∧ E) t

def Behaves {α : Type} (A : Action → Prop) (D : DeleteTarget → Prop) (E : Prop) (m : TermM P α) : Prop :=
  ∀ t, t.Sound → BehavesAt A D E t m

section Rules

variable {α β : Type} {m : TermM P α} {f : α → TermM P β}

theorem BehavesAt.bind (h : BehavesAt A D E t m) (hf : ∀ a, Behaves A D E (f a)) : BehavesAt A D E t (m >>= f) :=
  wp.bind h fun a t' ht' => (hf a t' ht'.sound).mono (fun _ _ h => ht'.trans h)
    fun _ _ h => ⟨ht'.trans h.1, h.2⟩

/-- The state is read, and kept in mind. -/
theorem BehavesAt.gets {g : Terminal P → α} (h : BehavesAt A D E t (f (g t))) :
    BehavesAt A D E t (Prog.gets g >>= f) := (Prog.wp_bind _ _).2 h

theorem BehavesAt.ite {c : Prop} [Decidable c] {n : TermM P α} (hm : c → BehavesAt A D E t m)
    (hn : ¬c → BehavesAt A D E t n) : BehavesAt A D E t (if c then m else n) := (Prog.wp_ite ..).2 ⟨hm, hn⟩

theorem BehavesAt.ensure {c : Prop} [Decidable c] {e : Error} {f : Unit → TermM P β} (ht : t.Sound) (hE : E)
    (hf : c → BehavesAt A D E t (f ())) : BehavesAt A D E t (Prog.ensure c (.failed e) >>= f) :=
  wp.ensure ⟨.refl ht, nofun, hE⟩ hf

theorem BehavesAt.orFail {o : Option α} {e : Error} (ht : t.Sound) (hE : E)
    (hf : ∀ a, o = some a → BehavesAt A D E t (f a)) : BehavesAt A D E t (Prog.orFail o (.failed e) >>= f) :=
  wp.orFail ⟨.refl ht, nofun, hE⟩ hf

/-- A step that cannot panic. -/
theorem BehavesAt.some {o : Option α} {a : α} (ho : o = some a) (hf : BehavesAt A D E t (f a)) :
    BehavesAt A D E t (Prog.orFail o .panicked >>= f) := by
  rw [ho]
  exact (Prog.wp_bind _ _).2 hf

/-- A check that always succeeds. -/
theorem BehavesAt.holds {c : Prop} [Decidable c] {e : Stop} {f : Unit → TermM P β} (hc : c)
    (hf : BehavesAt A D E t (f ())) : BehavesAt A D E t (Prog.ensure c e >>= f) :=
  (Prog.wp_bind _ _).2 ((Prog.wp_ensure _ _).2 ⟨fun _ => hf, fun h => absurd hc h⟩)

/-- The state changes, and what it is then is kept in mind. -/
theorem BehavesAt.modify {g : Terminal P → Terminal P} {f : Unit → TermM P β} (hg : Handled A D t (g t))
    (hf : BehavesAt A D E (g t) (f ())) : BehavesAt A D E t (Prog.modify g >>= f) := by
  have hf : wp (f ()) _ _ (g t) := hf
  exact (Prog.wp_bind _ _).2 (hf.mono (fun _ _ h => hg.trans h) fun _ _ h => ⟨hg.trans h.1, h.2⟩)

namespace Behaves

theorem bind (h : Behaves A D E m) (hf : ∀ a, Behaves A D E (f a)) : Behaves A D E (m >>= f) :=
  fun t ht => (h t ht).bind hf

theorem pure (a : α) : Behaves A D E (pure a : TermM P α) := fun _ ht => Handled.refl ht

theorem gets (g : Terminal P → α) : Behaves A D E (Prog.gets g : TermM P α) := fun _ ht => Handled.refl ht

theorem fail (hE : E) (e : Error) : Behaves A D E (Prog.fail (.failed e) : TermM P α) :=
  fun _ ht => ⟨.refl ht, nofun, hE⟩

theorem ite {c : Prop} [Decidable c] {n : TermM P α} (hm : c → Behaves A D E m) (hn : ¬c → Behaves A D E n) :
    Behaves A D E (if c then m else n) :=
  fun t ht => .ite (fun h => hm h t ht) fun h => hn h t ht

theorem iteTrue {c : Prop} [Decidable c] {n : TermM P α} (hm : Behaves A D E m) (hn : Behaves A D E n) :
    Behaves A D E (if c then m else n) := .ite (fun _ => hm) fun _ => hn

theorem modify {g : Terminal P → Terminal P} (h : ∀ t, t.Sound → Handled A D t (g t)) :
    Behaves A D E (Prog.modify g : TermM P Unit) := h

theorem mono {A' : Action → Prop} {D' : DeleteTarget → Prop} {E' : Prop} (h : Behaves A D E m)
    (hA : ∀ a, A a → A' a) (hD : ∀ d, D d → D' d) (hE : E → E') : Behaves A' D' E' m := fun t ht =>
  have handled : ∀ {t'}, Handled A D t t' → Handled A' D' t t' := fun h =>
    { sound := h.sound
      stopped := h.stopped
      performed := h.performed.imp fun _ h => ⟨h.1, fun a ha => hA a (h.2 a ha)⟩
      dialog := fun d' hd' => (h.dialog d' hd').imp_right (hD _) }
  (h t ht).mono (fun _ _ h => handled h) fun _ _ h => ⟨handled h.1, h.2.1, hE h.2.2⟩

end Behaves

end Rules

/-! ## Effects -/

/-- A change of the screen that leaves the text, the columns, the dialog and the preferences alone. -/
theorem behaves_modifyScreen {f : Screen → Screen}
    (h : ∀ s, (f s).editor = s.editor ∧ (f s).emojiPicker.columns = s.emojiPicker.columns ∧
      (f s).deleteConfirmation = s.deleteConfirmation ∧ (f s).theme = s.theme ∧
      (f s).sidebarCollapsed = s.sidebarCollapsed) : Behaves A D E (modifyScreen f : TermM P Unit) :=
  .modify fun t ht => by
    obtain ⟨heditor, hcolumns, hdialog, htheme, hcollapsed⟩ := h t.screen
    refine .aside ⟨?_, ?_, ?_, ?_, ?_⟩ rfl rfl hdialog
    · show (f t.screen).editor.Sound
      rw [heditor]
      exact ht.cursor
    · exact ht.shown.trans (congrArg EditorState.text heditor.symm)
    · exact hcolumns ▸ ht.columns
    · exact ht.remembered.1.trans htheme.symm
    · exact ht.remembered.2.trans hcollapsed.symm

theorem behaves_getScreen {α : Type} (f : Screen → α) : Behaves A D E (getScreen f : TermM P α) := .gets _

theorem behaves_inform (status : String) : Behaves A D E (inform status : TermM P Unit) :=
  .modify fun _ ht => .aside ⟨ht.cursor, ht.shown, ht.columns, ht.remembered⟩ rfl rfl rfl

theorem Screen.follow_eq (s : Screen) (w w' : World P) :
    ∃ scroll below, s.follow w w' = { s with messageScroll := scroll, newMessagesBelow := below } ∧
        w'.app.editor = w.app.editor ∨
      s.follow w w' = { s with
        editor := s.editor.set w'.app.editor.toList, messageScroll := scroll, newMessagesBelow := below } := by
  unfold Screen.follow
  by_cases hedit : w'.app.editor = w.app.editor ∧ (w.since w').any Event.opens = false <;>
    by_cases hload : (w.since w').any Event.loads = true
  · exact ⟨0, 0, .inl ⟨by simp only [if_pos hedit, hload, if_true], hedit.1⟩⟩
  · exact ⟨s.messageScroll, s.newMessagesBelow, .inl ⟨by simp only [if_pos hedit, if_neg hload], hedit.1⟩⟩
  · exact ⟨0, 0, .inr (by simp only [if_neg hedit, hload, if_true])⟩
  · exact ⟨s.messageScroll, s.newMessagesBelow, .inr (by simp only [if_neg hedit, if_neg hload])⟩

/-- The screen that follows a method shows the text that the client has. -/
theorem Terminal.Sound.follow (h : t.Sound) (w : World P) {t' : Terminal P} (hw : t'.world = w)
    (hs : t'.screen = t.screen.follow t.world w) (hp : t'.preferences = t.preferences) : t'.Sound := by
  obtain ⟨scroll, below, ⟨hfollow, heditor⟩ | hfollow⟩ := t.screen.follow_eq t.world w
  · have heq := hs.trans hfollow
    exact ⟨by rw [heq]; exact h.cursor, by rw [heq, hw, heditor]; exact h.shown, by rw [heq]; exact h.columns,
      by rw [heq, hp]; exact h.remembered⟩
  · have heq := hs.trans hfollow
    exact ⟨by rw [heq]; exact EditorState.sound_set t.screen.editor _, by rw [heq, hw]; rfl,
      by rw [heq]; exact h.columns, by rw [heq, hp]; exact h.remembered⟩

theorem Screen.follow_dialog (s : Screen) (w w' : World P) :
    (s.follow w w').deleteConfirmation = s.deleteConfirmation := by
  obtain ⟨scroll, below, ⟨hfollow, -⟩ | hfollow⟩ := s.follow_eq w w' <;> rw [hfollow]

section

variable {env : Environment} {senv : ScreenEnvironment}

/-- The terminal after an action that took the client to `w`. -/
def Terminal.acted (t : Terminal P) (a : Action) (w : World P) : Terminal P :=
  { t with world := w, screen := t.screen.follow t.world w, performed := a :: t.performed }

theorem wp_perform {a : Action} {Q : Unit → Terminal P → Prop} {F : Stop → Terminal P → Prop} :
    wp (perform env a) Q F t ↔
      wp (runAction env a) (fun u w => Q u (t.acted a w)) (fun e w => F (.failed e) (t.acted a w)) t.world := by
  unfold wp perform Prog.exec
  dsimp only
  rcases runAction env a t.world with ⟨_ | _, _⟩ <;> rfl

theorem handled_acted {a : Action} (ht : t.Sound) (hA : A a) (w : World P) : Handled A D t (t.acted a w) where
  sound := ht.follow w rfl rfl rfl
  stopped := rfl
  performed := ⟨[a], rfl, fun _ hb => List.mem_singleton.1 hb ▸ hA⟩
  dialog d' hd' := .inl ⟨d', (Screen.follow_dialog ..).symm.trans hd', rfl⟩

/-- The action is one of `A`, and its error is the handler's. -/
theorem behavesAt_perform {a : Action} (ht : t.Sound) (hA : A a) (hE : E) : BehavesAt A D E t (perform env a) :=
  wp_perform.2 (Prog.wp.trivial.mono (fun _ w _ => handled_acted ht hA w)
    fun _ w _ => ⟨handled_acted ht hA w, nofun, hE⟩)

theorem behaves_perform {a : Action} (hA : A a) (hE : E) : Behaves A D E (perform env a : TermM P Unit) :=
  fun _ ht => behavesAt_perform ht hA hE

/-- An action that always ends well. -/
theorem behaves_performTotal {a : Action} (hA : A a) (h : Prog.Total (runAction env a : ClientM P Unit)) :
    Behaves A D E (perform env a : TermM P Unit) := fun t ht =>
  wp_perform.2 ((h t.world).mono (fun _ w _ => handled_acted ht hA w) fun _ _ h => h.elim)

theorem behavesAt_reporting {text : Error → String} {m : TermM P Unit} (h : BehavesAt A D True t m) :
    BehavesAt A D E t (reporting text m) := by
  unfold BehavesAt wp reporting at *
  rcases hm : m t with ⟨e | u, t'⟩ <;> rw [hm] at h
  · cases e with
    | failed e => exact h.1.trans (.aside ⟨h.1.sound.cursor, h.1.sound.shown, h.1.sound.columns, h.1.sound.remembered⟩ rfl rfl rfl)
    | panicked => exact absurd rfl h.2.1
  · exact h

theorem behaves_reporting {text : Error → String} {m : TermM P Unit} (h : Behaves A D True m) :
    Behaves A D E (reporting text m) := fun t ht => behavesAt_reporting (h t ht)

theorem behaves_writeText {e : EditorState} (he : e.Sound) : Behaves A D E (writeText e : TermM P Unit) :=
  .modify fun _ ht => .aside ⟨he, String.toList_ofList, ht.columns, ht.remembered⟩ rfl rfl rfl

theorem behaves_edit {op : EditorState → Option EditorState} (h : ∀ e, e.Sound → EndsSound (op e)) :
    Behaves A D E (edit op : TermM P Unit) := fun t ht => by
  obtain ⟨e, he, hsound⟩ := h _ ht.cursor
  exact BehavesAt.gets (BehavesAt.some he (behaves_writeText hsound t ht))

/-- A preference is saved, and only then shown. -/
theorem behaves_saved (hE : E) {key value : String} {f : Screen → Screen}
    (hf : ∀ s, (f s).editor = s.editor ∧ (f s).emojiPicker.columns = s.emojiPicker.columns ∧
      (f s).deleteConfirmation = s.deleteConfirmation)
    (hsaved : ∀ t : Terminal P, t.Sound → Remembers (t.preferences.put (key, value)) (f t.screen)) :
    Behaves A D E (do savePreference senv key value; modifyScreen f : TermM P Unit) := fun t ht => by
  unfold BehavesAt savePreference modifyScreen
  simp only [Prog.bind_assoc, Prog.wp_bind, Prog.wp_gets, Prog.wp_modify, Prog.wp_ensure]
  refine ⟨fun _ => .aside ⟨?_, ?_, ?_, hsaved t ht⟩ rfl rfl (hf t.screen).2.2,
    fun _ => ⟨.aside ⟨ht.cursor, ht.shown, ht.columns, ht.remembered⟩ rfl rfl rfl, (fun h => by cases h), hE⟩⟩
  · show (f t.screen).editor.Sound
    rw [(hf t.screen).1]
    exact ht.cursor
  · exact ht.shown.trans (congrArg EditorState.text (hf t.screen).1.symm)
  · exact (hf t.screen).2.1 ▸ ht.columns

/-! ## Completion and text -/

theorem behaves_refreshCompletion : Behaves A D E (refreshCompletion : TermM P Unit) :=
  .modify fun _ ht => .aside ⟨ht.cursor, ht.shown, ht.columns, ht.remembered⟩ rfl rfl rfl

theorem behaves_closeCompletion : Behaves A D E (closeCompletion : TermM P Unit) :=
  behaves_modifyScreen fun _ => ⟨rfl, rfl, rfl, rfl, rfl⟩

theorem behaves_cycleCompletion (direction : Int) : Behaves A D E (cycleCompletion direction : TermM P Unit) :=
  behaves_modifyScreen fun _ => ⟨rfl, rfl, rfl, rfl, rfl⟩

theorem behaves_set (text : List Char) : Behaves A D E (edit fun e => some (e.set text) : TermM P Unit) :=
  behaves_edit fun e _ => ⟨_, rfl, e.sound_set text⟩

theorem behaves_applyCompletion : Behaves A D E (applyCompletion : TermM P Unit) :=
  .bind (behaves_getScreen _) fun candidate => by
    cases candidate with
    | none => exact .pure _
    | some candidate => exact behaves_set _

theorem behaves_insertText (hseg : senv.seg.Covers) (value : List Char) :
    Behaves A D E (insertText senv value : TermM P Bool) := fun t ht => by
  obtain ⟨whole, e, he, hsound⟩ := ht.cursor.insert hseg value maxTextBytes
  exact .gets (.some he ((behaves_writeText hsound t ht).bind fun _ => .pure _))

theorem behaves_typeText (hseg : senv.seg.Covers) (value : List Char) :
    Behaves A D E (typeText senv value : TermM P Unit) :=
  .bind (behaves_modifyScreen fun _ => ⟨rfl, rfl, rfl, rfl, rfl⟩) fun _ => .bind (behaves_insertText hseg value) fun _ => .pure _

theorem behaves_editAndComplete {op : EditorState → Option EditorState} (h : ∀ e, e.Sound → EndsSound (op e)) :
    Behaves A D E (editAndComplete op : TermM P Unit) :=
  .bind (behaves_edit h) fun _ => behaves_refreshCompletion

/-! ## Scrolling -/

theorem exists_mapM {α β : Type} {f : α → Option β} (h : ∀ a, ∃ b, f a = some b) :
    ∀ as : List α, ∃ bs, as.mapM f = some bs
  | [] => ⟨[], rfl⟩
  | a :: as => by
    obtain ⟨b, hb⟩ := h a
    obtain ⟨bs, hbs⟩ := exists_mapM h as
    exact ⟨b :: bs, by rw [List.mapM_cons, hb, hbs]; rfl⟩

theorem editorVisualLineCount_eq_some (text : List Char) (width : Nat) :
    ∃ n, editorVisualLineCount senv.seg text width = some n := by
  obtain ⟨place, hplace⟩ := @editorCursorPosition_end senv.seg text width
  exact ⟨place.1 + 1, by unfold editorVisualLineCount; rw [hplace]; rfl⟩

theorem behaves_visualLinesForMessages (messages : List ChatMessage) :
    Behaves A D E (visualLinesForMessages senv messages : TermM P Nat) := fun t ht => by
  obtain ⟨lines, hlines⟩ := exists_mapM (fun m => @editorVisualLineCount_eq_some senv (renderedMessage t m)
    (max (t.screen.layout.messages.width - 2) 1)) messages
  exact .gets (.some hlines (Behaves.pure _ t ht))

theorem behaves_messageScrollMaximum : Behaves A D E (messageScrollMaximum senv : TermM P Nat) :=
  .bind (.gets _) fun _ => .bind (behaves_visualLinesForMessages _) fun _ => .bind (behaves_getScreen _) fun _ => .pure _

theorem behaves_scrollTo (n : Nat) : Behaves A D E (scrollTo n : TermM P Unit) :=
  behaves_modifyScreen fun _ => ⟨rfl, rfl, rfl, rfl, rfl⟩

theorem behaves_scrollMessages (delta : Int) : Behaves A D E (scrollMessages senv delta : TermM P Unit) :=
  .bind behaves_messageScrollMaximum fun _ => .bind (behaves_getScreen _) fun _ => behaves_scrollTo _

theorem behaves_scrollMessagesToBottom : Behaves A D E (scrollMessagesToBottom : TermM P Unit) :=
  behaves_modifyScreen fun _ => ⟨rfl, rfl, rfl, rfl, rfl⟩

theorem behaves_scrollMessagesToTop : Behaves A D E (scrollMessagesToTop senv : TermM P Unit) :=
  .bind behaves_messageScrollMaximum fun _ => behaves_modifyScreen fun _ => ⟨rfl, rfl, rfl, rfl, rfl⟩

theorem behaves_searchLoadedMessages (hE : E) (query : List Char) :
    Behaves A D E (searchLoadedMessages senv query : TermM P Unit) := fun _ ht =>
  .ensure ht hE fun _ => .gets (.orFail ht hE fun _ _ =>
    (behaves_visualLinesForMessages _ _ ht).bind fun _ =>
      .bind (behaves_modifyScreen fun _ => ⟨rfl, rfl, rfl, rfl, rfl⟩) fun _ => behaves_inform _)

/-- Deleting something, or revoking a device. -/
def Action.deletes : Action → Bool
  | .deleteConversation .. | .deleteNotification .. | .revokeDevice .. => true
  | _ => false

/-- What neither deletes nor sends a text. -/
def Action.harmless : Action → Bool
  | .sendText _ => false
  | a => !a.deletes

theorem behaves_loadOlder (hA : ∀ a, a.harmless = true → A a) (hE : E) :
    Behaves A D E (loadOlder env senv : TermM P Unit) :=
  .bind (.gets _) fun _ => .bind (.gets _) fun _ => .iteTrue (.pure _) (.bind behaves_messageScrollMaximum fun _ =>
    .bind (behaves_getScreen _) fun _ => .iteTrue (.pure _) (.bind (behaves_perform (hA _ rfl) hE) fun _ =>
      .bind (.gets _) fun _ => .iteTrue (.pure _) (.bind (behaves_visualLinesForMessages _) fun _ =>
        .bind behaves_messageScrollMaximum fun _ => .bind (behaves_modifyScreen fun _ => ⟨rfl, rfl, rfl, rfl, rfl⟩) fun _ =>
          behaves_inform _)))

/-! ## The emoji picker -/

theorem behaves_modifyPicker {f : EmojiPickerState → EmojiPickerState} (h : ∀ p, (f p).columns = p.columns) :
    Behaves A D E (modifyPicker f : TermM P Unit) := behaves_modifyScreen fun s => ⟨rfl, h s.emojiPicker, rfl, rfl, rfl⟩

theorem behaves_hideEmojiPicker : Behaves A D E (hideEmojiPicker : TermM P Unit) :=
  behaves_modifyScreen fun _ => ⟨rfl, rfl, rfl, rfl, rfl⟩

theorem behaves_appendEmojiQuery (text : List Char) : Behaves A D E (appendEmojiQuery senv text : TermM P Unit) :=
  behaves_modifyPicker fun _ => rfl

theorem behaves_openEmojiPicker (query : List Char) : Behaves A D E (openEmojiPicker senv query : TermM P Unit) :=
  .bind (behaves_modifyPicker fun _ => rfl) fun _ => .bind (behaves_appendEmojiQuery _) fun _ =>
    .bind (behaves_modifyScreen fun _ => ⟨rfl, rfl, rfl, rfl, rfl⟩) fun _ => behaves_inform _

theorem behaves_toggleEmojiPicker : Behaves A D E (toggleEmojiPicker senv : TermM P Unit) :=
  .bind (behaves_getScreen _) fun _ => .iteTrue behaves_hideEmojiPicker (behaves_openEmojiPicker _)

theorem behaves_cycleEmoji (direction : Int) : Behaves A D E (cycleEmoji senv direction : TermM P Unit) :=
  .bind (behaves_getScreen _) fun _ => behaves_modifyPicker fun p => by split <;> rfl

theorem matchingEmojis_lt {lower : List Char → List Char} {query : List Char} {index : Nat}
    (h : index ∈ matchingEmojis lower query) : index < emojiCatalog.length := by
  obtain ⟨⟨emoji, i⟩, hmem, rfl⟩ := List.mem_map.1 h
  have hlt := List.snd_lt_of_mem_zipIdx (List.mem_filter.1 hmem).1
  exact hlt

theorem behaves_insertSelectedEmoji (hseg : senv.seg.Covers) :
    Behaves A D E (insertSelectedEmoji senv : TermM P Unit) := fun t ht => .gets (.gets (by
  cases hindex : (matchingEmojis senv.toLowercase t.screen.emojiPicker.query)[t.screen.emojiPicker.selected]? with
  | none => exact behaves_inform _ t ht
  | some index =>
    have hemoji := List.getElem?_eq_getElem (matchingEmojis_lt (List.mem_of_getElem? hindex))
    exact .some hemoji ((behaves_insertText hseg _ t ht).bind fun _ => .bind (behaves_inform _) fun _ =>
      .bind behaves_hideEmojiPicker fun _ => .bind (behaves_modifyScreen fun _ => ⟨rfl, rfl, rfl, rfl, rfl⟩) fun _ =>
        behaves_refreshCompletion)))

/-- The last grapheme of the query starts at a boundary of it. -/
theorem sliceTo_last_grapheme (hseg : senv.seg.Covers) {query piece : List Char} {index : Nat}
    (h : (indicesFrom 0 (senv.seg.graphemes query)).getLast? = some (index, piece)) :
    ∃ rest, sliceTo query index = some rest := by
  obtain ⟨ps, qs, hpieces, hindex⟩ := mem_indicesFrom (List.mem_of_getLast? h)
  have hquery : query = ps.flatten ++ (piece :: qs).flatten := by
    rw [← List.flatten_append, ← hpieces, hseg.graphemes]
  refine ⟨ps.flatten, ?_⟩
  rw [hindex, Nat.zero_add, hquery, sliceTo_append]

theorem behaves_shortenEmojiQuery (hseg : senv.seg.Covers) :
    Behaves A D E (shortenEmojiQuery senv : TermM P Unit) := fun t ht => .gets (by
  dsimp only
  split
  · exact (Behaves.pure _ t ht).bind fun _ => behaves_modifyPicker fun _ => rfl
  · next index piece hlast =>
    obtain ⟨rest, hrest⟩ := sliceTo_last_grapheme hseg hlast
    refine .some hrest (behaves_modifyPicker ?_ t ht)
    exact fun _ => rfl)

theorem behaves_handleEmojiKey (hseg : senv.seg.Covers) (key : KeyEvent) :
    Behaves A D E (handleEmojiKey senv key : TermM P Unit) := by
  refine .bind (behaves_getScreen _) fun _ => .bind (behaves_getScreen _) fun _ => ?_
  obtain ⟨code, control, shift, alt, kind⟩ := key
  cases code with
  | esc => exact behaves_hideEmojiPicker
  | enter => exact behaves_insertSelectedEmoji hseg
  | left | right | up | down | pageUp | pageDown | tab | backTab => exact behaves_cycleEmoji _
  | backspace => exact behaves_shortenEmojiQuery hseg
  | char c =>
    exact .iteTrue (behaves_modifyPicker fun _ => rfl) (.iteTrue (.pure _) (behaves_appendEmojiQuery _))
  | home | lineEnd | delete | f n | other => exact .pure _

/-! ## Themes, the sidebar and the devices -/

theorem parse_name (theme : UiTheme) : UiTheme.parse theme.name.toList = some theme := by cases theme <;> decide

theorem behaves_setTheme (hE : E) (name : List Char) : Behaves A D E (setTheme senv name : TermM P Unit) := fun t ht =>
  .orFail ht hE fun theme _ => by
    rw [← Prog.bind_assoc]
    refine ((behaves_saved hE ?_ fun t ht => ⟨?_, ?_⟩) t ht).bind fun _ => behaves_inform _
    · exact fun _ => ⟨rfl, rfl, rfl⟩
    · show (((t.preferences.put ("theme", theme.name)).find "theme").bind fun row => UiTheme.parse row.2.toList).getD
        .default = theme
      rw [Table.find_put_self (a := ("theme", theme.name)), Option.bind_some, parse_name]
      rfl
    · show ((t.preferences.put ("theme", theme.name)).find "sidebar_collapsed").any _ = _
      have hne : "sidebar_collapsed" ≠ "theme" := by decide
      rw [Table.find_put_ne (a := ("theme", theme.name)) hne]
      exact ht.remembered.2

theorem behaves_setSidebarCollapsed (hE : E) (collapsed : Bool) :
    Behaves A D E (setSidebarCollapsed senv collapsed : TermM P Unit) := by
  unfold setSidebarCollapsed
  rw [← Prog.bind_assoc]
  refine (behaves_saved hE ?_ fun t ht => ⟨?_, ?_⟩).bind fun _ => behaves_inform _
  · exact fun _ => ⟨rfl, rfl, rfl⟩
  · show (((t.preferences.put ("sidebar_collapsed", _)).find "theme").bind _).getD _ = _
    have hne : "theme" ≠ "sidebar_collapsed" := by decide
    rw [Table.find_put_ne (a := ("sidebar_collapsed", if collapsed then "true" else "false")) hne]
    exact ht.remembered.1
  · show ((t.preferences.put ("sidebar_collapsed", _)).find "sidebar_collapsed").any _ = collapsed
    rw [Table.find_put_self (a := ("sidebar_collapsed", if collapsed then "true" else "false"))]
    cases collapsed <;> rfl

theorem behaves_toggleSidebar (hE : E) : Behaves A D E (toggleSidebar senv : TermM P Unit) :=
  .bind (behaves_getScreen _) fun _ => behaves_setSidebarCollapsed hE _

theorem behaves_refreshOwnDevices (hE : E) : Behaves A D E (refreshOwnDevices env : TermM P Unit) := fun t ht => by
  have heditor := (@listOwnDevices_composing P env t.world).editor
  unfold BehavesAt wp refreshOwnDevices
  dsimp only
  rcases hrun : (listOwnDevices env).exec t.world with ⟨e | u, w⟩ <;> rw [hrun] at heditor
  · exact ⟨.aside ⟨ht.cursor, (congrArg String.toList heditor).trans ht.shown, ht.columns, ht.remembered⟩ rfl rfl rfl,
      nofun, hE⟩
  · exact .aside ⟨ht.cursor, (congrArg String.toList heditor).trans ht.shown, ht.columns, ht.remembered⟩ rfl rfl rfl

theorem behaves_openDeviceManager (hE : E) : Behaves A D E (openDeviceManager env : TermM P Unit) := fun _ ht =>
  .gets (.ensure ht hE fun _ => (behaves_refreshOwnDevices hE _ ht).bind fun _ =>
    .bind (behaves_modifyScreen fun _ => ⟨rfl, rfl, rfl, rfl, rfl⟩) fun _ => behaves_inform _)

theorem behaves_closeDeviceManager : Behaves A D E (closeDeviceManager : TermM P Unit) :=
  .bind (behaves_modifyScreen fun _ => ⟨rfl, rfl, rfl, rfl, rfl⟩) fun _ => behaves_inform _

theorem behaves_selectOwnDevice (f : Nat → Nat → Nat) : Behaves A D E (selectOwnDevice f : TermM P Unit) :=
  behaves_modifyScreen fun _ => ⟨rfl, rfl, rfl, rfl, rfl⟩

/-- The dialog opens for one of the targets. -/
theorem behaves_askToDelete {target : DeleteTarget} (hD : D target) :
    Behaves A D E (askToDelete target : TermM P Unit) :=
  .modify fun t ht =>
    { sound := ⟨ht.cursor, ht.shown, ht.columns, ht.remembered⟩
      stopped := rfl
      performed := ⟨[], rfl, nofun⟩
      dialog := fun d' hd' => by
        cases hd'
        exact .inr hD }

/-- The device that is asked about is the selected one, and can be revoked. -/
theorem behavesAt_requestRevoke (ht : t.Sound)
    (hD : ∀ device, t.screen.ownDevices[t.screen.ownDeviceSelected]? = some device → device.current = false →
      device.revoked = false → D (.device device.deviceId device.deviceName)) :
    BehavesAt A D E t requestRevokeSelectedDevice := .gets (by
  dsimp only
  cases hdevice : t.screen.ownDevices[t.screen.ownDeviceSelected]? with
  | none => exact Behaves.pure _ t ht
  | some device =>
    refine .ite (fun _ => behaves_inform _ t ht) fun hcurrent => .ite (fun _ => behaves_inform _ t ht) fun hrevoked => ?_
    exact (behaves_askToDelete (hD device hdevice (by simpa using hcurrent) (by simpa using hrevoked)) t ht).bind
      fun _ => behaves_inform _)

theorem behavesAt_deviceManagerKey {code : KeyCode} (ht : t.Sound)
    (hD : code = .char 'x' ∨ code = .delete → ∀ device, t.screen.ownDevices[t.screen.ownDeviceSelected]? = some device →
      device.current = false → device.revoked = false → D (.device device.deviceId device.deviceName)) :
    BehavesAt A D E t (deviceManagerKey env code) := by
  unfold deviceManagerKey
  split
  · exact behaves_closeDeviceManager t ht
  · exact behaves_closeDeviceManager t ht
  · exact behaves_selectOwnDevice _ t ht
  · exact behaves_selectOwnDevice _ t ht
  · exact behaves_selectOwnDevice _ t ht
  · exact behaves_selectOwnDevice _ t ht
  · exact (behaves_reporting (behaves_refreshOwnDevices True.intro) t ht).bind fun _ => .pure _
  · exact behavesAt_requestRevoke ht (hD (.inl rfl))
  · exact behavesAt_requestRevoke ht (hD (.inr rfl))
  · exact Behaves.pure _ t ht

/-! ## The dialog -/

theorem behavesAt_requestDeleteConversation {index : Nat} (ht : t.Sound)
    (hD : ∀ contact, t.world.app.contacts[index]? = some contact →
      D (.conversation contact.bundle.accountId contact.bundle.username)) :
    BehavesAt A D E t (requestDeleteConversation index) := .gets (by
  cases hcontact : t.world.app.contacts[index]? with
  | none => exact Behaves.pure _ t ht
  | some contact =>
    exact (behaves_askToDelete (hD contact hcontact) t ht).bind fun _ => .bind behaves_closeCompletion fun _ =>
      behaves_inform _)

theorem behavesAt_requestDeleteNotification {index : Nat} (ht : t.Sound)
    (hD : ∀ n, t.world.app.notifications[index]? = some n →
      D (.notification n.id (n.kind.deleteTitle ++ " · " ++ n.actorUsername) n.requestId)) :
    BehavesAt A D E t (requestDeleteNotification index) := .gets (by
  cases hnotification : t.world.app.notifications[index]? with
  | none => exact Behaves.pure _ t ht
  | some n =>
    exact (behaves_askToDelete (hD n hnotification) t ht).bind fun _ => .bind behaves_closeCompletion fun _ =>
      behaves_inform _)

theorem behaves_dropDialog : Behaves A D E (dropDialog : TermM P Unit) :=
  .modify fun _ ht =>
    { sound := ⟨ht.cursor, ht.shown, ht.columns, ht.remembered⟩
      stopped := rfl
      performed := ⟨[], rfl, nofun⟩
      dialog := fun _ hd' => (nomatch hd') }

theorem behaves_cancelDelete : Behaves A D E (cancelDelete : TermM P Unit) :=
  .bind behaves_dropDialog fun _ => behaves_inform _

theorem handled_afterDelete (ht : t.Sound) (target : DeleteTarget) (before : World P) :
    Handled A D t (afterDelete target before t) := by
  unfold afterDelete
  split
  · dsimp only
    refine .aside ⟨?_, ?_, ?_, ?_⟩ rfl rfl ?_
    · split <;> split <;> exact ht.cursor
    · split <;> split <;> exact ht.shown
    · split <;> split <;> exact ht.columns
    · split <;> split <;> exact ht.remembered
    · split <;> split <;> rfl
  · exact .refl ht

/-- Confirming does what the dialog is about. -/
theorem behavesAt_confirmDelete (ht : t.Sound)
    (hA : ∀ d, t.screen.deleteConfirmation = some d → A d.target.action) (hE : E) :
    BehavesAt A D E t (confirmDelete env) := .gets (by
  cases hdialog : t.screen.deleteConfirmation with
  | none => exact Behaves.pure _ t ht
  | some dialog =>
    refine .gets (BehavesAt.bind ?_ fun _ => .bind (.modify fun _ ht' => handled_afterDelete ht' _ _) fun _ =>
      behaves_dropDialog)
    refine (Prog.wp_onError _ _).2 ((behavesAt_perform ht (hA dialog hdialog) hE).mono (fun _ _ h => h) fun _ _ h => ?_)
    exact ⟨h.1.trans (handled_afterDelete h.1.sound _ _), h.2⟩)

theorem behavesAt_confirmReporting (ht : t.Sound)
    (hA : ∀ d, t.screen.deleteConfirmation = some d → A d.target.action) :
    BehavesAt A D E t (confirmReporting env) :=
  (behavesAt_reporting (behavesAt_confirmDelete ht hA True.intro)).bind fun _ => .pure _

/-- A key in the dialog confirms if it is `y`, or `Enter` on the button that confirms. -/
theorem behavesAt_handleDeleteConfirmationKey {code : KeyCode} (ht : t.Sound)
    (hA : ∀ d, t.screen.deleteConfirmation = some d →
      code = .char 'y' ∨ (code = .enter ∧ d.confirmSelected = true) → A d.target.action) :
    BehavesAt A D E t (handleDeleteConfirmationKey env code) := by
  have toggled : Behaves A D E (modifyScreen fun s => { s with
      deleteConfirmation := s.deleteConfirmation.map fun d => { d with confirmSelected := !d.confirmSelected } } :
      TermM P Unit) :=
    .modify fun t ht =>
      { sound := ⟨ht.cursor, ht.shown, ht.columns, ht.remembered⟩
        stopped := rfl
        performed := ⟨[], rfl, nofun⟩
        dialog := fun d' hd' => by
          obtain ⟨d, hd, rfl⟩ := Option.map_eq_some_iff.1 hd'
          exact .inl ⟨d, hd, rfl⟩ }
  unfold handleDeleteConfirmationKey
  split
  · exact toggled t ht
  · exact toggled t ht
  · exact toggled t ht
  · exact toggled t ht
  · exact behavesAt_confirmReporting ht fun d hd => hA d hd (.inl rfl)
  · exact behaves_cancelDelete t ht
  · exact behaves_cancelDelete t ht
  · refine .gets (.ite (fun hconfirm => behavesAt_confirmReporting ht fun d hd => hA d hd (.inr ⟨rfl, ?_⟩))
      fun _ => behaves_cancelDelete t ht)
    simpa [hd] using hconfirm
  · exact Behaves.pure _ t ht

/-! ## Notifications and commands -/

theorem behaves_selectNotificationRelative (hA : ∀ a, a.harmless = true → A a) (hE : E) (direction : Int) :
    Behaves A D E (selectNotificationRelative env direction : TermM P Unit) :=
  .bind (.gets _) fun _ => .iteTrue (.modify fun _ ht => .aside ⟨ht.cursor, ht.shown, ht.columns, ht.remembered⟩ rfl rfl rfl)
    (behaves_perform (hA _ rfl) hE)

theorem behaves_showNotificationTab (hA : ∀ a, a.harmless = true → A a) (hE : E) :
    Behaves A D E (showNotificationTab env : TermM P Unit) :=
  .bind (behaves_modifyScreen fun _ => ⟨rfl, rfl, rfl, rfl, rfl⟩) fun _ => behaves_perform (hA _ rfl) hE

theorem behaves_showConversationTab : Behaves A D E (showConversationTab : TermM P Unit) :=
  behaves_modifyScreen fun _ => ⟨rfl, rfl, rfl, rfl, rfl⟩

theorem behaves_activatePrimary (hA : ∀ a, a.harmless = true → A a) (hE : E) :
    Behaves A D E (activatePrimary env : TermM P Unit) :=
  .bind (.gets _) fun _ => .bind (behaves_perform (hA _ rfl) hE) fun _ =>
    .iteTrue (behaves_modifyScreen fun _ => ⟨rfl, rfl, rfl, rfl, rfl⟩) (.pure _)

theorem behaves_retryAll (hA : ∀ a, a.harmless = true → A a) (hE : E) : Behaves A D E (retryAll env : TermM P Unit) :=
  .bind (.gets _) fun _ => .bind (behaves_perform (hA _ rfl) hE) fun _ => behaves_inform _

theorem behaves_sidebarCommand (hE : E) (action : List Char) :
    Behaves A D E (sidebarCommand senv action : TermM P Unit) :=
  .iteTrue (behaves_setSidebarCollapsed hE _) (.iteTrue (behaves_setSidebarCollapsed hE _)
    (.iteTrue (behaves_toggleSidebar hE) (.fail hE _)))

/-- The message that a text is: it starts with a slash only where it was typed with two. -/
def Composes (input : List Char) (text : String) : Prop :=
  (∃ message, stripPrefix? "//" input = some message ∧ text = String.ofList ('/' :: message)) ∨
    (stripPrefix? "/" (trimText input) = none ∧ text = String.ofList input)

theorem behaves_inputCommand (hA : ∀ a, a.harmless = true → A a) {input : List Char}
    (hsend : ∀ text, Composes input text → A (.sendText text)) (hE : E) :
    Behaves A D E (inputCommand env senv input : TermM P Unit) := by
  unfold inputCommand
  refine .iteTrue (behaves_modifyScreen fun _ => ⟨rfl, rfl, rfl, rfl, rfl⟩) ?_
  refine .iteTrue (behaves_modifyScreen fun _ => ⟨rfl, rfl, rfl, rfl, rfl⟩) (.iteTrue (behaves_openEmojiPicker _) ?_)
  split
  · exact behaves_openEmojiPicker _
  refine .iteTrue (.bind (behaves_getScreen _) fun _ => behaves_inform _) ?_
  split
  · exact behaves_setTheme hE _
  refine .iteTrue (behaves_toggleSidebar hE) ?_
  split
  · exact behaves_sidebarCommand hE _
  refine .iteTrue (behaves_openDeviceManager hE) (.iteTrue (behaves_perform (hA _ rfl) hE)
    (.iteTrue (behaves_perform (hA _ rfl) hE) (.iteTrue (behaves_perform (hA _ rfl) hE) ?_)))
  split
  · exact behaves_perform (hA _ rfl) hE
  refine .iteTrue (behaves_perform (hA _ rfl) hE) (.iteTrue (behaves_retryAll hA hE) ?_)
  split
  · exact behaves_searchLoadedMessages hE _
  split
  · exact behaves_perform (hA _ rfl) hE
  split
  · next message hmessage => exact behaves_perform (hsend _ (.inl ⟨message, hmessage, rfl⟩)) hE
  refine .ite (fun _ => .fail hE _) fun hplain => behaves_perform (hsend _ (.inr ⟨?_, rfl⟩)) hE
  exact not_not.1 hplain

theorem behaves_executeInput (hA : ∀ a, a.harmless = true → A a) {input : List Char}
    (hsend : ∀ text, Composes input text → A (.sendText text)) :
    Behaves A D E (executeInput env senv input : TermM P Bool) :=
  behaves_reporting (behaves_inputCommand hA hsend True.intro)

end

end TuiChat
