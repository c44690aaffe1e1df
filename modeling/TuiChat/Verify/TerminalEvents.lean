import TuiChat.Verify.Handlers

/-!
# What an event of the terminal does

Every key, click, paste and resize is handled without a panic. It deletes only what an open dialog is about and
the event confirms, sends only what the composer held when `Enter` was pressed, opens a dialog only for what it
points at, and ends with an error only if it is one of a few (`Terminal.Escapes`).
-/

namespace TuiChat

open Lib
open Lib.Prog (wp)

variable {P : Primitives} {A : Action → Prop} {D : DeleteTarget → Prop} {E : Prop} {t t' t'' : Terminal P}
  {env : Environment} {senv : ScreenEnvironment}

/-! ## Keys -/

theorem behaves_selectInList (hA : ∀ a, a.harmless = true → A a) (hE : E) (direction : Int) :
    Behaves A D E (selectInList env direction : TermM P Unit) :=
  .bind (behaves_getScreen _) fun _ =>
    .iteTrue (behaves_selectNotificationRelative hA hE _) (behaves_perform (hA _ rfl) hE)

theorem behaves_altKey (hseg : senv.seg.Covers) (hA : ∀ a, a.harmless = true → A a) {code : KeyCode}
    {m : TermM P Unit} (hm : altKey env senv code = some m)
    (hE : code = .up ∨ code = .down ∨ code = .char 'n' → E) : Behaves A D E m := by
  unfold altKey at hm
  split at hm
  · cases hm
    exact .bind (behaves_getScreen _) fun _ => .iteTrue (behaves_selectNotificationRelative hA (hE (.inl rfl)) _)
      (behaves_perform (hA _ rfl) (hE (.inl rfl)))
  · cases hm
    exact .bind (behaves_getScreen _) fun _ =>
      .iteTrue (behaves_selectNotificationRelative hA (hE (.inr (.inl rfl))) _)
        (behaves_perform (hA _ rfl) (hE (.inr (.inl rfl))))
  · cases hm
    exact behaves_showNotificationTab hA (hE (.inr (.inr rfl)))
  · cases hm
    exact behaves_showConversationTab
  · cases hm
    exact behaves_editAndComplete fun e he => he.deleteWordBackward hseg
  · cases hm
    exact .bind (behaves_typeText hseg _) fun _ => behaves_refreshCompletion
  · cases hm

theorem behaves_tabKey (backwards : Bool) : Behaves A D E (tabKey backwards : TermM P Unit) :=
  .bind (behaves_getScreen _) fun _ => .iteTrue
    (.iteTrue (.bind (behaves_cycleCompletion _) fun _ => behaves_applyCompletion) behaves_applyCompletion)
    (behaves_modifyScreen fun _ => ⟨rfl, rfl, rfl, rfl, rfl⟩)

theorem behaves_tryReconnect : Behaves A D E (tryReconnect : TermM P Unit) :=
  .bind (.gets _) fun _ => .iteTrue (behaves_inform _) (behaves_inform _)

theorem behavesAt_controlKey (ht : t.Sound) (hseg : senv.seg.Covers) (hA : ∀ a, a.harmless = true → A a)
    {code : KeyCode} {m : TermM P Unit} (hm : controlKey env senv code t.screen = some m)
    (hE : (code = .char 'n' ∧ t.screen.completion.isOpen = false) ∨ (code = .char 'r' ∧ t.world.app.connected = true) ∨
      (code = .home ∧ t.screen.focus = .messages) → E) : BehavesAt A D E t m := by
  unfold controlKey at hm
  split at hm
  · cases hm
    exact behaves_edit (fun e _ => ⟨_, rfl, e.sound_moveStart⟩) t ht
  · cases hm
    exact behaves_edit (fun e _ => ⟨_, rfl, e.sound_moveEnd⟩) t ht
  · cases hm
    exact behaves_edit (fun e he => he.deleteWordBackward hseg) t ht
  · cases hm
    exact behaves_edit (fun e he => he.deleteToLineStart) t ht
  · cases hm
    exact behaves_edit (fun e he => he.deleteForward hseg) t ht
  · cases hm
    refine Behaves.bind (behaves_modifyScreen ?_) (fun _ => ?_) t ht
    · exact fun _ => ⟨rfl, rfl, rfl, rfl, rfl⟩
    · exact .bind (behaves_set _) fun _ => behaves_refreshCompletion
  · cases hm
    refine Behaves.bind (behaves_modifyScreen ?_) (fun _ => ?_) t ht
    · exact fun _ => ⟨rfl, rfl, rfl, rfl, rfl⟩
    · exact .bind (.bind (behaves_set _) fun _ => behaves_refreshCompletion) fun _ => behaves_inform _
  · cases hm
    exact .gets (.ite (fun hconnected => behavesAt_perform ht (hA _ rfl) (hE (.inr (.inl ⟨rfl, hconnected⟩))))
      fun _ => behaves_tryReconnect t ht)
  · cases hm
    refine behaves_modifyScreen ?_ t ht
    exact fun _ => ⟨rfl, rfl, rfl, rfl, rfl⟩
  · cases hm
    exact .ite (fun _ => behaves_cycleCompletion _ t ht) fun hclosed =>
      behaves_showNotificationTab hA (hE (.inl ⟨rfl, by simpa using hclosed⟩)) t ht
  · split at hm
    · cases hm
      exact behaves_cycleCompletion _ t ht
    · cases hm
  · split at hm
    · next hfocus =>
      cases hm
      exact (behaves_scrollMessagesToTop t ht).bind fun _ => behaves_loadOlder hA (hE (.inr (.inr ⟨rfl, hfocus⟩)))
    · cases hm
  · split at hm
    · cases hm
      exact behaves_scrollMessagesToBottom t ht
    · cases hm
  · cases hm

/-- What the dialog may be opened for: the contact, the notification or the device that an event points at. -/
def Terminal.Picks (t : Terminal P) (event : TerminalEvent) (areas : List (Nat × Rect)) (codes : List KeyCode)
    (selected : Option Nat) (index : Nat) : Prop :=
  match event with
  | .key key => key.kind = .press ∧ key.code ∈ codes ∧ selected = some index
  | .mouse mouse => t.screen.mouseEnabled = true ∧ mouse.kind = .down .left ∧
      hitIndex areas mouse.column mouse.row = some index
  | _ => False

/-- The event points at the target, to delete it: with `x` where it is selected, or by a click on its button. -/
def Terminal.Points (t : Terminal P) (event : TerminalEvent) : DeleteTarget → Prop
  | .conversation accountId username => ∃ index contact,
      t.Picks event t.screen.areas.conversationDelete [.char 'x'] t.world.app.selected index ∧
        t.world.app.contacts[index]? = some contact ∧ contact.bundle.accountId = accountId ∧
        contact.bundle.username = username
  | .notification notificationId title requestId => ∃ index n,
      t.Picks event t.screen.areas.notificationDelete [.char 'x'] t.world.app.notificationSelected index ∧
        t.world.app.notifications[index]? = some n ∧ n.id = notificationId ∧
        n.kind.deleteTitle ++ " · " ++ n.actorUsername = title ∧ n.requestId = requestId
  | .device deviceId deviceName => ∃ index device,
      t.Picks event t.screen.areas.ownDeviceRevoke [.char 'x', .delete] (some t.screen.ownDeviceSelected) index ∧
        t.screen.ownDevices[index]? = some device ∧ device.current = false ∧ device.revoked = false ∧
        device.deviceId = deviceId ∧ device.deviceName = deviceName

theorem behavesAt_requestDeleteSelected {key : KeyEvent} (ht : t.Sound) (hpress : key.kind = .press)
    (hcode : key.code = .char 'x') (hD : ∀ target, t.Points (.key key) target → D target) :
    BehavesAt A D E t requestDeleteSelected := .gets (by
  have picks : ∀ {areas : List (Nat × Rect)} {selected : Option Nat} {index : Nat}, selected = some index →
      t.Picks (.key key) areas [.char 'x'] selected index := fun h =>
    ⟨hpress, by rw [hcode]; exact List.mem_singleton_self _, h⟩
  dsimp only [id]
  cases t.screen.sidebarTab with
  | conversations =>
    dsimp only
    cases hselected : t.world.app.selected with
    | none => exact Behaves.pure _ t ht
    | some index =>
      exact behavesAt_requestDeleteConversation ht fun contact hcontact =>
        hD _ ⟨index, contact, picks hselected, hcontact, rfl, rfl⟩
  | notifications =>
    dsimp only
    cases hselected : t.world.app.notificationSelected with
    | none => exact Behaves.pure _ t ht
    | some index =>
      exact behavesAt_requestDeleteNotification ht fun n hn => hD _ ⟨index, n, picks hselected, hn, rfl, rfl, rfl⟩)

/-- `Enter` takes the text of the composer for a command or a message. -/
structure Screen.Entered (s : Screen) : Prop where
  elsewhere : s.onNotifications = false
  taken : ¬(s.completion.isOpen = true ∧
    (s.completion.selected?.any fun candidate => candidate.toList ≠ s.editor.text) = true)
  visible : trimText s.editor.text ≠ []

theorem behavesAt_enterKey (ht : t.Sound) (hA : ∀ a, a.harmless = true → A a)
    (helsewhere : t.screen.onNotifications = false)
    (hsend : t.screen.Entered → ∀ text, Composes t.screen.editor.text text → A (.sendText text)) :
    BehavesAt A D E t (enterKey env senv) := .gets (.ite (fun _ => behaves_applyCompletion t ht) fun htaken =>
  .ite (fun _ => Behaves.pure _ t ht) fun hvisible =>
    (behaves_executeInput hA (hsend ⟨helsewhere, htaken, hvisible⟩) t ht).bind fun _ =>
      .iteTrue (.iteTrue (.bind (behaves_edit fun e _ => ⟨_, rfl, e.sound_clear⟩) fun _ => behaves_closeCompletion)
        behaves_closeCompletion) (.pure _))

theorem behavesAt_upKey (ht : t.Sound) (hseg : senv.seg.Covers) (hA : ∀ a, a.harmless = true → A a)
    (hE : t.screen.focus ≠ .composer → E) : BehavesAt A D E t (upKey env senv) := .gets (by
  cases hfocus : t.screen.focus with
  | conversations => exact behaves_selectInList hA (hE (by simp [hfocus])) _ t ht
  | messages =>
    exact (behaves_scrollMessages _ t ht).bind fun _ => behaves_loadOlder hA (hE (by simp [hfocus]))
  | composer => exact behaves_edit (fun e he => he.moveVertical hseg _) t ht)

theorem behavesAt_downKey (ht : t.Sound) (hseg : senv.seg.Covers) (hA : ∀ a, a.harmless = true → A a)
    (hE : t.screen.focus = .conversations → E) : BehavesAt A D E t (downKey env senv) := .gets (by
  cases hfocus : t.screen.focus with
  | conversations => exact behaves_selectInList hA (hE hfocus) _ t ht
  | messages => exact behaves_scrollMessages _ t ht
  | composer => exact behaves_edit (fun e he => he.moveVertical hseg _) t ht)

theorem behaves_pageKey (hA : ∀ a, a.harmless = true → A a) {up : Bool} (hE : up = true → E) :
    Behaves A D E (pageKey env senv up : TermM P Unit) :=
  .bind (behaves_modifyScreen fun _ => ⟨rfl, rfl, rfl, rfl, rfl⟩) fun _ => .bind (behaves_getScreen _) fun _ =>
    .ite (fun h => .bind (behaves_scrollMessages _) fun _ => behaves_loadOlder hA (hE h))
      fun _ => behaves_scrollMessages _

/-- A key without `Ctrl` and `Alt` whose error ends the event loop. -/
def Screen.PlainEscapes (s : Screen) (code : KeyCode) : Prop :=
  (s.onNotifications = true ∧ (code = .enter ∨ code = .char 'r' ∨ code = .char 'd')) ∨
    (s.completion.isOpen = false ∧ ((code = .up ∧ s.focus ≠ .composer) ∨ (code = .down ∧ s.focus = .conversations))) ∨
    code = .pageUp

theorem behavesAt_plainKey {key : KeyEvent} (ht : t.Sound) (hseg : senv.seg.Covers)
    (hA : ∀ a, a.harmless = true → A a) (hpress : key.kind = .press)
    (hsend : key.code = .enter → key.shift = false → t.screen.Entered → ∀ text, Composes t.screen.editor.text text →
      A (.sendText text))
    (hD : ∀ target, t.Points (.key key) target → D target) (hE : t.screen.PlainEscapes key.code → E) :
    BehavesAt A D E t (plainKey env senv key t.screen) := by
  unfold plainKey
  cases hcode : key.code with
  | char c =>
    refine .ite (fun hx => behavesAt_requestDeleteSelected ht hpress (hx.1 ▸ hcode) hD) fun _ => .ite (fun hr => ?_)
      fun _ => .ite (fun hd => ?_) fun _ => (behaves_typeText hseg _ t ht).bind fun _ => behaves_refreshCompletion
    · exact behavesAt_perform ht (hA _ rfl) (hE (.inl ⟨hr.2, .inr (.inl (hr.1 ▸ hcode))⟩))
    · exact behavesAt_perform ht (hA _ rfl) (hE (.inl ⟨hd.2, .inr (.inr (hd.1 ▸ hcode))⟩))
  | enter =>
    refine .ite (fun h => behaves_activatePrimary hA (hE (.inl ⟨h, .inl hcode⟩)) t ht) fun helsewhere =>
      .ite (fun _ => behaves_typeText hseg _ t ht) fun hshift => behavesAt_enterKey ht hA ?_ (hsend hcode ?_)
    · simpa using helsewhere
    · simpa using hshift
  | backspace => exact behaves_editAndComplete (fun e he => he.deleteBackward hseg) t ht
  | delete => exact behaves_editAndComplete (fun e he => he.deleteForward hseg) t ht
  | left => exact behaves_edit (fun e he => he.moveLeft hseg) t ht
  | right => exact behaves_edit (fun e he => he.moveRight hseg) t ht
  | home => exact behaves_edit (fun e he => he.moveLineStart) t ht
  | lineEnd =>
    exact .ite (fun _ => behaves_scrollMessagesToBottom t ht) fun _ => behaves_edit (fun e he => he.moveLineEnd) t ht
  | up =>
    refine .ite (fun _ => behaves_cycleCompletion _ t ht) fun hclosed => behavesAt_upKey ht hseg hA fun hfocus =>
      hE (.inr (.inl ⟨?_, .inl ⟨hcode, hfocus⟩⟩))
    simpa using hclosed
  | down =>
    refine .ite (fun _ => behaves_cycleCompletion _ t ht) fun hclosed => behavesAt_downKey ht hseg hA fun hfocus =>
      hE (.inr (.inl ⟨?_, .inr ⟨hcode, hfocus⟩⟩))
    simpa using hclosed
  | pageUp => exact behaves_pageKey hA (fun _ => hE (.inr (.inr hcode))) t ht
  | pageDown => exact behaves_pageKey hA (fun h => (nomatch h)) t ht
  | esc =>
    refine .ite (fun _ => behaves_closeCompletion t ht) fun _ => behaves_modifyScreen ?_ t ht
    exact fun _ => ⟨rfl, rfl, rfl, rfl, rfl⟩
  | tab | backTab | f n | other => exact Behaves.pure _ t ht

/-- Nothing is shown over the panes. -/
structure Screen.Bare (s : Screen) : Prop where
  dialog : s.deleteConfirmation = none
  manager : s.deviceManagerVisible = false
  picker : s.emojiPicker.visible = false
  help : s.helpVisible = false

/-- A key whose error ends the event loop. -/
def Terminal.KeyEscapes (t : Terminal P) (key : KeyEvent) : Prop :=
  key.kind = .press ∧ t.screen.Bare ∧
    ((key.alt = true ∧ (key.code = .up ∨ key.code = .down ∨ key.code = .char 'n')) ∨
      (key.control = true ∧ ((key.code = .char 'n' ∧ t.screen.completion.isOpen = false) ∨
        (key.code = .char 'r' ∧ t.world.app.connected = true) ∨ (key.code = .home ∧ t.screen.focus = .messages))) ∨
      (key.control = false ∧ t.screen.PlainEscapes key.code))

/-- The key confirms the dialog. -/
def DeleteConfirmation.ConfirmedBy (d : DeleteConfirmation) (key : KeyEvent) : Prop :=
  key.kind = .press ∧ (key.code = .char 'y' ∨ (key.code = .enter ∧ d.confirmSelected = true))

/-- The key is `Enter` alone, and takes the text of the composer for a message of the given text. -/
structure Terminal.Sends (t : Terminal P) (key : KeyEvent) (text : String) : Prop where
  key : key = { code := .enter, control := false, shift := false, alt := false, kind := .press }
  bare : t.screen.Bare
  entered : t.screen.Entered
  composes : Composes t.screen.editor.text text

theorem behavesAt_handleKey {key : KeyEvent} (ht : t.Sound) (hseg : senv.seg.Covers)
    (hA : ∀ a, a.harmless = true → A a)
    (hconfirm : ∀ d, t.screen.deleteConfirmation = some d → d.ConfirmedBy key → A d.target.action)
    (hsend : ∀ text, t.Sends key text → A (.sendText text))
    (hD : ∀ target, t.Points (.key key) target → D target) (hE : t.KeyEscapes key → E) :
    BehavesAt A D E t (handleKey env senv key) := .gets (by
  dsimp only [id]
  refine .ite (fun _ => Behaves.pure _ t ht) fun hkind => ?_
  have hpress : key.kind = .press := not_not.1 hkind
  refine .ite (fun _ => behaves_modifyScreen (f := fun s => { s with quit := true }) (fun _ => ⟨rfl, rfl, rfl, rfl, rfl⟩) t ht)
    fun _ => .ite (fun _ => ?_) fun hdialog => .ite (fun _ => ?_) fun hmanager =>
      .ite (fun _ => behaves_toggleEmojiPicker t ht) fun _ => .ite (fun _ => behaves_handleEmojiKey hseg key t ht)
        fun hpicker => .ite (fun _ => ?_) fun _ => .ite (fun _ => ?_) fun hhelp => ?_
  · exact behavesAt_handleDeleteConfirmationKey ht fun d hd hcode => hconfirm d hd ⟨hpress, hcode⟩
  · refine behavesAt_deviceManagerKey ht fun hcode device hdevice hcurrent hrevoked => hD _
      ⟨_, device, ⟨hpress, ?_, rfl⟩, hdevice, hcurrent, hrevoked, rfl, rfl⟩
    simpa using hcode
  · exact behaves_modifyScreen (f := fun s => { s with helpVisible := !s.helpVisible }) (fun _ => ⟨rfl, rfl, rfl, rfl, rfl⟩) t ht
  · exact .ite (fun _ => behaves_modifyScreen (f := fun s => { s with helpVisible := false })
      (fun _ => ⟨rfl, rfl, rfl, rfl, rfl⟩) t ht) fun _ => Behaves.pure _ t ht
  have hbare : t.screen.Bare :=
    ⟨by simpa using hdialog, by simpa using hmanager, by simpa using hpicker, by simpa using hhelp⟩
  split
  · next m hm =>
    split at hm
    · next halt =>
      exact behaves_altKey hseg hA hm (fun h => hE ⟨hpress, hbare, .inl ⟨halt, h⟩⟩) t ht
    · cases hm
  rename_i hnone
  refine .ite (fun _ => behaves_tabKey _ t ht) fun _ => .ite (fun hcontrol => ?_) fun hplain => ?_
  · cases hm : controlKey env senv key.code t.screen with
    | none => exact Behaves.pure _ t ht
    | some m =>
      exact (behavesAt_controlKey ht hseg hA hm fun h => hE ⟨hpress, hbare, .inr (.inl ⟨hcontrol, h⟩)⟩).bind
        fun _ => behaves_refreshCompletion
  · have hplain : key.control = false := by simpa using hplain
    refine behavesAt_plainKey ht hseg hA hpress (fun hcode hshift hentered text hcomposes =>
      hsend text ⟨?_, hbare, hentered, hcomposes⟩) hD fun h => hE ⟨hpress, hbare, .inr (.inr ⟨hplain, h⟩)⟩
    -- `Enter` with `Alt` is a line break.
    have halt : key.alt = false := Bool.eq_false_iff.2 fun halt => hnone _ (by rw [if_pos halt, hcode]; rfl)
    obtain ⟨code, control, shift, alt, kind⟩ := key
    subst hcode hplain hshift halt hpress
    rfl)

/-! ## The mouse -/

theorem behaves_dragScrollbar (row : Nat) : Behaves A D E (dragScrollbar senv row : TermM P Unit) :=
  .bind (behaves_getScreen _) fun dragging => by
    cases dragging with
    | none => exact .pure _
    | some target =>
      cases target with
      | conversations => exact .modify fun _ ht => .aside ⟨ht.cursor, ht.shown, ht.columns, ht.remembered⟩ rfl rfl rfl
      | messages =>
        exact .bind (behaves_getScreen _) fun _ => .bind behaves_messageScrollMaximum fun _ => behaves_scrollTo _

/-- A row below the second one of the list. -/
theorem checkedSub_eq_some {y row : Nat} (hrow : row < 65536) (h : saturating y 1 < row) :
    checkedSub row (y + 2) = some (row - (y + 2)) := by
  unfold saturating at h
  exact if_pos (by omega)

theorem behaves_clickSidebar (hA : ∀ a, a.harmless = true → A a) (hE : E) (column : Nat) {row : Nat}
    (hrow : row < 65536) : Behaves A D E (clickSidebar env senv column row : TermM P Unit) :=
  .bind (behaves_modifyScreen fun _ => ⟨rfl, rfl, rfl, rfl, rfl⟩) fun _ t ht => .gets (.ite
    (fun _ => Behaves.bind (behaves_modifyScreen (f := fun s => { s with dragging := some .conversations })
      fun _ => ⟨rfl, rfl, rfl, rfl, rfl⟩) (fun _ => behaves_dragScrollbar row) t ht)
    fun _ => .ite (fun hinside => .some (checkedSub_eq_some hrow hinside.1) (.ite
      (fun _ => behavesAt_perform ht (hA _ rfl) hE) fun _ => .ite (fun _ => behavesAt_perform ht (hA _ rfl) hE)
        fun _ => Behaves.pure _ t ht))
      fun _ => Behaves.pure _ t ht)

theorem behaves_clickComposer (hseg : senv.seg.Covers) (column row : Nat) :
    Behaves A D E (clickComposer senv column row : TermM P Unit) :=
  .bind (behaves_modifyScreen fun _ => ⟨rfl, rfl, rfl, rfl, rfl⟩) fun _ t ht => .gets (by
    obtain ⟨place, hplace⟩ := @EditorState.Sound.drawn senv.seg _ ht.cursor (max (t.screen.layout.composer.width - 2) 1)
    exact .some hplace (behaves_edit (fun e _ => ⟨_, rfl, EditorState.Sound.setCursorByVisualPosition hseg _ _ _⟩) t ht))

/-- What is clicked, where a handler can fail. -/
def Screen.ClickEscapes (s : Screen) (column row : Nat) : Prop :=
  s.areas.sidebarToggle.contains column row = true ∨ s.areas.notificationTab.contains column row = true ∨
    s.areas.notificationPrimaryAction.contains column row = true ∨
    s.areas.notificationSecondaryAction.contains column row = true ∨ s.layout.conversations.contains column row = true

theorem behavesAt_leftClick {column row : Nat} (ht : t.Sound) (hseg : senv.seg.Covers)
    (hA : ∀ a, a.harmless = true → A a) (hrow : row < 65536)
    (hcontact : ∀ index contact, hitIndex t.screen.areas.conversationDelete column row = some index →
      t.world.app.contacts[index]? = some contact → D (.conversation contact.bundle.accountId contact.bundle.username))
    (hnotification : ∀ index n, hitIndex t.screen.areas.notificationDelete column row = some index →
      t.world.app.notifications[index]? = some n →
      D (.notification n.id (n.kind.deleteTitle ++ " · " ++ n.actorUsername) n.requestId))
    (hE : t.screen.ClickEscapes column row → E) : BehavesAt A D E t (leftClick env senv column row) := .gets (by
  dsimp only [id]
  refine .ite (fun h => behaves_toggleSidebar (hE (.inl h)) t ht) fun _ => .ite
    (fun _ => behaves_openEmojiPicker _ t ht) fun _ => .ite (fun _ => behaves_modifyScreen
      (f := fun s => { s with sidebarTab := .conversations, focus := .conversations }) (fun _ => ⟨rfl, rfl, rfl, rfl, rfl⟩) t ht)
    fun _ => .ite (fun h => behaves_showNotificationTab hA (hE (.inr (.inl h))) t ht) fun _ =>
    .ite (fun h => behaves_activatePrimary hA (hE (.inr (.inr (.inl h)))) t ht) fun _ =>
    .ite (fun h => behavesAt_perform ht (hA _ rfl) (hE (.inr (.inr (.inr (.inl h)))))) fun _ => ?_
  split
  · next index hindex => exact behavesAt_requestDeleteConversation ht fun contact => hcontact index contact hindex
  split
  · next index hindex => exact behavesAt_requestDeleteNotification ht fun n => hnotification index n hindex
  refine .ite (fun h => behaves_clickSidebar hA (hE (.inr (.inr (.inr (.inr h))))) _ hrow t ht) fun _ =>
    .ite (fun _ => ?_) fun _ => .ite (fun _ => behaves_clickComposer hseg _ _ t ht) fun _ => Behaves.pure _ t ht
  refine Behaves.bind (behaves_modifyScreen ?_) (fun _ => ?_) t ht
  · exact fun _ => ⟨rfl, rfl, rfl, rfl, rfl⟩
  · exact .iteTrue (.bind (behaves_modifyScreen fun _ => ⟨rfl, rfl, rfl, rfl, rfl⟩) fun _ => behaves_dragScrollbar row) (.pure _))

theorem behavesAt_releaseDrag (ht : t.Sound) (hA : ∀ a, a.harmless = true → A a)
    (hE : t.screen.dragging = some .messages → E) : BehavesAt A D E t (releaseDrag env senv) := .gets (by
  refine Behaves.bind (behaves_modifyScreen ?_) (fun _ => ?_) t ht
  · exact fun _ => ⟨rfl, rfl, rfl, rfl, rfl⟩
  · exact Behaves.ite (fun h => behaves_loadOlder hA (hE h)) fun _ => .pure _)

theorem behavesAt_wheel {up : Bool} {column row : Nat} (ht : t.Sound) (hA : ∀ a, a.harmless = true → A a)
    (hE : up = true → t.screen.layout.messages.contains column row = true → E) :
    BehavesAt A D E t (wheel env senv up column row) := .gets (.ite
  (fun _ => Behaves.modify (fun t ht => by
    refine .aside ⟨?_, ?_, ?_, ?_⟩ rfl rfl ?_
    · dsimp only; split <;> exact ht.cursor
    · dsimp only; split <;> exact ht.shown
    · dsimp only; split <;> exact ht.columns
    · dsimp only; split <;> exact ht.remembered
    · dsimp only; split <;> rfl) t ht)
  fun _ => .ite (fun hmessages => .ite
    (fun hup => (behaves_scrollMessages _ t ht).bind fun _ => behaves_loadOlder hA (hE hup hmessages))
    fun _ => behaves_scrollMessages _ t ht) fun _ => Behaves.pure _ t ht)

/-- The device that is asked about is the one whose button is clicked. -/
theorem behavesAt_clickDeviceManager {column row : Nat} (ht : t.Sound)
    (hD : ∀ index device, hitIndex t.screen.areas.ownDeviceRevoke column row = some index →
      t.screen.ownDevices[index]? = some device → device.current = false → device.revoked = false →
      D (.device device.deviceId device.deviceName))
    (hE : t.screen.areas.ownDeviceRefresh.contains column row = true → E) :
    BehavesAt A D E t (clickDeviceManager env column row) := .gets (by
  dsimp only [id]
  refine .ite (fun _ => behaves_closeDeviceManager t ht) fun _ => .ite
    (fun h => behaves_refreshOwnDevices (hE h) t ht) fun _ => ?_
  split
  · next index hindex =>
    have hselected : ({ t with screen := { t.screen with ownDeviceSelected := index } } : Terminal P).Sound :=
      ⟨ht.cursor, ht.shown, ht.columns, ht.remembered⟩
    exact .modify (.aside hselected rfl rfl rfl) (behavesAt_requestRevoke hselected fun device => hD index device hindex)
  refine .ite (fun _ => .ite (fun _ => behaves_modifyScreen ?_ t ht) fun _ => Behaves.pure _ t ht)
    fun _ => Behaves.pure _ t ht
  exact fun _ => ⟨rfl, rfl, rfl, rfl, rfl⟩)

theorem behavesAt_handleDeviceManagerMouse {mouse : MouseEvent} (ht : t.Sound)
    (hD : mouse.kind = .down .left → ∀ index device,
      hitIndex t.screen.areas.ownDeviceRevoke mouse.column mouse.row = some index →
      t.screen.ownDevices[index]? = some device → device.current = false → device.revoked = false →
      D (.device device.deviceId device.deviceName))
    (hE : mouse.kind = .down .left → t.screen.areas.ownDeviceRefresh.contains mouse.column mouse.row = true → E) :
    BehavesAt A D E t (handleDeviceManagerMouse env mouse) := by
  unfold handleDeviceManagerMouse
  split
  · next hkind => exact behavesAt_clickDeviceManager ht (hD hkind) (hE hkind)
  · exact behaves_selectOwnDevice _ t ht
  · exact behaves_selectOwnDevice _ t ht
  · exact Behaves.pure _ t ht

theorem contains_le {r : Rect} {column row : Nat} (h : r.contains column row = true) : r.x ≤ column ∧ r.y ≤ row := by
  unfold Rect.contains at h
  simp only [Bool.and_eq_true, decide_eq_true_eq] at h
  exact ⟨h.1.1.1, h.1.2⟩

/-- A click into the grid: there are columns to divide by, and the place is not before the grid. -/
theorem behavesAt_clickEmoji {column row : Nat} (ht : t.Sound) (hseg : senv.seg.Covers)
    (hgrid : t.screen.areas.emojiGrid.contains column row = true) : BehavesAt A D E t (clickEmoji senv column row) :=
  .gets (by
  have hcolumns : max t.screen.emojiPicker.columns 1 % 65536 ≠ 0 := by
    have := ht.columns
    omega
  have hrow : checkedSub row t.screen.areas.emojiGrid.y = some (row - t.screen.areas.emojiGrid.y) :=
    if_pos (contains_le hgrid).2
  have hcolumn : checkedSub column t.screen.areas.emojiGrid.x = some (column - t.screen.areas.emojiGrid.x) :=
    if_pos (contains_le hgrid).1
  refine .holds hcolumns (.some hrow (.some hcolumn (.gets (.ite (fun _ => ?_) fun _ => Behaves.pure _ t ht))))
  refine Behaves.bind (behaves_modifyPicker ?_) (fun _ => behaves_insertSelectedEmoji hseg) t ht
  exact fun _ => rfl)

theorem behavesAt_handleEmojiMouse {mouse : MouseEvent} (ht : t.Sound) (hseg : senv.seg.Covers) :
    BehavesAt A D E t (handleEmojiMouse senv mouse) := .gets (by
  dsimp only [id]
  refine .ite (fun _ => ?_) fun _ => .ite (fun _ => behaves_hideEmojiPicker t ht) fun _ => Behaves.pure _ t ht
  split
  · exact behaves_cycleEmoji _ t ht
  · exact behaves_cycleEmoji _ t ht
  · exact .ite (fun hgrid => behavesAt_clickEmoji ht hseg hgrid) fun _ => Behaves.pure _ t ht
  · exact Behaves.pure _ t ht)

theorem behavesAt_clickDialog {column row : Nat} (ht : t.Sound)
    (hA : ∀ d, t.screen.deleteConfirmation = some d → t.screen.areas.deleteConfirm.contains column row = true →
      A d.target.action) : BehavesAt A D E t (clickDialog env column row) := .gets (.ite
  (fun hconfirm => behavesAt_confirmReporting ht fun d hd => hA d hd hconfirm)
  fun _ => .ite (fun _ => behaves_cancelDelete t ht) fun _ => Behaves.pure _ t ht)

/-- A mouse event whose error ends the event loop. -/
def Terminal.MouseEscapes (t : Terminal P) (mouse : MouseEvent) : Prop :=
  t.screen.mouseEnabled = true ∧ t.screen.deleteConfirmation = none ∧
    if t.screen.deviceManagerVisible = true then
      mouse.kind = .down .left ∧ t.screen.areas.ownDeviceRefresh.contains mouse.column mouse.row = true
    else t.screen.emojiPicker.visible = false ∧
      ((mouse.kind = .down .left ∧ t.screen.ClickEscapes mouse.column mouse.row) ∨
        (mouse.kind = .up .left ∧ t.screen.dragging = some .messages) ∨
        (mouse.kind = .scrollUp ∧ t.screen.layout.messages.contains mouse.column mouse.row = true))

/-- The click confirms the dialog. -/
def Terminal.ClickConfirms (t : Terminal P) (mouse : MouseEvent) : Prop :=
  t.screen.mouseEnabled = true ∧ mouse.kind = .down .left ∧
    t.screen.areas.deleteConfirm.contains mouse.column mouse.row = true

theorem behavesAt_handleMouse {mouse : MouseEvent} (ht : t.Sound) (hseg : senv.seg.Covers)
    (hA : ∀ a, a.harmless = true → A a) (henabled : t.screen.mouseEnabled = true)
    (hconfirm : ∀ d, t.screen.deleteConfirmation = some d → t.ClickConfirms mouse → A d.target.action)
    (hD : ∀ target, t.Points (.mouse mouse) target → D target) (hE : t.MouseEscapes mouse → E) :
    BehavesAt A D E t (handleMouse env senv mouse) := .gets (by
  dsimp only [id]
  refine .ite (fun _ => .ite (fun hkind => behavesAt_clickDialog ht fun d hd harea =>
    hconfirm d hd ⟨henabled, hkind, harea⟩) fun _ => Behaves.pure _ t ht) fun hdialog => ?_
  have hdialog : t.screen.deleteConfirmation = none := by simpa using hdialog
  refine .ite (fun hmanager => behavesAt_handleDeviceManagerMouse ht
    (fun hkind index device hindex hdevice hcurrent hrevoked => hD _
      ⟨index, device, ⟨henabled, hkind, hindex⟩, hdevice, hcurrent, hrevoked, rfl, rfl⟩)
    fun hkind hrefresh => hE ⟨henabled, hdialog, by rw [if_pos hmanager]; exact ⟨hkind, hrefresh⟩⟩) fun hmanager =>
    .ite (fun _ => behavesAt_handleEmojiMouse ht hseg) fun hpicker => ?_
  have hescapes : (mouse.kind = .down .left ∧ t.screen.ClickEscapes mouse.column mouse.row) ∨
      (mouse.kind = .up .left ∧ t.screen.dragging = some .messages) ∨
      (mouse.kind = .scrollUp ∧ t.screen.layout.messages.contains mouse.column mouse.row = true) → E := fun h =>
    hE ⟨henabled, hdialog, by rw [if_neg hmanager]; exact ⟨by simpa using hpicker, h⟩⟩
  split
  · next hkind =>
    exact behavesAt_leftClick ht hseg hA mouse.row_lt
      (fun index contact hindex hcontact => hD _ ⟨index, contact, ⟨henabled, hkind, hindex⟩, hcontact, rfl, rfl⟩)
      (fun index n hindex hn => hD _ ⟨index, n, ⟨henabled, hkind, hindex⟩, hn, rfl, rfl, rfl⟩)
      fun h => hescapes (.inl ⟨hkind, h⟩)
  · exact behaves_dragScrollbar _ t ht
  · next hkind => exact behavesAt_releaseDrag ht hA fun h => hescapes (.inr (.inl ⟨hkind, h⟩))
  · next hkind => exact behavesAt_wheel ht hA fun _ h => hescapes (.inr (.inr ⟨hkind, h⟩))
  · exact behavesAt_wheel ht hA fun h => (nomatch h)
  · exact Behaves.pure _ t ht)

/-! ## Events -/

theorem behaves_paste (hseg : senv.seg.Covers) (text : List Char) : Behaves A D E (paste senv text : TermM P Unit) :=
  .bind (behaves_getScreen _) fun _ => .iteTrue (behaves_appendEmojiQuery _) (.iteTrue (.pure _)
    (.bind (behaves_modifyScreen fun _ => ⟨rfl, rfl, rfl, rfl, rfl⟩) fun _ => .bind (behaves_insertText hseg _) fun _ =>
      .iteTrue (.bind (behaves_inform _) fun _ => behaves_refreshCompletion) behaves_refreshCompletion))

/-- An event whose error ends the event loop. -/
def Terminal.Escapes (t : Terminal P) : TerminalEvent → Prop
  | .key key => t.KeyEscapes key
  | .mouse mouse => t.MouseEscapes mouse
  | .focusGained => True
  | .paste _ | .resize .. | .focusLost => False

/-- The event confirms the dialog. -/
def Terminal.Confirms (t : Terminal P) (d : DeleteConfirmation) : TerminalEvent → Prop
  | .key key => d.ConfirmedBy key
  | .mouse mouse => t.ClickConfirms mouse
  | _ => False

/-- What an event lets the client do: delete what the dialog is about if it confirms it, send the text of the composer
if it sends it, and anything that neither deletes nor sends. -/
def Terminal.Allows (t : Terminal P) (event : TerminalEvent) (a : Action) : Prop :=
  a.harmless = true ∨ (∃ d, t.screen.deleteConfirmation = some d ∧ t.Confirms d event ∧ a = d.target.action) ∨
    ∃ key text, event = .key key ∧ t.Sends key text ∧ a = .sendText text

theorem behavesAt_handleTerminalEvent (ht : t.Sound) (hseg : senv.seg.Covers) (event : TerminalEvent) :
    BehavesAt (t.Allows event) (t.Points event) (t.Escapes event) t (handleTerminalEvent env senv event) := by
  have hharmless : ∀ a : Action, a.harmless = true → t.Allows event a := fun _ h => .inl h
  cases event with
  | focusGained => exact behavesAt_perform ht (hharmless .focusGained rfl) True.intro
  | focusLost =>
    have htotal : Prog.Total (runAction env .focusLost : ClientM P Unit) := .modify _
    exact behaves_performTotal (hharmless _ rfl) htotal t ht
  | key key =>
    exact behavesAt_handleKey ht hseg hharmless (fun d hd h => .inr (.inl ⟨d, hd, h, rfl⟩))
      (fun text h => .inr (.inr ⟨key, text, rfl, h, rfl⟩)) (fun _ h => h) id
  | mouse mouse =>
    refine .gets (.ite (fun henabled => behavesAt_handleMouse ht hseg hharmless henabled
      (fun d hd h => .inr (.inl ⟨d, hd, h, rfl⟩)) (fun _ h => h) id) fun _ => Behaves.pure _ t ht)
  | paste text => exact behaves_paste hseg text t ht
  | resize width height =>
    exact behaves_modifyScreen (f := fun s =>
      { s with layout := { s.layout with area := { s.layout.area with width, height } } }) (fun _ => ⟨rfl, rfl, rfl, rfl, rfl⟩) t ht

/-! ## Drawing -/

theorem emojiGridLayout_columns {area : Rect} (h : area.width ≤ 68) : (emojiGridLayout area).2.1 < 65536 := by
  unfold emojiGridLayout
  dsimp only
  omega

theorem drawEmojiPicker_handled (ht : t.Sound) (area : Rect) :
    Handled A D t { t with screen := drawEmojiPicker senv area t.screen } := by
  unfold drawEmojiPicker
  split
  · exact .aside ⟨ht.cursor, ht.shown, ht.columns, ht.remembered⟩ rfl rfl rfl
  · refine .aside ⟨ht.cursor, ht.shown, emojiGridLayout_columns ?_, ht.remembered⟩ rfl rfl rfl
    exact (min_le_left _ _).trans (min_le_right _ _)

/-- Drawing only moves what is shown. -/
theorem behaves_drawScreen (area : Rect) : Behaves A D E (drawScreen senv area : TermM P Unit) := fun t ht => .gets (by
  dsimp only [id]
  refine .ite (fun _ => behaves_modifyScreen (f := fun s => { s with layout := { UiLayout.empty with area } })
    (fun _ => ⟨rfl, rfl, rfl, rfl, rfl⟩) t ht) fun _ => ?_
  obtain ⟨rows, hrows⟩ :=
    @editorVisualLineCount_eq_some senv t.screen.editor.text (max (area.width - 2) 1)
  have hlines : editorLines senv t.screen area.width = some (max rows (lineCount t.screen.editor.text)) := by
    unfold editorLines
    rw [hrows]
    rfl
  refine .some hlines (Behaves.bind (behaves_modifyScreen ?_) (fun _ => .bind (.modify fun t ht => ?_) fun _ =>
    .bind behaves_messageScrollMaximum fun _ => .bind (.modify fun t ht => ?_) fun _ => .bind (behaves_getScreen _)
      fun composer => ?_) t ht)
  · exact fun _ => ⟨rfl, rfl, rfl, rfl, rfl⟩
  · exact .aside ⟨ht.cursor, ht.shown, ht.columns, ht.remembered⟩ rfl rfl rfl
  · exact .aside ⟨ht.cursor, ht.shown, ht.columns, ht.remembered⟩ rfl rfl rfl
  obtain ⟨place, hplace⟩ := @EditorState.Sound.drawn senv.seg _ ht.cursor (max (composer.width - 2) 1)
  refine fun t ht => .some hplace (Behaves.bind (.modify fun t ht => ?_) (fun _ => .bind (.modify fun t ht =>
    drawEmojiPicker_handled ht area) fun _ => .bind (behaves_modifyScreen ?_) fun _ => behaves_modifyScreen ?_) t ht)
  · exact .aside ⟨ht.cursor, ht.shown, ht.columns, ht.remembered⟩ rfl rfl rfl
  · intro s
    split <;> exact ⟨rfl, rfl, rfl, rfl, rfl⟩
  · exact fun _ => ⟨rfl, rfl, rfl, rfl, rfl⟩)

end TuiChat
