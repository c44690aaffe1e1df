import TuiChat.Client.Terminal
import TuiChat.Client.Steps

/-!
# Sending does not touch the composer

What a client does in order to send a text leaves the composer as it is, also where it fails; where it ends
well the message is stored, with its row in the outbox. So a text that leaves the composer was stored.
-/

namespace TuiChat

open Lib
open Lib.Prog (Moves wp)

variable {P : Primitives} {env : Environment} {w w' : World P}

/-- The composer is as it was, and no conversation was opened or closed. -/
structure World.Typing (w w' : World P) : Prop where
  editor : w'.app.editor = w.app.editor
  log : ∃ events, w'.log = events ++ w.log ∧ ∀ e ∈ events, e.opens = false

/-- Neither the messages nor the outbox have changed. -/
structure World.Composing (w w' : World P) : Prop extends w.Typing w' where
  messages : w'.store.messages = w.store.messages
  outbox : w'.store.outbox = w.store.outbox
  loaded : w'.app.messages = w.app.messages

theorem World.Typing.trans {w'' : World P} (h : w.Typing w') (h' : w'.Typing w'') : w.Typing w'' where
  editor := h'.editor.trans h.editor
  log := by
    obtain ⟨es, hes, hquiet⟩ := h.log
    obtain ⟨es', hes', hquiet'⟩ := h'.log
    refine ⟨es' ++ es, by rw [hes', hes, List.append_assoc], fun e he => ?_⟩
    exact (List.mem_append.1 he).elim (hquiet' e) (hquiet e)

/-- What leaves the log alone. -/
theorem World.Typing.of_log (heditor : w'.app.editor = w.app.editor) (hlog : w'.log = w.log) : w.Typing w' :=
  ⟨heditor, [], hlog, nofun⟩

theorem World.Composing.trans {w'' : World P} (h : w.Composing w') (h' : w'.Composing w'') : w.Composing w'' where
  toTyping := h.toTyping.trans h'.toTyping
  messages := h'.messages.trans h.messages
  outbox := h'.outbox.trans h.outbox
  loaded := h'.loaded.trans h.loaded

instance : Std.Refl (World.Composing (P := P)) := ⟨fun _ => ⟨.of_log rfl rfl, rfl, rfl, rfl⟩⟩

instance : IsTrans (World P) World.Composing := ⟨fun _ _ _ h h' => h.trans h'⟩

/-- Every run of `m` leaves the composer, the messages and the outbox alone. -/
abbrev IsComposing {α : Type} (m : ClientM P α) : Prop := Moves World.Composing m

/-! ## Effects -/

theorem modifyApp_composing {f : App P → App P} (h : ∀ app, (f app).editor = app.editor ∧ (f app).messages = app.messages) :
    IsComposing (modifyApp f) := fun w => ⟨.of_log (h w.app).1 rfl, rfl, rfl, (h w.app).2⟩

theorem getApp_composing {α : Type} (f : App P → α) : IsComposing (getApp f) := Moves.gets _

theorem setStatus_composing (status : String) : IsComposing (setStatus status : ClientM P Unit) :=
  modifyApp_composing fun _ => ⟨rfl, rfl⟩

theorem ticked_composing (w : World P) : w.Composing w.ticked := ⟨.of_log rfl rfl, rfl, rfl, rfl⟩

theorem draw_composing : IsComposing (draw : ClientM P Nat) := ticked_composing

theorem instantNow_composing : IsComposing (instantNow env : ClientM P Nat) := .bind draw_composing fun _ => .pure _

theorem newUuid_composing : IsComposing (newUuid env : ClientM P String) := .bind draw_composing fun _ => .pure _

theorem attempt_composing (e : Error) : IsComposing (attempt env e : ClientM P Unit) :=
  .bind draw_composing fun _ => .ensure _ _

theorem query_composing {α : Type} (f : Store P → α) : IsComposing (query env f) :=
  .bind (attempt_composing _) fun _ => .gets _

theorem sendFrame_composing (f : Frame) : IsComposing (sendFrame env f : ClientM P Unit) :=
  .bind (attempt_composing _) fun _ _ => ⟨.of_log rfl rfl, rfl, rfl, rfl⟩

theorem dispatchBackground_composing (f : Frame) (operation : BackgroundRequest) :
    IsComposing (dispatchBackground env f operation : ClientM P Unit) :=
  .bind (getApp_composing _) fun _ => .bind newUuid_composing fun _ => .bind (sendFrame_composing _) fun _ =>
    .bind instantNow_composing fun _ => modifyApp_composing fun _ => ⟨rfl, rfl⟩

theorem listOwnDevices_composing : IsComposing (listOwnDevices env : ClientM P Unit) :=
  .bind newUuid_composing fun _ => .bind (dispatchBackground_composing _ _) fun _ => setStatus_composing _

/-! ## Sending a text -/

/-- A message of the text is shown, and was stored with its row in the outbox; a row of its id that was there
before stays. -/
def World.Stored (text : String) (w w' : World P) : Prop :=
  ∃ m, m.body = text ∧ m.inbound = false ∧ m ∈ w'.app.messages ∧ (w'.store.outbox.find m.id).isSome = true ∧
    ((w.store.messages.find m.id).isSome = true ∨ w'.store.messages.find m.id = some m)

end TuiChat
