import TuiChat.System.Mailbox
import TuiChat.Verify.ServerScenario

/-!
# What is behind the cursor

A device asks for what comes after its cursor, so that an envelope behind it is one that it never asks for again. Pages
leave out nothing, but a push raises the cursor past everything that still waits, and an acknowledgement that is lost
after its envelope was committed is not sent again. Where pushes come in order, everything behind the cursor was
processed (`mailbox_processed`); where no acknowledgement is lost either, everything behind it is acknowledged
(`mailbox_acknowledged`).
-/

namespace TuiChat

open Lib

variable {P : Primitives} {env : Environment} {senv : ServerEnvironment} {profile : RuntimeProfile P}

namespace Mailbox

variable {deviceId : String} {s s' : Mailbox P} {l : Label}

/-- No envelope is handled from a push while an earlier one still waits behind it. -/
def Label.InOrder (deviceId : String) (s : Mailbox P) : Label → Prop
  | .client action => ∀ f stored, action.syncFrame = some (f, Ws.pushedBatch stored) →
      ∀ row ∈ s.rows, row.envelope.recipientDeviceId = deviceId → s.client.store.envelopeCursor < row.cursor →
        stored.cursor ≤ row.cursor
  | _ => True

/-- Every stored envelope up to the cursor was processed, in the transaction that stores the cursor. -/
def Processed (deviceId : String) (s : Mailbox P) : Prop :=
  ∀ row ∈ s.rows, row.envelope.recipientDeviceId = deviceId → row.cursor ≤ s.client.store.envelopeCursor →
    .processed row.cursor row.envelope.envelopeId ∈ s.client.log

theorem processed_log (w : World P) (action : Action) : w.log ⊆ (w.after env action).log := by
  have hlog : w.view.log <:+ (w.after env action).view.log :=
    paths_invariant (I := fun v => w.view.log <:+ v.log) (fun _ _ hI hs => hI.trans hs.log) List.suffix_rfl
      (runAction_paths action w)
  exact hlog.subset

/-- A new client has processed nothing, and nothing is behind its cursor. -/
theorem behind_init (h : (mailboxSystem env senv profile).init s) {row : EnvelopeRow} (hrow : row ∈ s.rows) :
    ¬row.cursor ≤ s.client.store.envelopeCursor := by
  obtain ⟨hserver, hclient, -⟩ := h
  rw [hclient]
  exact Nat.not_le.2 (Cluster.row_pos hserver row hrow)

theorem Processed.step (h : s.Processed profile.identity.deviceId) (hsound : s.Sound env senv profile)
    (horder : l.InOrder profile.identity.deviceId s)
    (hs : Step env senv profile.accountId profile.identity.deviceId s l s') :
    s'.Processed profile.identity.deviceId := by
  intro row hrow hdevice hle
  cases hs with
  | server step =>
    rcases (Cluster.step_rows hsound.server step).2 row hrow with ⟨old, hold, heq, -⟩ | habove
    · obtain ⟨hcursor, henvelope, -⟩ := EnvelopeRow.mk.inj heq
      rw [hcursor, henvelope]
      exact h old hold (henvelope ▸ hdevice) (hcursor ▸ hle)
    · exact absurd (Nat.le_trans hle hsound.cursor) (Nat.not_le.2 habove)
  | page | push | acknowledged | lost => exact h row hrow hdevice hle
  | @client action made =>
    by_cases hold : row.cursor ≤ s.client.store.envelopeCursor
    · exact processed_log s.client action (h row hrow hdevice hold)
    have hlt : s.client.store.envelopeCursor < row.cursor := Nat.not_le.1 hold
    cases hsync : action.syncFrame with
    | none =>
      rw [after_other hsound.client hsync] at hle
      exact absurd hle hold
    | some frame =>
      obtain ⟨f, batch⟩ := frame
      have hhonest := hsound.made batch (made f batch hsync)
      -- The cursor is left at an envelope of the batch, which has the row.
      obtain ⟨e, he, hcursor⟩ := (cursor_of_batch hsync).resolve_left fun heq => hold (heq ▸ hle)
      obtain ⟨e', he', hsame⟩ : ∃ e' ∈ batch.envelopes, e'.cursor = row.cursor := by
        rcases hhonest.complete with ⟨stored, rfl⟩ | hcomplete
        · obtain rfl : e = stored := List.mem_singleton.1 he
          exact ⟨e, he, Nat.le_antisymm (horder f e hsync row hrow hdevice hlt) (hcursor ▸ hle)⟩
        · exact hcomplete row hrow hdevice hlt e he (hcursor ▸ hle)
      obtain ⟨envelope, hsome, hprocessed⟩ :=
        processed_of_batch hsync hhonest.rises he' (hsame ▸ hlt) (hsame.symm ▸ hle)
      have hof := hhonest.same e' he' row hrow hsame.symm
      obtain rfl : envelope = row.envelope := Option.some.inj (hsome.symm.trans hof.envelope)
      rw [hsame] at hprocessed
      exact hprocessed

/-- Every stored envelope up to the cursor is delivered, or its acknowledgement is on its way. -/
def Acknowledged (deviceId : String) (s : Mailbox P) : Prop :=
  ∀ row ∈ s.rows, row.envelope.recipientDeviceId = deviceId → row.cursor ≤ s.client.store.envelopeCursor →
    row.deliveredAtMs.isSome = true ∨ ∃ ack ∈ s.flight, ack.envelopeId = row.envelope.envelopeId

/-- An action does not end between the transaction of an envelope and its acknowledgement, and an acknowledgement is
lost of an envelope only that is delivered or deleted. -/
def Label.Keeps (env : Environment) (deviceId : String) (s : Mailbox P) : Label → Prop
  | .client action => ∀ cursor envelopeId, .processed cursor envelopeId ∈ (s.client.after env action).log →
      .processed cursor envelopeId ∈ s.client.log ∨
        ∃ f ∈ s.client.handed env action, f.body = some (.ackEnvelope { envelopeId, cursor })
  | .lost ack => s.Delivered deviceId ack.envelopeId
  | _ => True

theorem Acknowledged.erase (h : s.Acknowledged deviceId) {ack : AckEnvelope}
    (hdelivered : s.Delivered deviceId ack.envelopeId) :
    ({ s with flight := s.flight.erase ack } : Mailbox P).Acknowledged deviceId := by
  intro row hrow hdevice hle
  rcases h row hrow hdevice hle with hsome | ⟨other, hother, hid⟩
  · exact .inl hsome
  · by_cases heq : other = ack
    · subst heq
      exact .inl (hdelivered row hrow hid.symm hdevice)
    · exact .inr ⟨other, (List.mem_erase_of_ne heq).2 hother, hid⟩

theorem Acknowledged.step (h : s.Acknowledged profile.identity.deviceId) (hsound : s.Sound env senv profile)
    (hprocessed : s'.Processed profile.identity.deviceId) (hkeeps : l.Keeps env profile.identity.deviceId s)
    (hs : Step env senv profile.accountId profile.identity.deviceId s l s') :
    s'.Acknowledged profile.identity.deviceId := by
  cases hs with
  | server step =>
    intro row hrow hdevice hle
    rcases (Cluster.step_rows hsound.server step).2 row hrow with ⟨old, hold, heq, hkept⟩ | habove
    · obtain ⟨hcursor, henvelope, -⟩ := EnvelopeRow.mk.inj heq
      rw [henvelope]
      exact (h old hold (henvelope ▸ hdevice) (hcursor ▸ hle)).imp_left hkept
    · exact absurd (Nat.le_trans hle hsound.cursor) (Nat.not_le.2 habove)
  | page | push => exact h
  | acknowledged delivered => exact h.erase delivered
  | lost => exact h.erase hkeeps
  | @client action made =>
    intro row hrow hdevice hle
    by_cases hold : row.cursor ≤ s.client.store.envelopeCursor
    · refine (h row hrow hdevice hold).imp_right fun ⟨ack, hack, hid⟩ => ⟨ack, List.mem_append_left _ hack, hid⟩
    · have hnew : (row.cursor, row.envelope.envelopeId) ∉ s.client.view.log.filterMap Event.handledEnvelope :=
        fun hmem => hold ((reachable_caught hsound.client).past _ _ hmem)
      obtain ⟨f, hf, hbody⟩ := (hkeeps _ _ (hprocessed row hrow hdevice hle)).resolve_left fun hmem =>
        hnew (List.mem_filterMap.2 ⟨_, hmem, rfl⟩)
      refine .inr ⟨{ envelopeId := row.envelope.envelopeId, cursor := row.cursor }, ?_, rfl⟩
      refine List.mem_append_right _ (List.mem_filterMap.2 ⟨f, hf, ?_⟩)
      unfold Frame.acknowledgement
      rw [hbody]

end Mailbox

open Mailbox in
/-- In every run in which pushes are handled in order, every envelope that is stored for the device and is not above its
cursor was processed. -/
theorem mailbox_processed {s : Mailbox P} (h : (mailboxSystem env senv profile).ReachableUnder
      (fun s l => l.InOrder profile.identity.deviceId s) s) :
    ∀ row ∈ s.rows, row.envelope.recipientDeviceId = profile.identity.deviceId →
      row.cursor ≤ s.client.store.envelopeCursor → .processed row.cursor row.envelope.envelopeId ∈ s.client.log := by
  have hboth : s.Sound env senv profile ∧ s.Processed profile.identity.deviceId :=
    h.invariant (I := fun s => s.Sound env senv profile ∧ s.Processed profile.identity.deviceId)
      (fun s hinit => ⟨.init hinit, fun row hrow _ hle => absurd hle (behind_init hinit hrow)⟩)
      fun s l s' ⟨hsound, hprocessed⟩ horder hs => ⟨hsound.step hs, hprocessed.step hsound horder hs⟩
  exact hboth.2

namespace Scenario.Behind

def hello (id : Char) : WirePayload :=
  { payload "text" (uuid id) "carol" (uuid '1') "hello" [] with senderAccountId := uuid '7' }

def letter (id : Char) : EncryptedEnvelope :=
  { letterOf (uuid '1') id id (uuid '1') (uuid 'a') with
    ciphertext := bytes32 4 ++ (hello id).toVec
    olmMessageType := 0 }

/-- Carol has written to Alice twice. -/
def letters : Cluster := clusterAfter (correspondents ++
  [.frame 1 (.sendEnvelopes { envelopes := [letter '1'] }), .frame 1 (.sendEnvelopes { envelopes := [letter '2'] })])

def stored (cursor : Nat) (id : Char) (acceptedAtMs : Int) : StoredEnvelope :=
  { cursor
    senderAccountId := uuid '7'
    senderDeviceId := uuid 'c'
    envelope := some (letter id)
    acceptedAtMs
    senderUsername := "carol" }

def first : StoredEnvelope := stored 1 '1' 64000

def second : StoredEnvelope := stored 2 '2' 73000

/-- What a row is here: its cursor, its device and envelope, when it was delivered, and what is pushed of it. -/
def facts (row : EnvelopeRow) : Nat × String × String × Option Int × Option StoredEnvelope :=
  (row.cursor, row.envelope.recipientDeviceId, row.envelope.envelopeId, row.deliveredAtMs,
    letters.shared.db.storedEnvelope row)

theorem letters_rows : letters.shared.db.envelopes.rows.map facts =
    [(1, uuid 'a', uuid '1', none, some first), (2, uuid 'a', uuid '2', none, some second)] := by
  decide +kernel

theorem letter_row {e : StoredEnvelope} {id : Char} {cursor : Nat}
    (h : (cursor, uuid 'a', uuid id, none, some e) ∈ letters.shared.db.envelopes.rows.map facts) :
    ∃ row ∈ letters.shared.db.envelopes, row.cursor = cursor ∧ row.envelope.recipientDeviceId = uuid 'a' ∧
      row.envelope.envelopeId = uuid id ∧ row.deliveredAtMs = none ∧
      letters.shared.db.storedEnvelope row = some e := by
  obtain ⟨row, hrow, hfacts⟩ := List.mem_map.1 h
  obtain ⟨hcursor, hdevice, hid, hnone, hstored⟩ : row.cursor = cursor ∧ row.envelope.recipientDeviceId = uuid 'a' ∧
      row.envelope.envelopeId = uuid id ∧ row.deliveredAtMs = none ∧
      letters.shared.db.storedEnvelope row = some e := by
    simpa only [facts, Prod.mk.injEq] using hfacts
  exact ⟨row, hrow, hcursor, hdevice, hid, hnone, hstored⟩

theorem first_row : ∃ row ∈ letters.shared.db.envelopes, row.cursor = 1 ∧
    row.envelope.recipientDeviceId = uuid 'a' ∧ row.envelope.envelopeId = uuid '1' ∧ row.deliveredAtMs = none ∧
    letters.shared.db.storedEnvelope row = some first :=
  letter_row (by rw [letters_rows]; exact List.mem_cons_self)

theorem second_row : ∃ row ∈ letters.shared.db.envelopes, row.cursor = 2 ∧
    row.envelope.recipientDeviceId = uuid 'a' ∧ row.envelope.envelopeId = uuid '2' ∧ row.deliveredAtMs = none ∧
    letters.shared.db.storedEnvelope row = some second :=
  letter_row (by rw [letters_rows]; exact List.mem_cons_of_mem _ List.mem_cons_self)

theorem stored_letters : ∀ e ∈ [first, second], ∃ row ∈ letters.shared.db.envelopes,
    row.envelope.recipientDeviceId = uuid 'a' ∧ letters.shared.db.storedEnvelope row = some e := by
  intro e he
  rcases List.mem_cons.1 he with rfl | he
  · obtain ⟨row, hrow, -, hdevice, -, -, hstored⟩ := first_row
    exact ⟨row, hrow, hdevice, hstored⟩
  · obtain rfl := List.mem_singleton.1 he
    obtain ⟨row, hrow, -, hdevice, -, -, hstored⟩ := second_row
    exact ⟨row, hrow, hdevice, hstored⟩

def alice : RuntimeProfile primitives := { firstDevice (uuid '1') (uuid 'a') 1 2 with username := "alice" }

def outside : Environment :=
  environment (fun _ => [{ bundle (uuid '7') 3 [(uuid 'c', 4)] with username := "carol" }]) [hello '1', hello '2']

/-- A push comes. -/
def arrival (e : StoredEnvelope) : Action := .serverEvent (frame "" (.syncBatch (Ws.pushedBatch e)))

/-- The pushes are made, and come one after another. -/
def received : List StoredEnvelope → Mailbox primitives
  | [] => { server := letters, client := .ofProfile alice, made := [], flight := [] }
  | e :: earlier =>
    let s := received earlier
    { s with
      client := s.client.after outside (arrival e)
      made := Ws.pushedBatch e :: s.made
      flight := s.flight ++ (s.client.handed outside (arrival e)).filterMap Frame.acknowledgement }

theorem received_rows (pushes : List StoredEnvelope) : (received pushes).server = letters := by
  induction pushes with
  | nil => rfl
  | cons e earlier ih => exact ih

open Mailbox in
theorem received_reachable {C : Mailbox primitives → Label → Prop} {e : StoredEnvelope}
    {earlier : List StoredEnvelope} (he : e ∈ [first, second])
    (h : (mailboxSystem outside server alice).ReachableUnder C (received earlier))
    (hpush : C (received earlier) (.push e))
    (hclient : C { received earlier with made := Ws.pushedBatch e :: (received earlier).made } (.client (arrival e))) :
    (mailboxSystem outside server alice).ReachableUnder C (received (e :: earlier)) := by
  obtain ⟨row, hrow, hdevice, hstored⟩ := stored_letters e he
  rw [← received_rows earlier] at hrow hstored
  have hpushed := h.step hpush (.push hrow hdevice hstored)
  refine hpushed.step (i := .client (arrival e)) hclient (.client fun f batch hsync => ?_)
  cases hsync
  exact List.mem_cons_self

theorem received_init : (mailboxSystem outside server alice).init (received []) :=
  ⟨clusterAfter_reachable _, rfl, rfl, rfl⟩

/-- The push of the second letter comes first, and the first letter stays behind the cursor. -/
theorem letter_left_behind : (mailboxSystem outside server alice).Reachable (received [second]) ∧
    ¬∀ row ∈ (received [second]).rows, row.envelope.recipientDeviceId = uuid 'a' →
      row.cursor ≤ (received [second]).client.store.envelopeCursor →
        .processed row.cursor row.envelope.envelopeId ∈ (received [second]).client.log := by
  refine ⟨received_reachable (by simp) (.init received_init) trivial trivial, fun hall => ?_⟩
  have hbehind : 1 ≤ (received [second]).client.store.envelopeCursor ∧
      (1, uuid '1') ∉ (received [second]).client.log.filterMap Event.handledEnvelope := by
    decide +kernel
  obtain ⟨row, hrow, hcursor, hdevice, hid, -⟩ := first_row
  have hprocessed := hall row (by rw [Mailbox.rows, received_rows]; exact hrow) hdevice (hcursor ▸ hbehind.1)
  rw [hcursor, hid] at hprocessed
  exact hbehind.2 (List.mem_filterMap.2 ⟨_, hprocessed, rfl⟩)

/-- A push is in order when it is the next after the cursor. -/
theorem inOrder_arrival {s : Mailbox primitives} {made : List SyncBatch} {e : StoredEnvelope} {n : Nat}
    (hcursor : s.client.store.envelopeCursor = n) (hnext : e.cursor ≤ n + 1) :
    Mailbox.Label.InOrder (uuid 'a') { s with made } (.client (arrival e)) := by
  intro f stored hsync row hrow hdevice hlt
  have hbatch : Ws.pushedBatch e = Ws.pushedBatch stored := congrArg Prod.snd (Option.some.inj hsync)
  obtain rfl : e = stored := List.singleton_inj.1 (congrArg SyncBatch.envelopes hbatch)
  exact Nat.le_trans hnext (hcursor ▸ hlt)

/-- What the push newly processes is acknowledged. -/
def kept (w : World primitives) (e : StoredEnvelope) : Bool :=
  ((w.after outside (arrival e)).log.filterMap Event.handledEnvelope).all fun p =>
    ((w.log.filterMap Event.handledEnvelope).any fun q => q = p) || (w.handed outside (arrival e)).any fun f =>
      f.body = some (.ackEnvelope { envelopeId := p.2, cursor := p.1 })

theorem keeps_arrival {s : Mailbox primitives} {made : List SyncBatch} {e : StoredEnvelope}
    (h : kept s.client e = true) : Mailbox.Label.Keeps outside (uuid 'a') { s with made } (.client (arrival e)) := by
  intro cursor envelopeId hprocessed
  have hmem := List.all_eq_true.1 h (cursor, envelopeId) (List.mem_filterMap.2 ⟨_, hprocessed, rfl⟩)
  rcases Bool.or_eq_true_iff.1 hmem with hold | hany
  · obtain ⟨q, hq, hqp⟩ := List.any_eq_true.1 hold
    obtain ⟨event, hevent, heq⟩ := List.mem_filterMap.1 (of_decide_eq_true hqp ▸ hq)
    left
    cases event with
    | processed n id =>
      cases heq
      exact hevent
    | _ => cases heq
  · obtain ⟨f, hf, hbody⟩ := List.any_eq_true.1 hany
    exact .inr ⟨f, hf, of_decide_eq_true hbody⟩

/-- The cursor, the acknowledgements and what is kept, push after push. -/
theorem pushes_in_order : kept (received []).client first = true ∧
    (received [first]).client.store.envelopeCursor = 1 ∧ kept (received [first]).client second = true ∧
    (received [second, first]).client.store.envelopeCursor = 2 ∧
    (received [second, first]).flight.map AckEnvelope.envelopeId = [uuid '1', uuid '2'] := by
  decide +kernel

open Mailbox in
theorem received_careful : (mailboxSystem outside server alice).ReachableUnder
    (fun s l => l.InOrder (uuid 'a') s ∧ l.Keeps outside (uuid 'a') s) (received [second, first]) := by
  obtain ⟨hfirst, hcursor, hsecond, -⟩ := pushes_in_order
  have hone := received_reachable (by simp) (.init received_init)
    (C := fun s l => l.InOrder (uuid 'a') s ∧ l.Keeps outside (uuid 'a') s) (e := first) ⟨trivial, trivial⟩
    ⟨inOrder_arrival rfl (Nat.le_refl 1), keeps_arrival hfirst⟩
  exact received_reachable (by simp) hone ⟨trivial, trivial⟩
    ⟨inOrder_arrival hcursor (Nat.le_refl 2), keeps_arrival hsecond⟩

/-- The pushes come in order. -/
theorem letters_processed : (received [second, first]).client.store.envelopeCursor = 2 ∧
    ∀ row ∈ (received [second, first]).rows, row.envelope.recipientDeviceId = uuid 'a' →
      row.cursor ≤ (received [second, first]).client.store.envelopeCursor →
        .processed row.cursor row.envelope.envelopeId ∈ (received [second, first]).client.log :=
  ⟨pushes_in_order.2.2.2.1, mailbox_processed (received_careful.mono fun _ _ h => h.1)⟩

end Scenario.Behind

end TuiChat
