import TuiChat.Server.UserDeletion
import TuiChat.Verify.ServerScenario

/-!
# The message store of a running server

In every run in which accounts get new ids, and devices none that a revoked device had, the tables are
consistent, an undelivered envelope for a device that is not revoked goes only with its conversation or a
user it concerns, and a user can be deleted (`message_store_consistent`). The cleanup of a revoked device
is a statement of its own, after the one that revokes it: if the device's id is registered again between
the two, it takes envelopes that wait for the new device (`late_cleanup`).
-/

namespace TuiChat

open Lib

variable {env : ServerEnvironment} {P : Primitives}

/-! ## Writes -/

open Db in
theorem Writes.consistent {had : Db → Prop} {c : Connection} {db db' : Db} (h : Writes env P had c db db')
    (hdb : db.Consistent) (own : ∀ s, c.session = some s → s.pending = false → db.roster.Has s.account.id →
      db.roster.owner s.deviceId = some s.account.id) : db'.Consistent := by
  have hroster := h.roster
  have hlinked := hroster.linked hdb.linked
  have hgrows : (∀ a, (db.accounts.find a).isSome → (db'.accounts.find a).isSome) →
      db.roster.Grows db'.roster := fun haccounts =>
    hroster.grows hdb.linked fun a ha => roster_master.trans (haccounts a (roster_master.symm.trans ha))
  have haside : (∀ a, (db.accounts.find a).isSome → (db'.accounts.find a).isSome) →
      (∀ row ∈ db'.prekeys, row ∈ db.prekeys) → (∀ row ∈ db'.pairingEvents, row ∈ db.pairingEvents) →
      db'.logicalMessages = db.logicalMessages → db'.envelopes = db.envelopes →
      db'.deliveryUpdates = db.deliveryUpdates → db'.usage = db.usage → db'.lastCursor = db.lastCursor →
      db'.Consistent := fun haccounts hprekeys hevents =>
    hdb.beside hlinked (hgrows haccounts) (fun row hrow => .inl (hprekeys row hrow))
      fun row hrow => .inl (hevents row hrow)
  have hupdated : ∀ {p : AccountRow → Bool} {f : AccountRow → AccountRow} (hf : ∀ row, (f row).id = row.id),
      db'.accounts = db.accounts.update p f hf →
      ∀ a, (db.accounts.find a).isSome → (db'.accounts.find a).isSome := by
    intro p f hf haccounts a h
    rw [haccounts, accounts_update]
    exact h
  cases h with
  | authenticated | revoked | audited =>
    exact haside (fun _ h => h) (fun _ h => h) (fun _ h => h) rfl rfl rfl rfl rfl
  | password | userState | passwordReset =>
    exact haside (hupdated (by intro; rfl) rfl) (fun _ h => h) (fun _ h => h) rfl rfl rfl rfl rfl
  | claimed s m session pending certificate write =>
    obtain ⟨-, rfl⟩ := bootstrapMaster_eq_ok.1 write
    exact haside (hupdated (by intro; rfl) rfl) (fun _ h => h) (fun _ h => h) rfl rfl rfl rfl rfl
  | inserted s m pendingRow now session pending device certificate key write =>
    obtain ⟨-, -, rfl⟩ := insertDevice_eq_ok.1 write
    exact haside (fun _ h => h) (fun _ h => h) (fun _ h => h) rfl rfl rfl rfl rfl
  | activated s id m bundle master session active received device pairing key certificate submitted write =>
    obtain ⟨-, -, rfl⟩ := activateDevice_eq_ok.1 write
    exact haside (hupdated (by intro; rfl) rfl) (fun _ h => h) (fun _ h => h) rfl rfl rfl rfl rfl
  | revokedOwn s deviceId session active other =>
    rw [markRevoked_snd] at hlinked hgrows haside ⊢
    exact haside (fun _ h => h) (fun _ h => h) (fun _ h => h) rfl rfl rfl rfl rfl
  | added id username phc write =>
    obtain ⟨-, -, rfl⟩ := addAccount_eq_ok.1 write
    exact haside (fun a => accounts_insert _ a) (fun _ h => h) (fun _ h => h) rfl rfl rfl rfl rfl
  | devicesReset username write =>
    obtain ⟨account, -, rfl⟩ := resetDevices_eq_ok.1 write
    exact haside (hupdated (by intro; rfl) rfl) (fun _ h => (Table.mem_delete.1 h).1)
      (fun _ h => h) rfl rfl rfl rfl rfl
  | prekeyClaimed accountId deviceId =>
    obtain ⟨p, hp⟩ := claimPreKey_snd db accountId deviceId
    rw [hp] at hlinked hgrows haside ⊢
    exact haside (fun _ h => h) (fun _ h => (Table.mem_delete.1 h).1) (fun _ h => h) rfl rfl rfl rfl rfl
  | prekeys s keys now session write =>
    obtain ⟨hdevice, rfl⟩ := publishPreKeys_eq_ok.1 write
    refine hdb.beside hlinked (hgrows fun _ h => h) (fun row hrow => ?_) (fun _ h => .inl h) rfl rfl rfl rfl rfl
    rcases mem_withPreKeys hrow with hrow | ⟨key, hkey, rfl⟩
    · exact .inl hrow
    · exact .inr (owner_isSome.trans (hdevice (List.ne_nil_of_mem hkey)))
  | pairing s e expiresAtMs session size type write =>
    obtain ⟨hsender, htarget, rfl⟩ := insertPairingEvent_eq_ok.1 write
    refine hdb.beside hlinked (hgrows fun _ h => h) (fun _ h => .inl h) (fun row hrow => ?_) rfl rfl rfl rfl rfl
    rcases Table.mem_put.1 hrow with rfl | ⟨hrow, -⟩
    · exact .inr ⟨owner_isSome.trans hsender, owner_isSome.trans htarget⟩
    · exact .inl hrow
  | pairingAcked s id m session received =>
    exact haside (fun _ h => h) (fun _ h => h) (fun _ h => (Table.mem_delete.1 h).1) rfl rfl rfl rfl rfl
  | cleanedPairing now =>
    exact haside (fun _ h => h) (fun _ h => h) (fun _ h => (Table.mem_delete.1 h).1) rfl rfl rfl rfl rfl
  | stored s m now free session active write => exact hdb.stored (own s session active) write
  | acked s id m now => exact hdb.acked _ _ _
  | cleanedDevice deviceId => exact hdb.cleanedDevice deviceId
  | cleanedDelivered before limit => exact hdb.deleteOrphans _
  | pruned conversation cutoff deliveredOnly => exact hdb.pruned _ _ _
  | deleted accountId => exact hdb.deleted accountId

/-! ## Removals -/

namespace Db

/-- An undelivered envelope for a device that is not revoked. -/
structure Awaited (db : Db) (row : EnvelopeRow) : Prop where
  stored : row ∈ db.envelopes
  undelivered : row.deliveredAtMs = none
  device : ∃ device ∈ db.devices, device.id = row.envelope.recipientDeviceId ∧ device.revoked = false

/-- The ways in which such an envelope may go: its conversation is pruned, delivered or not, or a user is
deleted that is its sender, its recipient or the peer of its message. -/
inductive Removal (db : Db) (row : EnvelopeRow) : Db → Prop
  | pruned (m : LogicalMessageRow) (cutoff : Int) (message : m ∈ db.logicalMessages)
      (id : m.logicalMessageId = row.envelope.logicalMessageId) (accepted : m.acceptedAtMs < cutoff) :
    Removal db row (db.pruneConversation m.conversationId cutoff false)
  | deleted (accountId : String) (concerned : row.senderAccountId = accountId ∨
      row.envelope.recipientAccountId = accountId ∨ ∃ m ∈ db.logicalMessages,
        m.logicalMessageId = row.envelope.logicalMessageId ∧ m.peerAccountId = accountId) :
    Removal db row (db.deleteUserRecords accountId)

variable {db : Db} {row : EnvelopeRow}

/-- The other envelopes of a message from or to the recipient go with it. -/
theorem Removal.gone {db' : Db} (h : db.Removal row db') {other : EnvelopeRow}
    (message : other.envelope.logicalMessageId = row.envelope.logicalMessageId)
    (sender : other.senderAccountId = row.senderAccountId)
    (concerned : db.concernsMessage row.envelope.recipientAccountId row.envelope.logicalMessageId = true) :
    other ∉ db'.envelopes := by
  intro hother
  cases h with
  | pruned m cutoff hm id accepted =>
    refine (((mem_pruneConversation _ _ _ _).1 other).1 hother).2 ⟨m, ?_, rfl, accepted, nofun⟩
    rw [message, ← id]
    exact Table.find_of_mem hm
  | deleted accountId involved =>
    obtain ⟨hsender, -, hmessage⟩ := involves_eq_false.1 (Table.mem_delete.1 hother).2
    rw [message] at hmessage
    rcases involved with rfl | rfl | ⟨m, hm, hid, rfl⟩
    · exact hsender sender
    · cases hmessage.symm.trans concerned
    · have hothers := concernsMessage_eq_false hmessage hm hid
      simp [concerns] at hothers

/-- What is deleted meets the condition. -/
theorem of_find_delete (p : EnvelopeRow → Bool) {t : Table EnvelopeRow.envelopeId}
    (ht : t = db.envelopes.delete p) (hrow : row ∈ db.envelopes) (gone : t.find row.envelopeId = none) :
    p row = true := by
  by_contra hp
  have hmem : row ∈ t := by
    rw [ht]
    exact Table.mem_delete.2 ⟨hrow, Bool.not_eq_true _ ▸ hp⟩
  rw [Table.find_of_mem hmem] at gone
  cases gone

theorem ack_find (deviceId envelopeId : String) (now : Int) (hrow : row ∈ db.envelopes) :
    (db.ack deviceId envelopeId now).2.envelopes.find row.envelopeId ≠ none := by
  unfold ack
  split
  · rw [Table.find_of_mem hrow]
    exact Option.some_ne_none row
  · have hfind := Table.find_update_of_find (p := fun row => row.envelope.envelopeId = envelopeId)
      (f := fun row => { row with deliveredAtMs := some (row.deliveredAtMs.getD now) }) (fun _ => rfl)
      (Table.find_of_mem hrow)
    intro hnone
    cases hfind.symm.trans hnone

end Db

open Db in
/-- Under the condition that a device stays revoked once it was, an awaited envelope goes in these ways
only. -/
theorem Writes.removal {had : Db → Prop} {c : Connection} {db db' : Db} {row : EnvelopeRow}
    (h : Writes env P had c db db') (hdb : db.Consistent)
    (revoked : ∀ d, RevokedIn had d → ∀ device ∈ db.devices, device.id = d → device.revoked = true)
    (hrow : db.Awaited row) (gone : db'.envelopes.find row.envelopeId = none) : db.Removal row db' := by
  have hkept : db'.envelopes = db.envelopes → db.Removal row db' := by
    intro heq
    rw [heq, Table.find_of_mem hrow.stored] at gone
    cases gone
  cases h with
  | stored s m now free session active write =>
    obtain ⟨header, db₁, additional, accepted, hinserts⟩ := storeEnvelopes_eq_ok.1 write
    have hfind : db₁.envelopes.find row.envelopeId = some row := by
      rcases insertLogicalMessage_eq_ok.1 accepted.message with ⟨_, _, _, rfl⟩ | ⟨_, _, _, _, rfl⟩ <;>
        exact Table.find_of_mem hrow.stored
    cases (hinserts.find hfind).symm.trans gone
  | acked s id m now => exact absurd gone (ack_find _ _ _ hrow.stored)
  | cleanedDevice deviceId hdevice =>
    have hp := of_find_delete _ rfl hrow.stored gone
    obtain ⟨device, hmem, hid, hactive⟩ := hrow.device
    rw [decide_eq_true_eq] at hp
    rw [revoked deviceId hdevice device hmem (hid.trans hp)] at hactive
    cases hactive
  | cleanedDelivered before limit =>
    have hp := of_find_delete _ rfl hrow.stored gone
    obtain ⟨other, hother, hcursor⟩ := List.any_eq_true.1 hp
    have hdelivered := (List.mem_insertionSort _).1 (List.mem_of_mem_take hother)
    obtain ⟨hmem, hdelivered⟩ := List.mem_filter.1 hdelivered
    obtain rfl : other = row := hdb.distinct other hmem row hrow.stored (of_decide_eq_true hcursor)
    rw [hrow.undelivered] at hdelivered
    cases hdelivered
  | pruned conversation cutoff deliveredOnly =>
    have hpruned : db.Pruned conversation cutoff deliveredOnly row.envelope.logicalMessageId := by
      by_contra hnot
      have hmem := ((mem_pruneConversation _ _ _ _).1 row).2 ⟨hrow.stored, hnot⟩
      cases (Table.find_of_mem hmem).symm.trans gone
    obtain ⟨m, hfind, rfl, hcutoff, honly⟩ := hpruned
    cases deliveredOnly with
    | false => exact .pruned m cutoff (Table.mem_of_find hfind) (Table.key_of_find hfind) hcutoff
    | true =>
      have hdelivered := honly rfl row hrow.stored rfl
      rw [hrow.undelivered] at hdelivered
      cases hdelivered
  | deleted accountId =>
    have hp := of_find_delete (db.involves accountId) rfl hrow.stored gone
    refine .deleted accountId ?_
    by_contra hnot
    rw [not_or, not_or] at hnot
    obtain ⟨m, hm, hbelongs⟩ := hdb.envelopes row hrow.stored
    have hfalse : db.involves accountId row = false := by
      refine involves_eq_false.2 ⟨hnot.1, hnot.2.1, ?_⟩
      rw [concernsMessage, Table.find_eq_some.2 ⟨hm, hbelongs.id⟩]
      have hsender : m.senderAccountId ≠ accountId := hbelongs.account ▸ hnot.1
      have hpeer : m.peerAccountId ≠ accountId := fun heq => hnot.2.2 ⟨m, hm, hbelongs.id, heq⟩
      simp [concerns, hsender, hpeer]
    rw [hfalse] at hp
    cases hp
  | revokedOwn s deviceId session active other => exact hkept (by rw [markRevoked_snd])
  | prekeyClaimed accountId deviceId =>
    obtain ⟨p, hp⟩ := claimPreKey_snd db accountId deviceId
    exact hkept (by rw [hp])
  | claimed s m session pending certificate write =>
    obtain ⟨-, rfl⟩ := bootstrapMaster_eq_ok.1 write
    exact hkept rfl
  | inserted s m pendingRow now session pending device certificate key write =>
    obtain ⟨-, -, rfl⟩ := insertDevice_eq_ok.1 write
    exact hkept rfl
  | activated s id m bundle master session active received device pairing key certificate submitted write =>
    obtain ⟨-, -, rfl⟩ := activateDevice_eq_ok.1 write
    exact hkept rfl
  | added id username phc write =>
    obtain ⟨-, -, rfl⟩ := addAccount_eq_ok.1 write
    exact hkept rfl
  | devicesReset username write =>
    obtain ⟨account, -, rfl⟩ := resetDevices_eq_ok.1 write
    exact hkept rfl
  | prekeys s keys now session write =>
    obtain ⟨-, rfl⟩ := publishPreKeys_eq_ok.1 write
    exact hkept rfl
  | pairing s e expiresAtMs session size type write =>
    obtain ⟨-, -, rfl⟩ := insertPairingEvent_eq_ok.1 write
    exact hkept rfl
  | _ => exact hkept rfl

/-! ## Runs -/

/-- Devices that a step adds have ids that no revoked device had before. -/
def NewDevices (s s' : AppState) : Prop :=
  ∀ device ∈ s'.db.devices.rows, s.db.devices.find device.id = none →
    ∀ db ∈ s.past, (db.devices.find device.id).any DeviceRow.revoked = false

instance (s s' : AppState) : Decidable (NewDevices s s') := by unfold NewDevices; infer_instance

/-- What a connection has read of devices was so, and the device of an active session is one. -/
structure Connection.Read (s : AppState) (c : Connection) : Prop where
  device : ∀ accountId deviceId row, .readDevice accountId deviceId row ∈ c.log →
    ∃ db, s.Had db ∧ db.device accountId deviceId = row
  session : ∀ session, c.session = some session → session.pending = false →
    ∃ db, s.Had db ∧ (db.device session.account.id session.deviceId).isSome

theorem Connection.Read.grows {s s' : AppState} {c c' : Connection} (h : c.Read s)
    (had : ∀ db, s.Had db → s'.Had db)
    (device : ∀ accountId deviceId row, .readDevice accountId deviceId row ∈ c'.log →
      .readDevice accountId deviceId row ∈ c.log ∨ s.db.device accountId deviceId = row)
    (session : c'.session = c.session) : c'.Read s' where
  device accountId deviceId row hread := by
    rcases device accountId deviceId row hread with hread | hnow
    · obtain ⟨db, hdb, hrow⟩ := h.device _ _ _ hread
      exact ⟨db, had db hdb, hrow⟩
    · exact ⟨s.db, had _ (.inl rfl), hnow⟩
  session current hcurrent hactive := by
    rw [session] at hcurrent
    obtain ⟨db, hdb, hrow⟩ := h.session current hcurrent hactive
    exact ⟨db, had db hdb, hrow⟩

theorem ServerStep.had {i : Nat} {w w' : ServerWorld} (h : ServerStep env P i w w') {db : Db}
    (hdb : w.1.Had db) : w'.1.Had db :=
  hdb.evolves h.evolves

theorem ServerStep.read {i : Nat} {w w' : ServerWorld} (h : ServerStep env P i w w')
    (hread : w.2.Read w.1) : w'.2.Read w'.1 := by
  have had : ∀ db, w.1.Had db → w'.1.Had db := fun _ => h.had
  have device : ∀ {e : ConnectionEvent} {log : List ConnectionEvent},
      (∀ accountId deviceId row, e ≠ .readDevice accountId deviceId row) →
      ∀ accountId deviceId row, .readDevice accountId deviceId row ∈ e :: log →
      .readDevice accountId deviceId row ∈ log ∨ w.1.db.device accountId deviceId = row :=
    fun he accountId deviceId row hmem =>
      .inl ((List.mem_cons.1 hmem).resolve_left fun heq => he accountId deviceId row heq.symm)
  cases h with
  | stayed | learned | sent | registered | unregistered | directory | bucket | closed =>
    exact hread.grows had (fun _ _ _ h => .inl h) rfl
  | readAccount | received | readClock | challenged | taken =>
    exact hread.grows had (device nofun) rfl
  | readDevice accountId deviceId =>
    refine hread.grows had (fun a d row hmem => ?_) rfl
    rcases List.mem_cons.1 hmem with heq | hmem
    · cases heq
      exact .inr rfl
    · exact .inl hmem
  | wrote log events write stored acknowledged recorded =>
    refine hread.grows had (fun a d row hmem => ?_) rfl
    rcases List.mem_append.1 hmem with hmem | hmem
    · rcases recorded with rfl | ⟨_, _, _, rfl⟩
      · cases hmem
      · cases List.mem_singleton.1 hmem
    · exact .inl hmem
  | authenticated f auth challenge account row n capabilities rest log =>
    refine ⟨fun a d row hmem => hread.device a d row hmem, fun session hcurrent _ => ?_⟩
    cases hcurrent
    obtain ⟨db, hdb, hrow⟩ := hread.device account.id auth.deviceId (some row) (by
      rw [log]
      exact List.mem_cons_self)
    exact ⟨db, hdb, Option.isSome_iff_exists.2 ⟨row, hrow⟩⟩
  | passwordAccepted =>
    refine ⟨fun a d row hmem => ?_, fun session hcurrent hactive => ?_⟩
    · exact hread.device a d row ((List.mem_cons.1 hmem).resolve_left nofun)
    · cases hcurrent
      cases hactive
  | bootstrapped session m id rest current pending received device log inserted =>
    refine ⟨hread.device, fun new hcurrent _ => ?_⟩
    cases hcurrent
    exact inserted
  | passwordChanged session phc current active =>
    refine ⟨hread.device, fun new hcurrent _ => ?_⟩
    cases hcurrent
    exact hread.session session current active

/-- A device that was there before the step was not revoked, or is. -/
theorem RosterStep.before {had : Db → Prop} {key : Option Bytes} {r r' : Roster}
    (h : RosterStep P had key r r') {d : String} {row' : DeviceRow} (hrow : r'.device d = some row') :
    r.device d = none ∨ ∃ row, r.device d = some row ∧ (row.revoked = true → row'.revoked = true) := by
  cases h with
  | aside | added | claimed => exact .inr ⟨row', hrow, id⟩
  | inserted new account fresh certified =>
    by_cases hd : d = new.id
    · rw [hd]
      exact .inl fresh
    · exact .inr ⟨row', (Function.update_of_ne hd ..).symm.trans hrow, id⟩
  | activated old bundle master account found =>
    by_cases hd : d = old.id
    · subst hd
      cases (Function.update_self ..).symm.trans hrow
      exact .inr ⟨old, found, id⟩
    · exact .inr ⟨row', (Function.update_of_ne hd ..).symm.trans hrow, id⟩
  | revoked p =>
    obtain ⟨row, hold, rfl⟩ := Option.map_eq_some_iff.1 hrow
    refine .inr ⟨row, hold, fun hrevoked => ?_⟩
    split
    · rfl
    · exact hrevoked
  | reset accountId account =>
    obtain ⟨row, hold, rfl⟩ := Option.map_eq_some_iff.1 hrow
    refine .inr ⟨row, hold, fun hrevoked => ?_⟩
    split
    · rfl
    · exact hrevoked
  | deleted accountId => exact .inr ⟨row', (Option.filter_eq_some_iff.1 hrow).1, id⟩

/-- A device that was revoked is revoked, if it is there. -/
def StaysRevoked (s : AppState) : Prop :=
  ∀ d, RevokedIn s.Had d → ∀ device ∈ s.db.devices, device.id = d → device.revoked = true

theorem StaysRevoked.step {i : Nat} {s s' : AppState} {c c' : Connection} (h : StaysRevoked s)
    (fresh : NewDevices s s') (hs : ServerStep env P i (s, c) (s', c')) : StaysRevoked s' := by
  cases hs with
  | wrote log events write stored acknowledged recorded =>
    rintro d ⟨db, had, old, hold, hid, hrevoked⟩ device hdevice rfl
    rcases had with rfl | had
    · cases Table.eq_of_mem hold hdevice hid
      exact hrevoked
    have had : s.Had db := List.mem_cons.1 had
    have hrow := Db.roster_device.2 ⟨device, hdevice, rfl, rfl⟩
    rcases write.roster.before hrow with hnone | ⟨row, hrow, hkept⟩
    · -- A device that was not there is new, and no revoked device had its id.
      have hgone : s.db.devices.find device.id = none := Option.map_eq_none_iff.1 hnone
      have hfind : db.devices.find device.id = some old := Table.find_eq_some.2 ⟨hold, hid⟩
      rcases had with rfl | had
      · cases hgone.symm.trans hfind
      · have hnever := fresh device hdevice hgone db had
        rw [hfind, Option.any_some, hrevoked] at hnever
        cases hnever
    · obtain ⟨before, hbefore, hid', rfl⟩ := Db.roster_device.1 hrow
      exact hkept (h device.id ⟨db, had, old, hold, hid, hrevoked⟩ before hbefore hid')
  | _ => exact h

/-- Accounts get new ids, and devices ids that no revoked device had. -/
def NewIds (s : AppState) (_ : Connection) (s' : AppState) : Prop := NewAccounts s s' ∧ NewDevices s s'

instance (s : AppState) (c : Connection) (s' : AppState) : Decidable (NewIds s c s') := by
  unfold NewIds; infer_instance

/-- What holds in every state of such a run. -/
structure Tidy (s : AppState) (cs : Nat → Connection) : Prop where
  registered : Registered s
  consistent : s.db.Consistent
  revoked : StaysRevoked s
  read : ∀ i, (cs i).Read s

theorem Tidy.own {s : AppState} {cs : Nat → Connection} (h : Tidy s cs) {i : Nat} {session : Session}
    (current : (cs i).session = some session) (active : session.pending = false)
    (account : s.db.roster.Has session.account.id) :
    s.db.roster.owner session.deviceId = some session.account.id := by
  obtain ⟨db, had, hsome⟩ := (h.read i).session session current active
  obtain ⟨row, hrow⟩ := Option.isSome_iff_exists.1 hsome
  obtain ⟨hfind, hown⟩ := Option.filter_eq_some_iff.1 hrow
  rw [decide_eq_true_eq] at hown
  have hdevice : db.roster.device session.deviceId = some row.lasting := Option.map_eq_some_iff.2 ⟨row, hfind, rfl⟩
  obtain ⟨row', hrow', hsame, -⟩ := h.registered.lasting db had _ _ hdevice (by
    show (s.db.roster.master row.accountId).isSome
    rwa [hown])
  exact Option.map_eq_some_iff.2 ⟨row', hrow', hsame.accountId.trans hown⟩

theorem Tidy.step {i : Nat} {s s' : AppState} {cs : Nat → Connection} {c' : Connection} (h : Tidy s cs)
    (fresh : NewIds s (cs i) s') (hs : ServerStep env P i (s, cs i) (s', c')) :
    Tidy s' (Function.update cs i c') where
  registered := h.registered.step fresh.1 hs
  consistent := by
    cases hs with
    | wrote log events write =>
      exact write.consistent h.consistent fun _ current active account => h.own current active account
    | _ => exact h.consistent
  revoked := h.revoked.step fresh.2 hs
  read j := by
    by_cases hj : j = i
    · subst hj
      rw [Function.update_self]
      exact hs.read (h.read j)
    · rw [Function.update_of_ne hj]
      exact (h.read j).grows (fun _ => hs.had) (fun _ _ _ h => .inl h) rfl

theorem tidy {p : Cluster} (h : (serverSystem env P).ReachableUnder (Cluster.Meets NewIds) p) :
    Tidy p.shared p.locals := by
  refine Cluster.invariant_under (I := Tidy) h ?_ (fun i s cs s' c' hI hG hs => hI.step hG hs) fun s cs hI => ?_
  · refine ⟨.initial, .empty, ?_, fun _ => ⟨nofun, nofun⟩⟩
    rintro _ ⟨_, _, _, _⟩ device hdevice
    exact absurd hdevice (Table.not_mem_empty _)
  · exact ⟨⟨hI.registered.linked, hI.registered.lasting⟩, hI.consistent, hI.revoked,
      fun i => (hI.read i).grows (fun _ h => h) (fun _ _ _ h => .inl h) rfl⟩

open Db in
/-- In runs in which accounts get new ids, and devices ids that no revoked device had, the tables are
consistent; an awaited envelope goes only with its conversation or with a user that it concerns; and
every statement that deletes a user passes the foreign keys, and spares what does not involve them. -/
theorem message_store_consistent {p : Cluster}
    (h : (serverSystem env P).ReachableUnder (Cluster.Meets NewIds) p) :
    p.shared.db.Consistent ∧
      (∀ l p', Cluster.step env P p l = some p' → ∀ row, p.shared.db.Awaited row →
        p'.shared.db.envelopes.find row.envelopeId = none → p.shared.db.Removal row p'.shared.db) ∧
      ∀ accountId, (∀ n ≤ 7, (p.shared.db.afterStatements accountId n).ForeignKeys) ∧
        Spares p.shared.db accountId (p.shared.db.deleteUserRecords accountId) := by
  have hp := tidy h
  refine ⟨hp.consistent, fun l p' hs row hrow gone => ?_, fun accountId => ⟨fun n hn => ?_, ?_⟩⟩
  · have hreachable : (serverSystem env P).Reachable p := h.reachable
    have same : p'.shared.db = p.shared.db → p.shared.db.Removal row p'.shared.db := by
      intro heq
      rw [heq, Table.find_of_mem hrow.stored] at gone
      cases gone
    rcases ((Cluster.serving hreachable).step hs).2 with ⟨hshared, -⟩ | ⟨i, hstep, -⟩ | hcrashed
    · exact same (congrArg AppState.db hshared)
    · generalize hw : p'.world i = w' at hstep
      have hdb : p'.shared.db = w'.1.db := congrArg (fun w => w.1.db) hw
      rw [hdb] at gone same ⊢
      generalize hv : p.world i = w at hstep
      have hbefore : p.shared = w.1 := congrArg Prod.fst hv
      cases hstep with
      | wrote log events write =>
        cases hbefore
        exact write.removal hp.consistent hp.revoked hrow gone
      | _ => exact same (congrArg AppState.db hbefore).symm
    · exact same (by rw [hcrashed]; rfl)
  · exact hp.consistent.afterStatements accountId hn
  · exact deleteUserRecords_spares ..

namespace Scenario.Late

/-! ## A late cleanup -/

/-- Carol writes to Bob's device and to her own. -/
def message (bob : String) (device : Char) : Move :=
  .frame 1 (.sendEnvelopes
    { envelopes := [letterOf bob '1' '1' bob (uuid device), letterOf bob '1' '2' (uuid '7') (uuid 'c')] })

/-- Alice's device is revoked and not cleaned up yet. -/
def revoked : Cluster :=
  (fun p => p.advance 98)^[2] ((clusterAfter correspondents).start 98
    (Admin.runCommand server (.deviceRevoke "alice" (uuid 'a'))))

/-- Alice is deleted, Bob has the device now, and Carol has written to him. -/
def waiting : Cluster :=
  (.command 99 (.userDelete "alice") :: firstDeviceOf 2 "bob" (uuid '8') 'a' 5 6 ++
    [message (uuid '8') 'a']).foldl Move.run revoked

theorem waiting_reachable : (serverSystem server primitives).Reachable waiting := by
  refine moves_reachable _ (Cluster.advances_reachable (.step (clusterAfter_reachable correspondents) trivial
    (i := .command 98 (.deviceRevoke "alice" (uuid 'a'))) ?_) 98 2)
  exact if_pos (by decide +kernel)

theorem late_cleanup : (serverSystem server primitives).Reachable waiting ∧
    Cluster.step server primitives waiting (.advance 98) = some (waiting.advance 98) ∧
    ∃ row, waiting.shared.db.Awaited row ∧
      (waiting.advance 98).shared.db.envelopes.find row.envelopeId = none ∧
      ¬waiting.shared.db.Removal row (waiting.advance 98).shared.db := by
  refine ⟨waiting_reachable, if_pos (by decide +kernel), ?_⟩
  let awaited (row : EnvelopeRow) : Bool := row.deliveredAtMs.isNone &&
    (waiting.shared.db.devices.rows.any fun device =>
      device.id = row.envelope.recipientDeviceId && !device.revoked) &&
    waiting.shared.db.concernsMessage row.envelope.recipientAccountId row.envelope.logicalMessageId &&
    ((waiting.advance 98).shared.db.envelopes.find row.envelopeId).isNone &&
    (waiting.advance 98).shared.db.envelopes.rows.any fun other =>
      other.envelope.logicalMessageId = row.envelope.logicalMessageId &&
        other.senderAccountId = row.senderAccountId
  have hrow : waiting.shared.db.envelopes.rows.any awaited = true := by decide +kernel
  obtain ⟨row, hmem, hrow⟩ := List.any_eq_true.1 hrow
  simp only [awaited, Bool.and_eq_true, List.any_eq_true, Option.isNone_iff_eq_none, Bool.not_eq_true',
    decide_eq_true_eq] at hrow
  obtain ⟨⟨⟨⟨hundelivered, device, hdevice, hid, hunrevoked⟩, hconcerned⟩, hgone⟩, other, hother, hmessage, hsender⟩ :=
    hrow
  exact ⟨row, ⟨hmem, hundelivered, device, hdevice, hid, hunrevoked⟩, hgone,
    fun hremoval => hremoval.gone hmessage hsender hconcerned hother⟩

/-! ## A run with new ids -/

def written : List Move := correspondents ++ [message (uuid '1') 'a']

theorem message_store_consistent_written :
    (clusterAfter written).shared.db.envelopes.rows.length = 2 ∧ (clusterAfter written).shared.db.Consistent ∧
      (∀ l p', Cluster.step server primitives (clusterAfter written) l = some p' →
        ∀ row, (clusterAfter written).shared.db.Awaited row →
          p'.shared.db.envelopes.find row.envelopeId = none →
          (clusterAfter written).shared.db.Removal row p'.shared.db) ∧
      ∀ n ≤ 7, ((clusterAfter written).shared.db.afterStatements (uuid '1') n).ForeignKeys := by
  have hrun : (serverSystem server primitives).ReachableUnder (Cluster.Meets NewIds) (clusterAfter written) :=
    clusterAfter_under (by decide +kernel)
  have hstore := message_store_consistent hrun
  exact ⟨by decide +kernel, hstore.1, hstore.2.1, fun n hn => (hstore.2.2 (uuid '1')).1 n hn⟩

end Scenario.Late

end TuiChat
