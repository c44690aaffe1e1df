import TuiChat.Crypto.Sessions
import TuiChat.Verify.Scenario
import Mathlib.Logic.Equiv.List

/-!
# The table of sessions

What a call on a machine does to the ids of the sessions of a device id is one of two things: it leaves them, or
it enters a new id at the end and lets the oldest go where there were five (`step_change`). So after any calls
a device id in the table has one to five sessions with distinct ids, in the order in which they came and with
the newest last (`session_table`).
-/

namespace TuiChat

open Lib (Bytes Table)

variable {O : Olm}

/-! ## The ids of the sessions of a device id -/

/-- At most five ids: the oldest goes. -/
def capIds (ids : List String) : List String := if ids.length > 5 then ids.tail else ids

/-- What a call does to the ids of a device id, `none` where it is not in the table. -/
inductive IdsChange : Option (List String) → Option (List String) → Prop
  | same (ids : Option (List String)) : IdsChange ids ids
  | entered (ids : Option (List String)) (id : String) (fresh : id ∉ ids.getD []) :
    IdsChange ids (some (capIds (ids.getD [] ++ [id])))

/-- The ids of a device id are the newest of those that came. -/
structure Newest (came ids : List String) : Prop where
  pos : 1 ≤ ids.length
  le : ids.length ≤ 5
  nodup : ids.Nodup
  suffix : ids <:+ came

/-- The ids that a call brings. -/
def appeared (ids ids' : Option (List String)) : List String :=
  (ids'.getD []).filter fun id => id ∉ ids.getD []

theorem capIds_suffix (ids : List String) : capIds ids <:+ ids := by
  unfold capIds
  split
  · exact List.tail_suffix ids
  · exact List.suffix_rfl

theorem capIds_append (ids : List String) (id : String) :
    ∃ kept, kept <:+ ids ∧ capIds (ids ++ [id]) = kept ++ [id] := by
  unfold capIds
  split
  · next hlen =>
    cases ids with
    | nil => simp at hlen
    | cons oldest ids => exact ⟨ids, List.suffix_cons oldest ids, rfl⟩
  · exact ⟨ids, List.suffix_rfl, rfl⟩

theorem length_capIds {ids : List String} {id : String} (h : ids.length ≤ 5) :
    1 ≤ (capIds (ids ++ [id])).length ∧ (capIds (ids ++ [id])).length ≤ 5 := by
  unfold capIds
  split
  · next hlen =>
    simp only [List.length_append, List.length_singleton, List.length_tail] at hlen ⊢
    omega
  · next hlen =>
    simp only [List.length_append, List.length_singleton] at hlen ⊢
    omega

/-- The ids stay the newest, whatever a call does. -/
theorem IdsChange.newest {before after : Option (List String)} {came : List String} (h : IdsChange before after)
    (hbefore : ∀ ids ∈ before, Newest came ids) : ∀ ids ∈ after, Newest (came ++ appeared before after) ids := by
  cases h with
  | same =>
    intro ids hids
    have hnone : appeared before before = [] := by
      unfold appeared
      rw [List.filter_eq_nil_iff]
      intro id hid
      simp [hid]
    rw [hnone, List.append_nil]
    exact hbefore ids hids
  | entered id fresh =>
    intro ids hids
    cases hids
    have hold : (before.getD []).length ≤ 5 ∧ (before.getD []).Nodup ∧ before.getD [] <:+ came := by
      cases before with
      | none => exact ⟨Nat.zero_le 5, List.nodup_nil, List.nil_suffix⟩
      | some ids =>
        have hids := hbefore ids rfl
        exact ⟨hids.le, hids.nodup, hids.suffix⟩
    obtain ⟨hlen, hnodup, hsuffix⟩ := hold
    obtain ⟨hpos, hle⟩ := @length_capIds _ id hlen
    have happended : (before.getD [] ++ [id]).Nodup := by
      rw [List.nodup_append]
      refine ⟨hnodup, List.nodup_singleton id, fun a ha b hb => ?_⟩
      rw [List.mem_singleton.1 hb]
      exact fun heq => fresh (heq ▸ ha)
    obtain ⟨kept, hkept, hcap⟩ := capIds_append (before.getD []) id
    have happeared : appeared before (some (capIds (before.getD [] ++ [id]))) = [id] := by
      unfold appeared
      rw [Option.getD_some, hcap, List.filter_append]
      have hnone : kept.filter (fun id => decide (id ∉ before.getD [])) = [] := by
        rw [List.filter_eq_nil_iff]
        intro id hid
        simp [hkept.subset hid]
      rw [hnone]
      simp [fresh]
    refine ⟨hpos, hle, happended.sublist (capIds_suffix _).sublist, ?_⟩
    rw [happeared]
    obtain ⟨gone, hgone⟩ := hkept.trans hsuffix
    rw [hcap, ← hgone, List.append_assoc]
    exact List.suffix_append gone (kept ++ [id])

namespace OlmMachine

/-- The ids of the sessions of a device id in the table, oldest first. -/
def ids (m : OlmMachine O) (d : String) : Option (List String) :=
  (m.sessions.find d).map fun entry => entry.2.map O.sessionId

theorem getD_ids (m : OlmMachine O) (d : String) : (m.ids d).getD [] = (m.sessionsOf d).map O.sessionId := by
  unfold ids sessionsOf
  cases m.sessions.find d <;> rfl

theorem ids_of_ne_nil {m : OlmMachine O} {d : String} (h : m.sessionsOf d ≠ []) :
    m.ids d = some ((m.sessionsOf d).map O.sessionId) := by
  unfold ids
  unfold sessionsOf at h ⊢
  cases hfind : m.sessions.find d with
  | none =>
    rw [hfind] at h
    exact absurd rfl h
  | some entry => rfl

theorem ids_setSessions (m : OlmMachine O) (d d' : String) (ss : List O.Session) :
    (m.setSessions d ss).ids d' = if d' = d then some (ss.map O.sessionId) else m.ids d' := by
  unfold ids setSessions
  rw [Table.find_put]
  split <;> rfl

/-- New sessions with the ids of those that were there. -/
theorem change_setSessions_same {m : OlmMachine O} {d : String} {ss : List O.Session}
    (h : m.ids d = some (ss.map O.sessionId)) (d' : String) : IdsChange (m.ids d') ((m.setSessions d ss).ids d') := by
  rw [ids_setSessions]
  split
  · next hd =>
    subst hd
    rw [h]
    exact .same _
  · exact .same _

/-- A session of an id that was not there. -/
theorem change_setSessions_entered {m : OlmMachine O} {d : String} {s : O.Session}
    (h : O.sessionId s ∉ (m.sessionsOf d).map O.sessionId) (d' : String) :
    IdsChange (m.ids d') ((m.setSessions d (evict (m.sessionsOf d ++ [s]))).ids d') := by
  rw [ids_setSessions]
  split
  · next hd =>
    subst hd
    have hcap : (evict (m.sessionsOf d' ++ [s])).map O.sessionId =
        capIds ((m.ids d').getD [] ++ [O.sessionId s]) := by
      rw [getD_ids]
      unfold evict capIds
      simp only [List.length_append, List.length_map, List.length_singleton]
      split
      · rw [List.map_tail, List.map_append]
        rfl
      · rw [List.map_append]
        rfl
    rw [hcap]
    apply IdsChange.entered
    rw [getD_ids]
    exact h
  · exact .same _

end OlmMachine

/-! ## The calls -/

namespace Olm.Leftover

variable {L : O.Leftover}

theorem map_sessionId_dropLast {sessions : List O.Session} {session session' : O.Session}
    (h : sessions.getLast? = some session) (hid : O.sessionId session' = O.sessionId session) :
    (sessions.dropLast ++ [session']).map O.sessionId = sessions.map O.sessionId := by
  conv_rhs => rw [← List.dropLast_append_getLast? session h]
  simp [hid]

theorem ids_encryptNewest (hL : L.SessionIdFixed) (m : OlmMachine O) (d d' : String) (p : Bytes) (n : Nat)
    (missing : Error) : (L.encryptNewest m d p n missing).2.ids d' = m.ids d' := by
  unfold encryptNewest
  cases hlast : (m.sessionsOf d).getLast? with
  | none => simp only [hlast]
  | some session =>
    have hne : m.sessionsOf d ≠ [] := by
      intro hempty
      simp [hempty] at hlast
    have hput : ∀ session', O.sessionId session' = O.sessionId session →
        (m.setSessions d ((m.sessionsOf d).dropLast ++ [session'])).ids d' = m.ids d' := by
      intro session' hid
      rw [OlmMachine.ids_setSessions, map_sessionId_dropLast hlast hid]
      split
      · next hd =>
        subst hd
        exact (OlmMachine.ids_of_ne_nil hne).symm
      · rfl
    cases hencrypt : O.encrypt session p n with
    | none => simp only [hlast, hencrypt, hput _ (hL.failedEncrypt hencrypt)]
    | some found => simp only [hlast, hencrypt, hput _ (hL.encrypt hencrypt)]

theorem map_sessionId_decryptWith (hL : L.SessionIdFixed) (message : O.Message) : ∀ sessions : List O.Session,
    (L.decryptWith sessions message).2.map O.sessionId = sessions.map O.sessionId
  | [] => rfl
  | session :: newer => by
    have ih := map_sessionId_decryptWith hL message newer
    unfold decryptWith
    cases hnewer : L.decryptWith newer message with
    | mk plaintext newer' =>
      rw [hnewer] at ih
      cases plaintext with
      | some plaintext => simpa using ih
      | none =>
        cases hdecrypt : O.decrypt session message with
        | some found => simpa [hL.decrypt hdecrypt] using ih
        | none => simpa [hL.failedDecrypt hdecrypt] using ih

theorem ids_tryAll (hL : L.SessionIdFixed) (m : OlmMachine O) (d d' : String) (message : O.Message) :
    (L.tryAll m d message).2.ids d' = m.ids d' := by
  unfold tryAll
  cases hfind : m.sessions.find d with
  | none => rfl
  | some entry =>
    show (m.setSessions d (L.decryptWith entry.2 message).2).ids d' = m.ids d'
    rw [OlmMachine.ids_setSessions, map_sessionId_decryptWith hL]
    split
    · next hd =>
      subst hd
      unfold OlmMachine.ids
      rw [hfind]
      rfl
    · rfl

theorem encrypt_change (hL : L.SessionIdFixed) (m : OlmMachine O) (r : PreKeyMaterial) (p : Bytes) (n : Nat)
    (d : String) : IdsChange (m.ids d) ((L.encrypt m r p n).2.ids d) := by
  unfold encrypt
  by_cases hsession : m.hasSession r.deviceId = true
  · rw [if_pos hsession, ids_encryptNewest hL]
    exact .same _
  · rw [if_neg hsession]
    have hempty : m.sessionsOf r.deviceId = [] := by
      simpa [OlmMachine.hasSession] using hsession
    cases O.createOutboundSession m.account r.identityKey r.oneTimeKey n with
    | none => exact .same _
    | some session =>
      dsimp only
      rw [ids_encryptNewest hL]
      have hone : m.sessionsOf r.deviceId ++ [session] = OlmMachine.evict (m.sessionsOf r.deviceId ++ [session]) := by
        rw [hempty]
        rfl
      rw [hone]
      apply OlmMachine.change_setSessions_entered
      simp [hempty]

theorem decrypt_change (hL : L.SessionIdFixed) (m : OlmMachine O) (sender : String) (k : Bytes)
    (encrypted : EncryptedOlm) (d : String) : IdsChange (m.ids d) ((L.decrypt m sender k encrypted).2.ids d) := by
  unfold decrypt
  cases O.fromParts encrypted.messageType encrypted.ciphertext with
  | none => exact .same _
  | some message =>
    have hids := fun d => ids_tryAll hL m sender d message
    dsimp only
    cases htry : L.tryAll m sender message with
    | mk plaintext m' =>
      rw [htry] at hids
      rw [← hids d]
      cases plaintext with
      | some plaintext => exact .same _
      | none =>
        dsimp only
        by_cases hpre : O.isPreKey message = true
        · rw [if_pos hpre]
          cases O.createInboundSession m'.account k message with
          | none => exact .same _
          | some created =>
            obtain ⟨session, plaintext, account⟩ := created
            dsimp only
            -- The account is not in the table.
            by_cases hknown :
                (m'.sessionsOf sender).any (fun known => O.sessionId known = O.sessionId session) = true
            · rw [if_pos hknown]
              have hne : m'.sessionsOf sender ≠ [] := by
                intro hempty
                simp [hempty] at hknown
              exact OlmMachine.change_setSessions_same (m := { m' with account }) (OlmMachine.ids_of_ne_nil hne) d
            · rw [if_neg hknown]
              refine OlmMachine.change_setSessions_entered (m := { m' with account }) ?_ d
              intro hmem
              obtain ⟨known, hin, hid⟩ := List.mem_map.1 hmem
              exact hknown (List.any_eq_true.2 ⟨known, hin, by simpa using hid⟩)
        · rw [if_neg hpre]
          exact .same _

end Olm.Leftover

/-! ## Runs -/

/-- A call on a machine; `accountMut` is any use of the account alone, as that of `generate_prekeys`, and
`reload` is `to_bytes` with `from_bytes`. -/
inductive MachineCall (O : Olm)
  | encryptExisting (deviceId : String) (plaintext : Bytes) (draw : Nat)
  | encrypt (recipient : PreKeyMaterial) (plaintext : Bytes) (draw : Nat)
  | decrypt (senderDevice : String) (senderIdentityKey : Bytes) (encrypted : EncryptedOlm)
  | accountMut (f : O.Account → O.Account)
  | reload

section Runs

variable {K : Pickling O} (L : O.Leftover) (J : PickleJson K)

namespace MachineCall

def step (m : OlmMachine O) : MachineCall O → OlmMachine O
  | encryptExisting deviceId plaintext draw => (L.encryptExisting m deviceId plaintext draw).2
  | encrypt recipient plaintext draw => (L.encrypt m recipient plaintext draw).2
  | decrypt senderDevice senderIdentityKey encrypted => (L.decrypt m senderDevice senderIdentityKey encrypted).2
  | accountMut f => { m with account := f m.account }
  | reload =>
    match (J.toBytes m).bind J.fromBytes with
    | .ok m' => m'
    | .error _ => m

/-- The machine after some calls, and for each device id the session ids that came into the table, in the order
in which they came. -/
def run (m : OlmMachine O) (came : String → List String) :
    List (MachineCall O) → OlmMachine O × (String → List String)
  | [] => (m, came)
  | call :: calls =>
    run (call.step L J m) (fun d => came d ++ appeared (m.ids d) ((call.step L J m).ids d)) calls

end MachineCall

variable {L J}

/-- A call leaves the ids of a device id, or enters a new one. -/
theorem step_change (hL : L.SessionIdFixed) (hK : K.RoundTrips) (hJ : J.RoundTrips) (m : OlmMachine O)
    (call : MachineCall O) (d : String) : IdsChange (m.ids d) ((call.step L J m).ids d) := by
  cases call with
  | encryptExisting deviceId plaintext draw =>
    show IdsChange _ ((L.encryptNewest m deviceId plaintext draw _).2.ids d)
    rw [Olm.Leftover.ids_encryptNewest hL]
    exact .same _
  | encrypt recipient plaintext draw => exact Olm.Leftover.encrypt_change hL m recipient plaintext draw d
  | decrypt senderDevice senderIdentityKey encrypted =>
    exact Olm.Leftover.decrypt_change hL m senderDevice senderIdentityKey encrypted d
  | accountMut f => exact .same _
  | reload =>
    show IdsChange _ (OlmMachine.ids (match (J.toBytes m).bind J.fromBytes with
      | .ok m' => m'
      | .error _ => m) d)
    cases hbytes : J.toBytes m with
    | error e => exact .same _
    | ok b =>
      obtain ⟨m', hm', -, hsessions⟩ := J.fromBytes_toBytes hK hJ hbytes
      show IdsChange _ (OlmMachine.ids (match J.fromBytes b with
        | .ok m' => m'
        | .error _ => m) d)
      rw [hm']
      have hids : m'.ids d = m.ids d := by
        unfold OlmMachine.ids
        rw [hsessions]
      dsimp only
      rw [hids]
      exact .same _

theorem newest_run (hL : L.SessionIdFixed) (hK : K.RoundTrips) (hJ : J.RoundTrips) (d : String) :
    ∀ (calls : List (MachineCall O)) {m : OlmMachine O} {came : String → List String},
      (∀ ids ∈ m.ids d, Newest (came d) ids) →
        ∀ ids ∈ (MachineCall.run L J m came calls).1.ids d, Newest ((MachineCall.run L J m came calls).2 d) ids
  | [], _, _, h => h
  | call :: calls, m, _, h => newest_run hL hK hJ d calls ((step_change hL hK hJ m call d).newest h)

/-- After any calls on a new machine, a device id in the table has one to five sessions with distinct ids, the
newest of those that came, in their order; a decryption that fails changes nothing; and the machine read back
from its bytes has the same account and the same sessions. -/
theorem session_table (hL : L.Unchanged) (hid : L.SessionIdFixed) (hK : K.RoundTrips) (hJ : J.RoundTrips)
    (account : O.Account) (calls : List (MachineCall O)) :
    let (m, came) := MachineCall.run L J (.ofAccount account) (fun _ => []) calls
    (∀ entry ∈ m.sessions, 1 ≤ entry.2.length ∧ entry.2.length ≤ 5 ∧ (entry.2.map O.sessionId).Nodup ∧
      entry.2.map O.sessionId <:+ came entry.1) ∧
    (∀ d k encrypted e, (L.decrypt m d k encrypted).1 = .error e → (L.decrypt m d k encrypted).2 = m) ∧
    ∀ b, J.toBytes m = .ok b →
      ∃ m', J.fromBytes b = .ok m' ∧ m'.account = m.account ∧ ∀ d, m'.sessions.find d = m.sessions.find d := by
  refine ⟨fun entry hentry => ?_, fun d k encrypted e h => Olm.Leftover.decrypt_error hL h, fun b hb =>
    J.fromBytes_toBytes hK hJ hb⟩
  have hstart : ∀ ids ∈ (OlmMachine.ofAccount account : OlmMachine O).ids entry.1, Newest [] ids := by
    intro ids hids
    cases hids
  have hcame : ∀ ids ∈ (MachineCall.run L J (.ofAccount account) (fun _ => []) calls).1.ids entry.1,
      Newest ((MachineCall.run L J (.ofAccount account) (fun _ => []) calls).2 entry.1) ids :=
    newest_run hid hK hJ entry.1 calls hstart
  have hnewest := hcame (entry.2.map O.sessionId)
  have hids : (MachineCall.run L J (.ofAccount account) (fun _ => []) calls).1.ids entry.1 =
      some (entry.2.map O.sessionId) := by
    unfold OlmMachine.ids
    rw [Table.find_of_mem hentry]
    rfl
  obtain ⟨hpos, hle, hnodup, hsuffix⟩ := hnewest hids
  rw [List.length_map] at hpos hle
  exact ⟨hpos, hle, hnodup, hsuffix⟩

end Runs

namespace Scenario.Sessions

/-! ### Pickles as bytes -/

def codes (b : Bytes) : List Nat := b.map UInt8.toNat

def bytesOf (ns : List Nat) : Bytes := ns.map UInt8.ofNat

theorem bytesOf_codes (b : Bytes) : bytesOf (codes b) = b := by
  simp [bytesOf, codes, Function.comp_def]

def charCodes (s : String) : List Nat := s.toList.map Char.toNat

def stringOf (ns : List Nat) : String := .ofList (ns.map Char.ofNat)

theorem stringOf_charCodes (s : String) : stringOf (charCodes s) = s := by
  simp [stringOf, charCodes, Function.comp_def]

/-- Pickles that are what they are made of. -/
def pickling : Pickling olm where
  AccountPickle := Bytes
  SessionPickle := Bytes × Bytes
  accountPickle := id
  accountFromPickle := id
  sessionPickle := id
  sessionFromPickle := id

theorem pickling_roundTrips : pickling.RoundTrips := ⟨fun _ => rfl, fun _ => rfl⟩

/-- A row of the table, as numbers. -/
abbrev RowCode := List Nat × List (List Nat × List Nat)

def rowCode (row : String × List (Bytes × Bytes)) : RowCode :=
  (charCodes row.1, row.2.map fun s => (codes s.1, codes s.2))

def rowOf (code : RowCode) : String × List (Bytes × Bytes) :=
  (stringOf code.1, code.2.map fun s => (bytesOf s.1, bytesOf s.2))

theorem rowOf_rowCode (row : String × List (Bytes × Bytes)) : rowOf (rowCode row) = row := by
  unfold rowOf rowCode
  rw [stringOf_charCodes, List.map_map]
  simp [Function.comp_def, bytesOf_codes]

theorem rowsOf_rowCodes (rows : List (String × List (Bytes × Bytes))) : (rows.map rowCode).map rowOf = rows := by
  rw [List.map_map]
  simp [Function.comp_def, rowOf_rowCode]

/-- Numbers are written as so many bytes. -/
def json : PickleJson pickling where
  toVec pickle :=
    .ok (List.replicate (Encodable.encode (codes pickle.account, pickle.sessions.rows.map rowCode)) 32)
  fromSliceV2 b :=
    match (Encodable.decode b.length : Option (List Nat × List RowCode)) with
    | none => .error "expected value"
    | some (account, rows) =>
      if h : ((rows.map rowOf).map Prod.fst).Nodup then
        .ok { account := bytesOf account, sessions := ⟨rows.map rowOf, h⟩ }
      else .error "duplicate key"
  fromSliceV1 _ := .error "missing field"

theorem json_roundTrips : json.RoundTrips := by
  intro pickle b h
  cases h
  obtain ⟨account, rows, nodup⟩ := pickle
  have hrows : (rows.map rowCode).map rowOf = rows := rowsOf_rowCodes rows
  have hnodup : (((rows.map rowCode).map rowOf).map Prod.fst).Nodup := by
    rw [hrows]
    exact nodup
  refine ⟨_, ?_, rfl, fun d => rfl⟩
  show (match (Encodable.decode (List.replicate _ (32 : UInt8)).length : Option (List Nat × List RowCode)) with
    | none => _
    | some (account, rows) => _) = _
  rw [List.length_replicate, Encodable.encodek]
  dsimp only
  rw [dif_pos hnodup]
  congr
  exact bytesOf_codes account

/-! ### A machine in use -/

/-- Calls that fail change nothing. -/
def leftover : olm.Leftover where
  failedEncrypt session _ _ := session
  failedDecrypt session _ := session
  failedInbound account _ _ := account

theorem leftover_unchanged : leftover.Unchanged := ⟨fun _ => rfl, fun _ => rfl⟩

theorem leftover_sessionIdFixed : leftover.SessionIdFixed where
  encrypt h := by cases h; rfl
  decrypt {s m p s'} h := by
    change (if m.2.take 32 = s.2 then _ else none) = _ at h
    split at h
    · cases h; rfl
    · cases h
  failedEncrypt _ := rfl
  failedDecrypt _ := rfl

/-- A message from a device makes a session, which answers after a restart; another device is written to, and a
message that nothing reads arrives. -/
def calls : List (MachineCall olm) :=
  [.decrypt "b1" (bytes32 2) ⟨0, bytes32 2 ++ [104, 105]⟩,
    .encryptExisting "b1" [104, 111] 0,
    .reload,
    .encrypt ⟨"c1", bytes32 3, bytes32 4⟩ [104, 105] 0,
    .decrypt "b1" (bytes32 2) ⟨0, bytes32 9⟩]

theorem session_table_calls :
    let (m, came) := MachineCall.run leftover json (.ofAccount (bytes32 1)) (fun _ => []) calls
    (∀ entry ∈ m.sessions, 1 ≤ entry.2.length ∧ entry.2.length ≤ 5 ∧ (entry.2.map olm.sessionId).Nodup ∧
      entry.2.map olm.sessionId <:+ came entry.1) ∧
    (∀ d k encrypted e, (leftover.decrypt m d k encrypted).1 = .error e → (leftover.decrypt m d k encrypted).2 = m) ∧
    ∀ b, json.toBytes m = .ok b →
      ∃ m', json.fromBytes b = .ok m' ∧ m'.account = m.account ∧ ∀ d, m'.sessions.find d = m.sessions.find d :=
  session_table leftover_unchanged leftover_sessionIdFixed pickling_roundTrips json_roundTrips (bytes32 1) calls

end Scenario.Sessions

end TuiChat
