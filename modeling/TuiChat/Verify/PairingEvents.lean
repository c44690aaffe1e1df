import TuiChat.Lib.Pages
import TuiChat.Verify.ServerScenario

/-!
# Pairing events that wait

After a device has authenticated, `push_post_auth` reads the events that wait for it and sends them. The query
is read once and ends at a limit; nothing goes on from where it ended. All that waits is sent if and only if it
is not more than the limit (`pushPostAuth_delivers_iff`).
-/

namespace TuiChat

open Lib (Bytes Proc Table)
open Lib.Page (Rises rises_insertionSort)
open Lib.Pool (Interferes)

/-! ## Rows and events -/

/-- The events that wait for a device at an instant. -/
def Db.waitingEvents (db : Db) (target : String) (now : Int) : List PairingEventRow :=
  db.pairingEvents.rows.filter fun row => row.targetDeviceId = target && now < row.expiresAtMs

theorem Db.pendingPairingEvents_eq (db : Db) (target : String) (now : Int) :
    db.pendingPairingEvents target now =
      ((db.waitingEvents target now).insertionSort fun a b => a.id ≤ b.id).take 200 := rfl

/-- The event says what the row does. -/
structure PairingEvent.Carries (e : PairingEvent) (row : PairingEventRow) : Prop where
  id : e.serverEventId = row.id
  pairing : e.pairingId = row.pairingId
  target : e.targetDeviceId = row.targetDeviceId
  eventType : e.eventType = row.eventType
  payload : e.payload = row.payload
  sender : e.senderDeviceId = row.senderDeviceId

/-- The events of the rows are sent, each once, with rising ids, and no others. -/
structure Delivers (rows : List PairingEventRow) (sent : List PairingEvent) : Prop where
  rises : Rises PairingEvent.serverEventId sent
  every : ∀ row ∈ rows, ∃ e ∈ sent, e.Carries row
  only : ∀ e ∈ sent, ∃ row ∈ rows, e.Carries row

namespace Ws

def queuedEvent (session : Session) (devices : List DeviceBundle) (row : PairingEventRow) : PairingEvent :=
  { pairingId := row.pairingId
    targetDeviceId := session.deviceId
    eventType := row.eventType
    payload := row.payload
    senderDeviceId := row.senderDeviceId
    serverEventId := row.id
    senderDeviceName := ((devices.find? fun d => d.deviceId = row.senderDeviceId).map
      DeviceBundle.deviceName).getD "未知设备" }

variable {session : Session} {devices : List DeviceBundle} {row : PairingEventRow} {rows : List PairingEventRow}

theorem queuedEvent_carries (h : row.targetDeviceId = session.deviceId) :
    (queuedEvent session devices row).Carries row where
  id := rfl
  pairing := rfl
  target := h.symm
  eventType := rfl
  payload := rfl
  sender := rfl

/-- The first rows by their ids are all of them if and only if they fit. -/
theorem delivers_take_iff {n : Nat} (distinct : (rows.map PairingEventRow.id).Nodup)
    (target : ∀ row ∈ rows, row.targetDeviceId = session.deviceId) :
    Delivers rows (((rows.insertionSort fun a b => a.id ≤ b.id).take n).map (queuedEvent session devices)) ↔
      rows.length ≤ n := by
  have hmem : ∀ row, row ∈ rows.insertionSort (fun a b => a.id ≤ b.id) ↔ row ∈ rows :=
    fun _ => List.mem_insertionSort _
  constructor
  · intro h
    have hids : rows.map PairingEventRow.id ⊆
        ((rows.insertionSort fun a b => a.id ≤ b.id).take n).map PairingEventRow.id := by
      intro id hid
      obtain ⟨row, hrow, rfl⟩ := List.mem_map.1 hid
      obtain ⟨e, he, hcarries⟩ := h.every row hrow
      obtain ⟨row', hrow', rfl⟩ := List.mem_map.1 he
      exact List.mem_map.2 ⟨row', hrow', hcarries.id⟩
    have hle := (List.subperm_of_subset distinct hids).length_le
    rw [List.length_map, List.length_map] at hle
    exact hle.trans (List.length_take_le _ _)
  · intro hle
    rw [List.take_of_length_le (by rwa [List.length_insertionSort])]
    have hrises : Rises PairingEventRow.id (rows.insertionSort fun a b => a.id ≤ b.id) :=
      rises_insertionSort PairingEventRow.id (.of_map _ distinct) fun a ha b hb hid =>
        List.inj_on_of_nodup_map distinct ha hb hid
    constructor
    · exact List.pairwise_map.2 hrises
    · intro row hrow
      exact ⟨_, List.mem_map_of_mem ((hmem row).2 hrow), queuedEvent_carries (target row hrow)⟩
    · intro e he
      obtain ⟨row, hrow, rfl⟩ := List.mem_map.1 he
      have hin := (hmem row).1 hrow
      exact ⟨row, hin, queuedEvent_carries (target row hin)⟩

/-! ## Frames -/

/-- The pairing event of a frame that was handed to the writer of a connection. -/
def sentEvent (token : Nat) (sent : Nat × Frame) : Option PairingEvent :=
  if sent.1 = token then
    match sent.2.body with
    | some (.pairingEvent e) => some e
    | _ => none
  else none

/-- The pairing events that a connection has been sent. -/
def sentEvents (token : Nat) (s : AppState) : List PairingEvent := s.out.filterMap (sentEvent token)

/-- What the others may do while a device is sent what waits for it: nothing that waits for it at a reading of the
clock from `start` on comes or goes, and no pairing event is sent to its connection. -/
structure Undisturbed (env : ServerEnvironment) (token : Nat) (deviceId : String) (start : Nat) (s s' : AppState) :
    Prop where
  tick : s.tick ≤ s'.tick
  waiting : ∀ n, start ≤ n →
    s'.db.waitingEvents deviceId (env.nowMs n) = s.db.waitingEvents deviceId (env.nowMs n)
  sent : sentEvents token s' = sentEvents token s

variable {env : ServerEnvironment} {token start : Nat} {α : Type} {w : ServerWorld}

theorem wp_query {deviceId : String} {f : Db → α} {Q : α → ServerWorld → Prop}
    (h : ∀ s' c, Undisturbed env token deviceId start w.1 s' → Q (f s'.db) ({ s' with tick := s'.tick + 1 }, c)) :
    (query env f).wp (Interferes (Undisturbed env token deviceId start)) (fun _ _ => True) Q
      (fun _ _ => ∃ n, env.works n = false) w := by
  unfold query queryRecording learn
  rw [Proc.wp_atomically]
  rintro w' ⟨hs, -⟩
  dsimp only
  cases hworks : env.works w'.1.tick with
  | false => exact ⟨trivial, nofun, fun _ _ => ⟨_, hworks⟩⟩
  | true =>
    refine ⟨trivial, fun a ha => ?_, nofun⟩
    cases ha
    exact h w'.1 w'.2 hs

theorem wp_send {deviceId : String} {f : Frame} {Q : Unit → ServerWorld → Prop}
    (h : ∀ s' c, Undisturbed env token deviceId start w.1 s' →
      Q () ({ s' with tick := s'.tick + 1, out := s'.out ++ [(token, f)] }, c)) :
    (send env token f).wp (Interferes (Undisturbed env token deviceId start)) (fun _ _ => True) Q
      (fun _ _ => ∃ n, env.works n = false) w := by
  unfold send learn
  rw [Proc.wp_atomically]
  rintro w' ⟨hs, -⟩
  dsimp only
  cases hworks : env.works w'.1.tick with
  | false => exact ⟨trivial, nofun, fun _ _ => ⟨_, hworks⟩⟩
  | true => exact ⟨trivial, fun _ _ => h w'.1 w'.2 hs, nofun⟩

/-- Events are sent in the order of the rows. -/
theorem wp_eachEvent {deviceId : String} : ∀ (rows : List PairingEventRow) (w : ServerWorld),
    (Proc.each (pushQueuedEvent env token session devices) rows).wp
      (Interferes (Undisturbed env token deviceId start)) (fun _ _ => True)
      (fun _ w' => w.1.tick ≤ w'.1.tick ∧
        sentEvents token w'.1 = sentEvents token w.1 ++ rows.map (queuedEvent session devices))
      (fun _ _ => ∃ n, env.works n = false) w
  | [], w => (Proc.wp_pure ()).2 ⟨Nat.le_refl _, by simp⟩
  | row :: rows, w => by
    have hhead : (pushQueuedEvent env token session devices row).wp
        (Interferes (Undisturbed env token deviceId start)) (fun _ _ => True)
        (fun _ w' => w.1.tick ≤ w'.1.tick ∧
          sentEvents token w'.1 = sentEvents token w.1 ++ [queuedEvent session devices row])
        (fun _ _ => ∃ n, env.works n = false) w := by
      refine wp_send fun s' c hs => ⟨Nat.le_succ_of_le hs.tick, ?_⟩
      rw [← hs.sent]
      simp [sentEvents, sentEvent, frame, queuedEvent]
    refine Proc.wp.bind hhead fun _ w₁ h₁ => (wp_eachEvent rows w₁).mono (fun _ _ h => h) ?_ fun _ _ h => h
    rintro - w₂ ⟨htick, hsent⟩
    refine ⟨h₁.1.trans htick, ?_⟩
    rw [hsent, h₁.2, List.append_assoc, List.map_cons]
    rfl

/-- The announcements of other devices are no pairing events. -/
theorem wp_eachPending {deviceId : String} : ∀ (pending : List (DeviceBundle × Bytes)) (w : ServerWorld),
    (Proc.each (pushPendingDevice env token session) pending).wp
      (Interferes (Undisturbed env token deviceId start)) (fun _ _ => True)
      (fun _ w' => w.1.tick ≤ w'.1.tick ∧ sentEvents token w'.1 = sentEvents token w.1)
      (fun _ _ => ∃ n, env.works n = false) w
  | [], w => (Proc.wp_pure ()).2 ⟨Nat.le_refl _, rfl⟩
  | device :: pending, w => by
    have hhead : (pushPendingDevice env token session device).wp
        (Interferes (Undisturbed env token deviceId start)) (fun _ _ => True)
        (fun _ w' => w.1.tick ≤ w'.1.tick ∧ sentEvents token w'.1 = sentEvents token w.1)
        (fun _ _ => ∃ n, env.works n = false) w := by
      unfold pushPendingDevice
      rw [Proc.wp_ite]
      refine ⟨fun _ => (Proc.wp_pure ()).2 ⟨Nat.le_refl _, rfl⟩, fun _ => ?_⟩
      refine wp_send fun s' c hs => ⟨Nat.le_succ_of_le hs.tick, ?_⟩
      rw [← hs.sent]
      simp [sentEvents, sentEvent, frame]
    refine Proc.wp.bind hhead fun _ w₁ h₁ => (wp_eachPending pending w₁).mono (fun _ _ h => h) ?_ fun _ _ h => h
    rintro - w₂ ⟨htick, hsent⟩
    exact ⟨h₁.1.trans htick, hsent.trans h₁.2⟩

/-- What is sent are the first of the rows that wait when the clock is read. -/
theorem wp_pushPostAuth (w : ServerWorld) :
    (pushPostAuth env token session).wp (Interferes (Undisturbed env token session.deviceId w.1.tick))
      (fun _ _ => True)
      (fun _ w' => ∃ n devices, w.1.tick ≤ n ∧ n < w'.1.tick ∧
        sentEvents token w'.1 = sentEvents token w.1 ++
          (w.1.db.pendingPairingEvents session.deviceId (env.nowMs n)).map (queuedEvent session devices))
      (fun _ _ => ∃ n, env.works n = false) w := by
  have hpending : ∀ {db db' : Db} {now : Int},
      db'.waitingEvents session.deviceId now = db.waitingEvents session.deviceId now →
        db'.pendingPairingEvents session.deviceId now = db.pendingPairingEvents session.deviceId now := by
    intro db db' now h
    rw [Db.pendingPairingEvents_eq, h, ← Db.pendingPairingEvents_eq]
  unfold pushPostAuth
  rw [Proc.wp_bind]
  refine wp_query fun s₁ c₁ hs₁ => ?_
  rw [Proc.wp_bind]
  unfold nowMs learn
  rw [Proc.wp_atomically]
  rintro w₂ ⟨hs₂, -⟩
  refine ⟨trivial, fun now hnow => ?_, nofun⟩
  cases hnow
  rw [Proc.wp_bind]
  refine wp_query fun s₃ c₃ hs₃ => ?_
  have htick₁ := hs₁.tick
  have htick₂ := hs₂.tick
  have htick₃ := hs₃.tick
  dsimp only at htick₁ htick₂ htick₃
  have hfirst : w.1.tick ≤ w₂.1.tick := by omega
  have hrows : s₃.db.pendingPairingEvents session.deviceId (env.nowMs w₂.1.tick) =
      w.1.db.pendingPairingEvents session.deviceId (env.nowMs w₂.1.tick) :=
    hpending ((hs₃.waiting _ hfirst).trans ((hs₂.waiting _ hfirst).trans (hs₁.waiting _ hfirst)))
  have hsent : sentEvents token s₃ = sentEvents token w.1 := hs₃.sent.trans (hs₂.sent.trans hs₁.sent)
  refine Proc.wp.bind (wp_eachEvent _ _) fun _ w₄ h₄ => ?_
  obtain ⟨htick₄, hsent₄⟩ := h₄
  dsimp only at htick₄
  rw [Proc.wp_bind]
  refine wp_query fun s₅ c₅ hs₅ => ?_
  refine (wp_eachPending _ _).mono (fun _ _ h => h) ?_ fun _ _ h => h
  rintro - w₆ ⟨htick₆, hsent₆⟩
  have htick₅ := hs₅.tick
  dsimp only at htick₆
  refine ⟨w₂.1.tick, s₁.db.deviceBundles session.account.id true, hfirst, by omega, ?_⟩
  calc sentEvents token w₆.1
      = sentEvents token w₄.1 := hsent₆.trans hs₅.sent
    _ = sentEvents token s₃ ++ (s₃.db.pendingPairingEvents session.deviceId (env.nowMs w₂.1.tick)).map
          (queuedEvent session (s₁.db.deviceBundles session.account.id true)) := hsent₄
    _ = _ := by rw [hsent, hrows]

/-- What is sent is all that waits if and only if that is not more than the limit. -/
theorem delivers_pending_iff (db : Db) (now : Int) :
    Delivers (db.waitingEvents session.deviceId now)
        ((db.pendingPairingEvents session.deviceId now).map (queuedEvent session devices)) ↔
      (db.waitingEvents session.deviceId now).length ≤ 200 := by
  rw [Db.pendingPairingEvents_eq]
  refine delivers_take_iff ?_ fun row hrow => ?_
  · exact (db.pairingEvents.nodup.sublist (List.filter_sublist.map _))
  · obtain ⟨-, hkept⟩ := List.mem_filter.1 hrow
    rw [Bool.and_eq_true, decide_eq_true_eq] at hkept
    exact hkept.1

/-- Unless something fails, a device that nobody sends pairing events meanwhile is sent all that waited for it
when the clock was read, each once and with rising ids, if and only if not more than 200 waited. -/
theorem pushPostAuth_delivers_iff (env : ServerEnvironment) (token : Nat) (session : Session) (w : ServerWorld) :
    (pushPostAuth env token session).wp (Interferes (Undisturbed env token session.deviceId w.1.tick))
      (fun _ _ => True)
      (fun _ w' => ∃ n sent, w.1.tick ≤ n ∧ n < w'.1.tick ∧
        sentEvents token w'.1 = sentEvents token w.1 ++ sent ∧
        (Delivers (w.1.db.waitingEvents session.deviceId (env.nowMs n)) sent ↔
          (w.1.db.waitingEvents session.deviceId (env.nowMs n)).length ≤ 200))
      (fun _ _ => ∃ n, env.works n = false) w := by
  refine (wp_pushPostAuth w).mono (fun _ _ h => h) ?_ fun _ _ h => h
  rintro - w' ⟨n, devices, hfirst, hlast, hsent⟩
  exact ⟨n, _, hfirst, hlast, hsent, delivers_pending_iff _ _⟩

end Ws

namespace Scenario.PairingEvents

/-- One of the chunks of a history that a device was sent while it was away. -/
def chunk (id : Nat) : PairingEventRow :=
  { id
    pairingId := uuid 'b'
    senderDeviceId := uuid 'a'
    targetDeviceId := uuid 'b'
    eventType := "history"
    payload := [1]
    expiresAtMs := 24 * 60 * 60 * 1000 }

/-- Alice's second device has 201 chunks waiting. -/
def away : AppState :=
  { AppState.initial with
    db := { AppState.initial.db with
      pairingEvents :=
        { rows := (List.range 201).map chunk
          nodup := by simp [chunk, Function.comp_def, List.nodup_range] } } }

def session : Session :=
  { account :=
      { id := uuid '1'
        username := "alice"
        passwordPhc := password
        requirePasswordChange := false
        masterPublicKey := some (bytes32 1)
        rosterRevision := 1
        state := .active }
    deviceId := uuid 'b'
    pending := false
    passwordChangeRequired := false
    capabilities := [] }

/-- All within a millisecond. -/
def moment : ServerEnvironment := { server with nowMs := fun _ => 0 }

theorem waiting_chunks (n : Nat) : (away.db.waitingEvents session.deviceId (moment.nowMs n)).length = 201 := by
  have hall : away.db.waitingEvents session.deviceId (moment.nowMs n) = (List.range 201).map chunk := by
    refine List.filter_eq_self.2 fun row hrow => ?_
    obtain ⟨id, -, rfl⟩ := List.mem_map.1 hrow
    simp [chunk, session, moment]
  rw [hall, List.length_map, List.length_range]

/-- When the device authenticates, the last chunk stays. -/
theorem chunk_left_behind : ∃ w', (Ws.pushPostAuth moment 0 session).exec (away, .new 30) = (.ok (), w') ∧
    ¬∃ n sent, Ws.sentEvents 0 w'.1 = Ws.sentEvents 0 away ++ sent ∧
      Delivers (away.db.waitingEvents session.deviceId (moment.nowMs n)) sent := by
  have hrun := @Ws.wp_pushPostAuth session moment 0 (away, .new 30)
  have hrefl : Std.Refl (Ws.Undisturbed moment 0 session.deviceId away.tick) :=
    ⟨fun s => ⟨Nat.le_refl _, fun _ _ => rfl, rfl⟩⟩
  rcases hexec : (Ws.pushPostAuth moment 0 session).exec (away, .new 30) with ⟨e | u, w'⟩
  · obtain ⟨n, hfails⟩ := hrun.exec_error hexec
    cases hfails
  · obtain ⟨n₀, devices, -, -, hsent⟩ := hrun.exec_ok hexec
    refine ⟨w', rfl, ?_⟩
    rintro ⟨n, sent, heq, hdelivers⟩
    have hall : sent = (away.db.pendingPairingEvents session.deviceId (moment.nowMs n₀)).map
        (Ws.queuedEvent session devices) := List.append_cancel_left (heq.symm.trans hsent)
    have hfits := (Ws.delivers_pending_iff away.db (moment.nowMs n)).1 (hall ▸ hdelivers)
    rw [waiting_chunks] at hfits
    omega

end Scenario.PairingEvents

end TuiChat
