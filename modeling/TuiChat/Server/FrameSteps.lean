import TuiChat.Server.Steps
import TuiChat.Server.Tables

/-!
# The handlers, as steps

Every action of a connection's task and of a command is a `ServerStep`, whatever the others do
between its actions: one rule for each effect, one lemma for each handler, and from them
`serve_serves` and `runCommand_serves`.
-/

namespace TuiChat

open Lib
open Lib.Proc (wp)

theorem Except.map_eq_ok {ε α β : Type} {x : Except ε α} {f : α → β} {b : β} :
    x.map f = .ok b ↔ ∃ a, x = .ok a ∧ f a = b := by
  cases x with
  | error e => exact ⟨fun h => (nomatch h), fun ⟨_, h, _⟩ => (nomatch h)⟩
  | ok a => exact ⟨fun h => ⟨a, rfl, Except.ok.inj h⟩, fun ⟨_, h, hb⟩ => by cases h; exact congrArg _ hb⟩

theorem Db.none_of_bootstrapMaster {db db' : Db} {accountId : String} {master : Bytes}
    (h : db.bootstrapMaster accountId master = .ok db') :
    (db.accounts.find accountId).bind AccountRow.masterPublicKey = none := by
  unfold Db.bootstrapMaster at h
  split at h
  · next hany =>
    cases hrow : db.accounts.find accountId with
    | none => rfl
    | some row => simpa [hrow] using hany
  · cases h

/-- The device that was activated is there. -/
theorem Db.mem_of_activateDevice {db db' : Db} {accountId deviceId : String} {revision : Nat}
    {certificate : Bytes} (h : db.activateDevice accountId deviceId revision certificate = .ok db') :
    ∃ row ∈ db'.devices, row.pending = false ∧ row.id = deviceId := by
  unfold Db.activateDevice at h
  split at h
  · cases h
  split at h
  · cases h
  split at h
  · cases h
  · next hpending =>
    cases h
    cases hrow : db.device accountId deviceId with
    | none => simp [hrow] at hpending
    | some row =>
      obtain ⟨hfind, haccount⟩ := Option.filter_eq_some_iff.1 hrow
      rw [decide_eq_true_eq] at haccount
      have hwaits : row.pending = true := by simpa [hrow] using hpending
      have hid : row.id = deviceId := Table.key_of_find hfind
      refine ⟨_, (Table.mem_update ?_).2 ⟨row, Table.mem_of_find hfind, rfl⟩, ?_⟩
      · exact fun _ => rfl
      · simp [haccount, hwaits, hid]

namespace Ws

variable {env : ServerEnvironment} {P : Primitives} {i : Nat} {α β : Type} {s : AppState}
  {c : Connection}

/-! ## Effects -/

theorem keeps_learn {r : Nat → Except Error α} :
    Keeps env P i (learn fun n w => (r n, w)) c s fun a _ => ∃ n, r n = .ok a :=
  keeps_action fun s' _ => ⟨.learned, rfl, fun _ ha => ⟨s'.tick, ha⟩⟩

theorem keeps_nowMs : Keeps env P i (nowMs env) c s fun _ _ => True :=
  keeps_learn.mono fun _ _ _ => trivial

theorem keeps_getState {f : AppState → α} : Keeps env P i (getState f) c s fun a s' => a = f s' :=
  keeps_action fun _ _ => ⟨.stayed, rfl, fun _ ha => (Except.ok.inj ha).symm⟩

theorem keeps_getConnection {f : Connection → α} :
    Keeps env P i (getConnection f) c s fun a _ => a = f c :=
  keeps_action fun _ _ => ⟨.stayed, rfl, fun _ ha => (Except.ok.inj ha).symm⟩

theorem keeps_query {f : Db → α} :
    Keeps env P i (query env f) c s fun a s' => ∃ db, s'.Had db ∧ a = f db :=
  keeps_action fun s' _ => by
    cases hw : env.works s'.tick with
    | false =>
      simp only [hw]
      exact ⟨.learned, rfl, fun _ ha => nomatch ha⟩
    | true =>
      simp only [hw]
      exact ⟨.learned, rfl, fun a ha => ⟨s'.db, .inl rfl, (Except.ok.inj ha).symm⟩⟩

/-- A query of an account; the connection's log has what it gave. -/
theorem serves_accountByUsername {username : String} {f : Option AccountRow → ServerM α}
    (h : ∀ row s', Serves env P i (f row) { c with log := .readAccount username row :: c.log } s') :
    Serves env P i (accountByUsername env username >>= f) c s := by
  rw [Serves, Proc.wp_bind]
  refine serves_action fun s' _ => ?_
  cases hw : env.works s'.tick with
  | false =>
    simp only [hw]
    exact ⟨.learned, fun _ ha => (nomatch ha), fun _ _ => trivial⟩
  | true =>
    simp only [hw]
    refine ⟨.readAccount username, fun a ha => ?_, fun _ _ => trivial⟩
    cases ha
    exact h _ _

theorem wp_device {accountId deviceId : String} {f : Option DeviceRow → ServerM α}
    {Q : α → ServerWorld → Prop} {E : Error → ServerWorld → Prop} (hE : ∀ e w, E e w)
    (h : ∀ row s', wp (Pool.Interferes (Evolves env P)) (ServerStep env P i) (f row) Q E
      (s', { c with log := .readDevice accountId deviceId row :: c.log })) :
    wp (Pool.Interferes (Evolves env P)) (ServerStep env P i) (device env accountId deviceId >>= f) Q E
      (s, c) := by
  rw [Proc.wp_bind]
  refine serves_action fun s' _ => ?_
  cases hw : env.works s'.tick with
  | false =>
    simp only [hw]
    exact ⟨.learned, fun _ ha => (nomatch ha), fun _ _ => hE _ _⟩
  | true =>
    simp only [hw]
    refine ⟨.readDevice accountId deviceId, fun a ha => ?_, fun _ _ => hE _ _⟩
    cases ha
    exact h _ _

theorem serves_device {accountId deviceId : String} {f : Option DeviceRow → ServerM α}
    (h : ∀ row s', Serves env P i (f row) { c with log := .readDevice accountId deviceId row :: c.log } s') :
    Serves env P i (device env accountId deviceId >>= f) c s := wp_device (fun _ _ => trivial) h

/-- A write; the others have moved the database it finds. -/
theorem wp_executeRecording {f : Nat → Db → Except Error (α × Db)}
    {serverEvents : Db → α × Db → List ServerEvent} {events : Db → List ConnectionEvent}
    {Q : α → ServerWorld → Prop} {E : Error → ServerWorld → Prop}
    (hE : ∀ e s', Evolves env P s s' → E e (s', c))
    (h : ∀ s', Evolves env P s s' → ∀ r, f s'.tick s'.db = .ok r →
      let w' : ServerWorld := ({ s' with
        db := r.2
        past := s'.db :: s'.past
        tick := s'.tick + 1
        log := serverEvents s'.db r ++ s'.log }, { c with log := events s'.db ++ c.log })
      ServerStep env P i (s', c) w' ∧ Q r.1 w') :
    wp (Pool.Interferes (Evolves env P)) (ServerStep env P i)
      (executeRecording env f serverEvents events) Q E (s, c) :=
  serves_action fun s' hs => by
    have htick : Evolves env P s { s' with tick := s'.tick + 1 } :=
      .trans hs (ServerStep.evolves (.learned : ServerStep env P i (s', c) _))
    cases hw : env.works s'.tick with
    | false =>
      simp only [hw]
      exact ⟨.learned, fun _ ha => (nomatch ha), fun _ _ => hE _ _ htick⟩
    | true =>
      simp only [hw]
      cases hf : f s'.tick s'.db with
      | error e =>
        simp only [hf]
        exact ⟨.learned, fun _ ha => (nomatch ha), fun _ _ => hE _ _ htick⟩
      | ok r =>
        simp only [hf]
        refine ⟨(h s' hs r hf).1, fun a ha => ?_, fun _ he => nomatch he⟩
        cases ha
        exact (h s' hs r hf).2

theorem keeps_execute {f : Db → Except Error (α × Db)}
    (h : ∀ s', Evolves env P s s' → ∀ r, f s'.db = .ok r →
      Writes env P s'.Had c s'.db r.2) :
    Keeps env P i (execute env f) c s fun a s' => ∃ db r, f db = .ok r ∧ a = r.1 ∧ s'.db = r.2 :=
  wp_executeRecording (fun _ _ hs => ⟨hs, rfl⟩) fun s' hs r hr => by
    have hstep : ServerStep env P i (s', c) ({ s' with
        db := r.2
        past := s'.db :: s'.past
        tick := s'.tick + 1 }, c) :=
      .wrote [] [] (h s' hs r hr) (fun _ h => (nomatch h)) (fun _ h => (nomatch h)) (.inl rfl)
    exact ⟨hstep, .trans hs hstep.evolves, rfl, s'.db, r, hr, rfl, rfl⟩

theorem keeps_update {f : Db → Db}
    (h : ∀ s', Evolves env P s s' → Writes env P s'.Had c s'.db (f s'.db)) :
    Keeps env P i (update env f) c s fun _ _ => True :=
  (keeps_execute fun s' hs r hr => by
    cases hr
    exact h s' hs).mono fun _ _ _ => trivial

theorem keeps_write {f : Db → Except Error Db}
    (h : ∀ s' db', Evolves env P s s' → f s'.db = .ok db' → Writes env P s'.Had c s'.db db') :
    Keeps env P i (write env f) c s fun _ s' => ∃ db, f db = .ok s'.db :=
  (keeps_execute fun s' hs r hr => by
    obtain ⟨db', hf, rfl⟩ := Except.map_eq_ok.1 hr
    exact h s' db' hs hf).mono fun _ s' ⟨db, r, hr, _, hs⟩ => by
    obtain ⟨db', hf, rfl⟩ := Except.map_eq_ok.1 hr
    exact ⟨db, hf.trans (congrArg Except.ok hs.symm)⟩

theorem keeps_audit {category actor action target result : String} :
    Keeps env P i (audit env category actor action target result) c s fun _ _ => True :=
  keeps_update fun _ _ => .audited _ _ _ _ _

theorem sends_answer {t : Nat} {id : String} {body : Body} (h : body.answers = true) :
    Sends i s c t (frame id body) := .answer fun _ hb => Option.some.inj hb ▸ h

theorem keeps_send {t : Nat} {f : Frame} (h : ∀ s', Evolves env P s s' → Sends i s' c t f) :
    Keeps env P i (send env t f) c s fun _ _ => True :=
  keeps_action fun s' hs => by
    cases hw : env.works s'.tick with
    | false =>
      simp only [hw]
      exact ⟨.learned, rfl, fun _ _ => trivial⟩
    | true =>
      simp only [hw]
      exact ⟨.sent t f (h s' hs), rfl, fun _ _ => trivial⟩

theorem keeps_trySend {t : Nat} {f : Frame} (h : ∀ s', Evolves env P s s' → Sends i s' c t f) :
    Keeps env P i (trySend env t f) c s fun _ _ => True :=
  .bind (keeps_caught (keeps_send h)) fun _ _ _ _ => keeps_pure trivial

theorem keeps_reply {id : String} {body : Body} (h : body.answers = true) :
    Keeps env P i (reply env i id body) c s fun _ _ => True :=
  keeps_send fun _ _ => sends_answer h

theorem keeps_sendError {id code message : String} {retryable : Bool} :
    Keeps env P i (sendError env i id code message retryable) c s fun _ _ => True :=
  keeps_trySend fun _ _ => sends_answer rfl

theorem keeps_pushDevice {deviceId : String} {f : Frame}
    (h : ∀ s' live, Evolves env P s s' → live ∈ s'.registered → live.deviceId = deviceId →
      Sends i s' c live.token f) :
    Keeps env P i (pushDevice env deviceId f) c s fun _ _ => True := by
  refine .bind keeps_getState fun live s' hs hlive => ?_
  cases live with
  | none => exact keeps_pure trivial
  | some live =>
    have hmem := s'.connected live (Table.mem_of_find hlive.symm)
    exact keeps_trySend fun s'' hs' =>
      h s'' live (.trans hs hs') (hs'.registered hmem) (Table.key_of_find hlive.symm)

theorem keeps_pushAccount {accountId : String} {f : Frame}
    (h : ∀ s' live, Evolves env P s s' → live ∈ s'.registered → live.accountId = accountId →
      Sends i s' c live.token f) :
    Keeps env P i (pushAccount env accountId f) c s fun _ _ => True := by
  refine .bind keeps_getState fun senders s' hs hsenders => ?_
  refine keeps_each (p := fun s'' => Evolves env P s' s'') (fun _ _ h h' => .trans h' h)
    (fun live hlive s₁ hs₁ => keeps_trySend fun s₂ hs₂ => ?_) .refl
  rw [hsenders, List.mem_filter, decide_eq_true_eq] at hlive
  exact h s₂ live (.trans hs (.trans hs₁ hs₂)) (Evolves.registered (.trans hs₁ hs₂) (s'.connected live hlive.1))
    hlive.2

/-! ## The directory of connections -/

theorem keeps_signal {t : Nat} {reason : String} :
    Keeps env P i (signal t reason) c s fun _ _ => True :=
  keeps_action fun _ _ => ⟨.directory _ _, rfl, fun _ _ => trivial⟩

theorem keeps_register {session : Session} (took : c.Took session.deviceId) :
    Keeps env P i (register session i) c s fun _ s' =>
      { deviceId := session.deviceId, token := i, accountId := session.account.id } ∈ s'.registered := by
  refine .bind (p := fun _ s' => _ ∈ s'.registered)
    (keeps_action fun s' _ => ⟨.registered _ rfl took, rfl, fun _ _ => List.mem_cons_self⟩)
    fun previous s₁ _ hmem => ?_
  have hsessions : ∀ s₂, Evolves env P s₁ s₂ → Keeps env P i (modifyState fun state => { state with
      sessions := state.sessions.put
        { id := i
          accountId := session.account.id
          username := session.account.username
          deviceId := session.deviceId
          pending := session.pending } }) c s₂ fun _ s' =>
        { deviceId := session.deviceId, token := i, accountId := session.account.id } ∈ s'.registered :=
    fun s₂ hs => keeps_action fun s₃ hs' =>
      ⟨.directory _ _, rfl, fun _ _ => hs'.registered (hs.registered hmem)⟩
  cases previous with
  | none => exact hsessions s₁ .refl
  | some previous => exact .bind keeps_signal fun _ s₂ hs _ => hsessions s₂ hs

theorem keeps_unregister {deviceId : String} {t : Nat} :
    Keeps env P i (unregister deviceId t) c s fun _ _ => True :=
  .bind (p := fun _ _ => True) (keeps_action fun _ _ => ⟨.unregistered _, rfl, fun _ _ => trivial⟩)
    fun _ _ _ _ => keeps_action fun _ _ => ⟨.directory _ _, rfl, fun _ _ => trivial⟩

theorem keeps_kickDevice {deviceId reason : String} :
    Keeps env P i (kickDevice deviceId reason) c s fun _ _ => True :=
  .bind keeps_getState fun live _ _ _ => by
    cases live with
    | none => exact keeps_pure trivial
    | some live => exact keeps_signal

/-! ## Sessions -/

theorem keeps_activeSession : Keeps env P i activeSession c s fun session _ =>
    c.session = some session ∧ session.pending = false :=
  .bind keeps_getConnection fun _ _ _ hslot => .bind keeps_orFail fun _ _ _ hsession =>
    .bind keeps_ensure fun _ _ _ hactive => keeps_pure ⟨hslot ▸ hsession, hactive⟩

theorem keeps_usableSession : Keeps env P i usableSession c s fun session _ =>
    c.session = some session ∧ session.pending = false := keeps_activeSession

theorem keeps_anySession {e : Error} : Keeps env P i (anySession e) c s fun session _ =>
    c.session = some session :=
  .bind keeps_getConnection fun _ _ _ hslot => keeps_orFail.mono fun _ _ h => hslot ▸ h

theorem keeps_ensureUnauthenticated :
    Keeps env P i ensureUnauthenticated c s fun _ _ => c.session = none :=
  .bind keeps_getConnection fun _ _ _ hslot => keeps_ensure.mono fun _ _ h => by
    rwa [hslot, Option.isNone_iff_eq_none] at h

/-- An action on the connection alone. -/
theorem serves_modifyConnection {f : Connection → Connection} {g : Unit → ServerM α}
    (hf : ∀ s', ServerStep env P i (s', c) (s', f c)) (hg : ∀ s', Serves env P i (g ()) (f c) s') :
    Serves env P i (modifyConnection f >>= g) c s := by
  rw [Serves, Proc.wp_bind]
  exact serves_action fun s' _ => ⟨hf s', fun _ _ => hg s', fun _ _ => trivial⟩

theorem serves_setConnection {f : Connection → Connection}
    (hf : ∀ s', ServerStep env P i (s', c) (s', f c)) : Serves env P i (modifyConnection f) c s :=
  serves_action fun s' _ => ⟨hf s', fun _ _ => trivial, fun _ _ => trivial⟩

/-- A valid challenge leaves the slot; it names the user and the device, and is not expired. -/
theorem serves_takeValidChallenge {username deviceId : String} {f : Challenge → ServerM α}
    (session : c.session = none)
    (h : ∀ challenge s' n, normalizeUsername username = .ok challenge.username →
      challenge.deviceId = deviceId → env.nowMs n ≤ challenge.expiresAtMs →
      Serves env P i (f challenge)
        { c with challenge := none, log := .readClock n :: .taken (some challenge) :: c.log } s') :
    Serves env P i (takeValidChallenge env username deviceId >>= f) c s := by
  unfold takeValidChallenge takeChallenge
  rw [Serves, Proc.wp_bind, Proc.wp_bind]
  refine serves_action fun s' _ => ⟨.taken session, fun a ha => ?_, fun _ _ => trivial⟩
  cases ha
  refine Keeps.wp_bind keeps_orFail (fun _ _ _ => trivial) fun challenge s₁ _ hslot => ?_
  refine Keeps.wp_bind keeps_ofExcept (fun _ _ _ => trivial) fun name s₂ _ hname => ?_
  rw [Proc.wp_bind]
  refine serves_action fun s₃ _ => ⟨.readClock, fun now hnow => ?_, fun _ _ => trivial⟩
  cases hnow
  refine Keeps.wp_bind keeps_ensure (fun _ _ _ => trivial) fun _ s₄ _ hvalid => ?_
  rw [hslot, Proc.wp_pure]
  exact h challenge s₄ s₃.tick (hname.trans (congrArg Except.ok hvalid.1.symm)) hvalid.2.1 hvalid.2.2

/-! ## Authentication -/

theorem keeps_sendAuthenticated {id : String} {session : Session} :
    Keeps env P i (sendAuthenticated env i id session) c s fun _ _ => True := keeps_reply rfl

theorem keeps_pushPostAuth {session : Session} {live : LiveConnection} (token : live.token = i)
    (device : live.deviceId = session.deviceId) (registered : live ∈ s.registered) :
    Keeps env P i (pushPostAuth env i session) c s fun _ _ => True := by
  refine .bind keeps_query fun devices s₁ hs₁ _ => .bind keeps_nowMs fun now s₂ hs₂ _ => ?_
  refine .bind keeps_query fun events s₃ hs₃ ⟨db, had, hevents⟩ => ?_
  have hlive : live ∈ s₃.registered := Evolves.registered (.trans hs₁ (.trans hs₂ hs₃)) registered
  have hqueued : ∀ row ∈ events, row ∈ db.pairingEvents ∧ row.targetDeviceId = session.deviceId := by
    intro row hrow
    rw [hevents] at hrow
    have hmem := List.mem_of_mem_take hrow
    rw [List.mem_insertionSort, List.mem_filter, Bool.and_eq_true, decide_eq_true_eq] at hmem
    exact ⟨hmem.1, hmem.2.1⟩
  refine .bind (keeps_each (p := fun s' => Evolves env P s₃ s') (fun _ _ h h' => .trans h' h)
    (fun row hrow s₄ hs₄ => keeps_send fun s₅ hs₅ => ?_) .refl) fun _ _ _ _ =>
      .bind keeps_query fun pending _ _ _ => ?_
  · have hs : Evolves env P s₃ s₅ := .trans hs₄ hs₅
    obtain ⟨hmem, htarget⟩ := hqueued row hrow
    have hsends := Sends.event (i := i) (c := c) live db row
      (((devices.find? fun d => d.deviceId = row.senderDeviceId).map DeviceBundle.deviceName).getD
        "未知设备") (had.evolves hs) hmem (htarget.trans device.symm) (hs.registered hlive)
    rw [token, htarget] at hsends
    exact hsends
  · refine keeps_each (p := fun _ => True) (fun _ _ _ _ => trivial) (fun d _ s' _ => ?_) trivial
    unfold pushPendingDevice
    split
    · exact keeps_pure trivial
    · exact keeps_reply rfl

theorem handleClientHello_serves {f : Frame} {m : ClientHello} (body : f.body = some (.clientHello m))
    (log : c.session = none → ∃ rest, c.log = .received f :: rest) :
    Serves env P i (handleClientHello env i f.id m) c s := by
  refine Keeps.then keeps_ensureUnauthenticated fun _ _ _ session => ?_
  obtain ⟨rest, hlog⟩ := log session
  refine Keeps.then keeps_ofExcept fun username _ _ hname => ?_
  refine Keeps.then keeps_ensure fun _ _ _ _ => Keeps.then keeps_ensure fun _ _ _ _ => ?_
  refine Keeps.then keeps_learn fun nonce _ _ _ => Keeps.then keeps_nowMs fun now _ _ _ => ?_
  exact serves_modifyConnection (fun _ => .challenged f m _ rest session hlog body hname rfl)
    fun _ => (keeps_reply rfl).serves

theorem handleDeviceAuth_serves {f : Frame} {m : DeviceAuth} (body : f.body = some (.deviceAuth m))
    (log : c.session = none → ∃ rest, c.log = .received f :: rest) :
    Serves env P i (handleDeviceAuth env P i f.id m) c s := by
  refine Keeps.then keeps_ensureUnauthenticated fun _ _ _ session => ?_
  obtain ⟨rest, hlog⟩ := log session
  refine serves_takeValidChallenge session fun challenge _ n hname hdevice hnow => ?_
  refine serves_accountByUsername fun account _ => ?_
  refine Keeps.then keeps_orFail fun account _ _ haccount => ?_
  subst haccount
  refine Keeps.then keeps_ensure fun _ _ _ hactive => ?_
  refine serves_device fun found _ => Keeps.then keeps_orFail fun found _ _ hfound => ?_
  subst hfound
  refine Keeps.then keeps_ensure fun _ _ _ hfoundActive => ?_
  refine Keeps.then keeps_ofExcept fun _ _ _ hsignature => ?_
  refine Keeps.then keeps_nowMs fun time _ _ _ => ?_
  refine Keeps.then (keeps_update fun _ _ => .authenticated _ _) fun _ _ _ _ => ?_
  have took : Connection.Took { c with
      challenge := none
      log := .readDevice account.id m.deviceId (some found) ::
        .readAccount challenge.username (some account) :: .readClock n :: .taken (some challenge) ::
        c.log }
      m.deviceId := ⟨challenge, by simp, hdevice⟩
  refine Keeps.then (keeps_register took) fun _ s₁ _ hregistered => ?_
  refine Keeps.then keeps_sendAuthenticated fun _ _ hs₂ _ => ?_
  refine Keeps.then (keeps_pushPostAuth rfl rfl (hs₂.registered hregistered)) fun _ _ _ _ => ?_
  refine Keeps.then (keeps_caught keeps_audit) fun _ _ _ _ => ?_
  exact serves_setConnection fun _ => .authenticated f m challenge account found n _ rest
    (by rw [hlog]) session body hname hdevice hnow hactive hfoundActive hsignature

theorem keeps_rehashPassword {account : AccountRow} {replacement : Option String} :
    Keeps env P i (rehashPassword env account replacement) c s fun account' _ =>
      ∃ phc, account' = { account with passwordPhc := phc } := by
  cases replacement with
  | none => exact keeps_pure ⟨account.passwordPhc, rfl⟩
  | some phc => exact .bind (keeps_update fun _ _ => .password _ _ _) fun _ _ _ _ => keeps_pure ⟨phc, rfl⟩

/-- What follows the verification of a password; `c'` is the connection that emptied its slot. -/
theorem openPendingSession_serves {f : Frame} {m : PasswordAuth} {challenge : Challenge}
    {row : AccountRow} {replacement : Option String} {n : Nat} {rest : List ConnectionEvent}
    (body : f.body = some (.passwordAuth m)) (session : c.session = none)
    (log : c.log = .readAccount challenge.username (some row) :: .readClock n :: .taken (some challenge) ::
      .received f :: rest)
    (device : challenge.deviceId = m.deviceId) (active : row.state = .active)
    (password : env.passwords.verify row.passwordPhc m.password = true) :
    Serves env P i (openPendingSession env i f.id challenge row replacement) c s := by
  refine Keeps.then keeps_rehashPassword fun account _ _ ⟨phc, haccount⟩ => ?_
  refine serves_device fun existing _ => Keeps.then keeps_ensure fun _ _ _ hexisting => ?_
  refine Keeps.then keeps_sendAuthenticated fun _ s₁ _ _ => ?_
  extract_lets jp
  have hjp : ∀ u s', Serves env P i (jp u)
      { c with log := .readDevice account.id challenge.deviceId existing :: c.log } s' := fun _ _ => by
    refine Keeps.then (keeps_caught keeps_audit) fun _ _ _ _ => ?_
    have hlog : ConnectionEvent.readDevice account.id challenge.deviceId existing :: c.log =
        .readDevice row.id challenge.deviceId existing :: .readAccount challenge.username (some row) ::
          .readClock n :: .taken (some challenge) :: .received f :: rest := by
      rw [log, haccount]
    have hpending : ∀ d, existing = some d → d.pending = true := fun d hd => by
      rw [hd, Option.all_some] at hexisting
      exact hexisting
    refine serves_setConnection fun _ => ?_
    rw [haccount] at hlog ⊢
    exact .passwordAccepted f m challenge row existing n phc challenge.capabilities rest hlog session body
      device active password hpending
  split
  · refine Keeps.then (keeps_register ?_) fun _ _ _ hregistered => ?_
    · refine ⟨challenge, ?_, rfl⟩
      simp [log]
    · exact Keeps.then (keeps_pushPostAuth rfl rfl hregistered) fun _ s' _ _ => hjp () s'
  · exact hjp () _

theorem handlePasswordAuth_serves {f : Frame} {m : PasswordAuth}
    (body : f.body = some (.passwordAuth m))
    (log : c.session = none → ∃ rest, c.log = .received f :: rest) :
    Serves env P i (handlePasswordAuth env i f.id m) c s := by
  refine Keeps.then keeps_ensureUnauthenticated fun _ _ _ session => ?_
  obtain ⟨rest, hlog⟩ := log session
  refine serves_takeValidChallenge session fun challenge _ n _ hdevice _ => ?_
  refine Keeps.then keeps_ensure fun _ _ _ _ => Keeps.then keeps_learn fun allowed _ _ _ => ?_
  refine Keeps.then keeps_ensure fun _ _ _ _ => serves_accountByUsername fun account _ => ?_
  extract_lets phc
  refine Keeps.then keeps_learn fun verified _ _ ⟨draw, hverified⟩ => ?_
  obtain ⟨valid, replacement⟩ := verified
  have hvalid : valid = env.passwords.verify phc m.password :=
    (congrArg Prod.fst (Except.ok.inj hverified)).symm
  cases hrow : account.filter fun row => valid && row.state = .active with
  | none =>
    simp only [hrow]
    exact Keeps.then (keeps_caught keeps_audit) fun _ _ _ _ => (Proc.wp_fail _).2 trivial
  | some row =>
    simp only [hrow]
    obtain ⟨haccount, hactive⟩ := Option.filter_eq_some_iff.1 hrow
    rw [Bool.and_eq_true, decide_eq_true_eq] at hactive
    subst haccount
    have hlog' : ConnectionEvent.readAccount challenge.username (some row) :: .readClock n ::
        .taken (some challenge) :: c.log = .readAccount challenge.username (some row) :: .readClock n ::
        .taken (some challenge) :: .received f :: rest := by
      rw [hlog]
    exact openPendingSession_serves body session hlog' hdevice hactive.2
      (hvalid.symm.trans hactive.1)

/-- The device that was inserted is there. -/
theorem device_of_insertDevice {db db' : Db} {accountId : String} {bundle : DeviceBundle}
    {sasPublic : Bytes} {pending : Bool} {now : Int}
    (h : db.insertDevice accountId bundle sasPublic pending now = .ok db') :
    db'.device accountId bundle.deviceId = some (.submitted accountId bundle sasPublic pending now) := by
  obtain ⟨_, hnone, rfl⟩ := Db.insertDevice_eq_ok.1 h
  have hfind := Table.find_insertOrIgnore_of_none
    (a := DeviceRow.submitted accountId bundle sasPublic pending now) hnone
  exact Option.filter_eq_some_iff.2 ⟨hfind, decide_eq_true rfl⟩

/-- The first device of an account. -/
theorem bootstrapFirst_serves {id : String} {session : Session} {m : BootstrapDevice}
    (current : c.session = some session) (pending : session.pending = true)
    (keyless : session.account.masterPublicKey = none)
    (received : c.Received id (.bootstrapDevice m)) (handling : c.handling = some (.bootstrapDevice m))
    (took : c.Took session.deviceId) (device : m.deviceId = session.deviceId) :
    Serves env P i (bootstrapFirst env P i id session m) c s := by
  refine Keeps.then keeps_ofExcept fun _ s₁ _ hcertificate => ?_
  rw [Serves, Proc.wp_bind]
  refine wp_executeRecording (fun _ _ _ => trivial) fun s₂ _ r hr => ?_
  obtain ⟨db', hb, rfl⟩ := Except.map_eq_ok.1 hr
  -- The key is claimed where there was none.
  have hnone := Db.none_of_bootstrapMaster hb
  refine ⟨.wrote [] _ (.claimed session m current pending hcertificate hb) (fun _ h => nomatch h)
    (fun _ h => nomatch h) (.inr ⟨session, m.accountMasterKey, current, rfl⟩), ?_⟩
  rw [hnone]
  have received' : Connection.Received { c with
      log := [.masterClaimed session.account.id m.accountMasterKey none] ++ c.log } id
      (.bootstrapDevice m) := received.imp fun f h => ⟨List.mem_cons_of_mem _ h.1, h.2⟩
  refine Keeps.then keeps_nowMs fun now _ _ _ => ?_
  refine Keeps.then (keeps_write fun _ _ _ h =>
    .inserted session m false now current pending device hcertificate ⟨keyless, rfl⟩ h)
    fun _ s₄ _ ⟨db, hinsert⟩ => ?_
  have hdevice : (s₄.db.device session.account.id session.deviceId).isSome := by
    have hrow := device_of_insertDevice hinsert
    rw [show (BootstrapDevice.bundle m).deviceId = session.deviceId from device] at hrow
    rw [hrow]
    rfl
  refine Keeps.then keeps_nowMs fun now s₅ hs₅ _ => ?_
  refine Keeps.then (keeps_write fun _ _ _ h =>
    .prekeys session m.oneTimeKeys now current h (.bootstrapped m handling)) fun _ s₆ hs₆ _ => ?_
  rw [Serves, Proc.wp_bind]
  refine serves_action fun s₇ hs₇ => ?_
  have had : s₇.Had s₄.db := AppState.Had.evolves (.inl rfl) (.trans hs₅ (.trans hs₆ hs₇))
  refine ⟨.bootstrapped session m id c.log current pending received' device rfl ⟨s₄.db, had, hdevice⟩
    hcertificate, fun _ _ => ?_, fun _ _ => trivial⟩
  refine Keeps.then (keeps_register ?_) fun _ _ _ _ => keeps_sendAuthenticated.serves
  exact took.imp fun challenge h => ⟨List.mem_cons_of_mem _ h.1, h.2⟩

end Ws

end TuiChat
