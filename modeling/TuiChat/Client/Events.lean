import TuiChat.Client.Sync
import TuiChat.Client.Pairing
import TuiChat.Lib.Trans

/-!
# The client as a system

`handle_server_event`, the timers and the reconnection, and `Action`: everything that changes the
state of a running client, a frame from the server, an action of the user, a timer, a new connection
or a restart. `clientSystem` takes actions in any order; a failing action keeps what it did before it
failed, as the event loop does.
-/

namespace TuiChat

open Lib

variable {P : Primitives} (env : Environment)

/-! ## Server events -/

def completeOutbox (logicalId : String) : ClientM P Unit := do
  execute env fun s => some (s.removeOutbox logicalId)
  execute env fun s => some (s.markConversationDeletionSynced logicalId)
  executeRecording env (fun w => some (w.store.updateStatus logicalId .sent))
    fun _ => [.raised logicalId .accepted]
  modifyApp fun app => { app with
    messages := modifyFirst (fun m => m.id = logicalId)
      (fun m => if m.status.rank < MessageStatus.sent.rank then { m with status := .sent } else m)
      app.messages }

def handleSendAccepted (accepted : SendAccepted) : ClientM P Unit := do
  let id := accepted.logicalMessageId
  modifyApp fun app => { app with
    blockedOutbox := app.blockedOutbox.filter fun blocked => blocked ≠ id
    outboxRetryAfter := app.outboxRetryAfter.delete fun entry => entry.1 = id }
  completeOutbox env id
  setStatus "消息已由服务端持久化"

def handleDeliveryUpdate (update : DeliveryUpdate) : ClientM P Unit := do
  markDelivered env update.logicalMessageId
  modifyApp fun app => { app with
    messages := modifyFirst (fun m => m.id = update.logicalMessageId)
      (fun m => if m.status.rank < MessageStatus.delivered.rank then { m with status := .delivered }
        else m) app.messages }

def handlePairingRequest (r : PairingRequest) : ClientM P Unit := do
  let ownDevice ← getApp fun app => app.profile.identity.deviceId
  if r.pendingDeviceId = ownDevice then pure ()
  else
    record (.requested r)
    savePairingNotification env r
    modifyApp fun app =>
      { app with pairingRequests := addPairingRequest app.pairingRequests r }

/-- An event is handled once for each of its ids; the id is marked after that. -/
def handleNumberedPairingEvent (event : PairingEvent) : ClientM P Unit :=
  if event.serverEventId = 0 then handlePairingEvent env event
  else do
    let processed ← query env fun s => decide (event.serverEventId ∈ s.processedPairingEvents)
    if processed then pure ()
    else
      handlePairingEvent env event
      executeRecording env (fun w => some (w.store.markPairingEventProcessed event.serverEventId))
        fun _ => [.handled event]
    notify env (.ackPairingEvent { serverEventId := event.serverEventId })

def handleError (pending : Option BackgroundRequest) (error : ErrorFrame) : ClientM P Unit := do
  if pending = some .sync then modifyApp fun app => { app with syncInFlight := false }
  match pending with
  | some (.outbox logicalId) =>
    if error.retryable then
      let now ← instantNow env
      modifyApp fun app => { app with
        outboxRetryAfter := app.outboxRetryAfter.put (logicalId, now + 30000) }
    else
      modifyApp fun app => { app with
        outboxRetryAfter := app.outboxRetryAfter.delete fun entry => entry.1 = logicalId
        blockedOutbox := logicalId :: app.blockedOutbox.filter fun blocked => blocked ≠ logicalId }
  | _ => pure ()
  if error.code = "connection_closed" then
    modifyApp fun app => { app with
      connected := false
      syncInFlight := false
      backgroundRequests := ∅
      backgroundDeadlines := ∅ }
  setStatus (error.code ++ ": " ++ error.message)

def handleSyncFrame (pending : Option BackgroundRequest) (batch : SyncBatch) : ClientM P Unit := do
  let awaited ← getApp fun app => app.backgroundRequests.rows.any fun r => r.2 = .sync
  if pending = some .sync ∨ awaited = false then
    modifyApp fun app => { app with syncInFlight := false }
  handleSyncBatch env batch

/-- The background request a frame answers is no longer waited for. -/
def takePending (id : String) : ClientM P (Option BackgroundRequest) :=
  if id = "" then pure none
  else do
    let pending ← getApp fun app => (app.backgroundRequests.find id).map Prod.snd
    modifyApp fun app => { app with
      backgroundRequests := app.backgroundRequests.delete fun r => r.1 = id
      backgroundDeadlines := app.backgroundDeadlines.delete fun r => r.1 = id }
    pure pending

def handleServerEvent (f : Frame) : ClientM P Unit := do
  let pending ← takePending f.id
  match f.body with
  | some (.syncBatch batch) => handleSyncFrame env pending batch
  | some (.sendAccepted accepted) => handleSendAccepted env accepted
  | some (.ownDeviceList _) => setStatus "设备列表已刷新"
  | some (.userBundle bundle) =>
    if pending = some .reconcilePairing then
      cacheBundle env bundle
      reconcilePairingNotificationsFromBundle env bundle
    else pure ()
  | some (.deliveryUpdate update) => handleDeliveryUpdate env update
  | some (.pairingRequest r) => handlePairingRequest env r
  | some (.pairingEvent event) => handleNumberedPairingEvent env event
  | some (.error error) => handleError env pending error
  | _ => pure ()

/-! ## Timers and connections -/

/-- A background request whose deadline has passed. -/
def expireRequest (now : Nat) (request : String × BackgroundRequest) : ClientM P Unit := do
  modifyApp fun app => { app with
    backgroundRequests := app.backgroundRequests.delete fun r => r.1 = request.1
    backgroundDeadlines := app.backgroundDeadlines.delete fun r => r.1 = request.1 }
  match request.2 with
  | .sync => modifyApp fun app => { app with syncInFlight := false }
  | .outbox logicalId => modifyApp fun app => { app with
      outboxRetryAfter := app.outboxRetryAfter.put (logicalId, now + 30000) }
  | _ => pure ()

def expireBackgroundRequests : ClientM P Unit := do
  let now ← instantNow env
  let expired ← getApp fun app => app.backgroundRequests.rows.filter fun r =>
    (app.backgroundDeadlines.find r.1).any fun d => decide (d.2 ≤ now)
  Prog.each (expireRequest now) expired

def focusGained : ClientM P Unit := do
  let focused ← getApp App.terminalFocused
  modifyApp fun app => { app with terminalFocused := true }
  if focused then pure () else markSelectedRead env

def openNotificationTab : ClientM P Unit := do
  modifyApp fun app => { app with
    notificationSelected := app.notificationSelected.or
      (if app.notifications.isEmpty then none else some 0) }
  let unread ← getApp fun app => app.selectedNotification.filter fun n => !n.read
  match unread with
  | none => pure ()
  | some n =>
    markNotificationRead env n.id
    refreshNotifications env
  let reconciled ← Prog.succeeds (reconcilePairingNotifications env)
  if reconciled then pure () else setStatus "通知状态同步失败"

/-- `/retry`. -/
def retry : ClientM P Unit := do
  modifyApp fun app => { app with blockedOutbox := [], outboxRetryAfter := ∅ }
  resendOutbox env
  setStatus "已重新启用本地发件箱消息的发送"

/-- What follows every connection: the outbox, the pending deletions and a synchronisation. -/
def catchUp : ClientM P Unit := do
  resendOutbox env
  let _ ← Prog.succeeds (syncPendingConversationDeletions env)
  let _ ← Prog.succeeds (sync env)

def reconnected (capabilities : List String) : ClientM P Unit := do
  Prog.modify fun w => { w with sent := [] }
  modifyApp fun app => { app with
    profile := { app.profile with serverCapabilities := capabilities }
    connected := true
    postActivationSync := false }
  let profile ← getApp App.profile
  let _ ← Prog.succeeds (execute env fun s => some (s.saveProfile profile))
  setStatus "已重新连接，正在后台补拉离线消息"
  catchUp env

/-- The state `App::new` starts from. -/
def App.ofStore (s : Store P) : App P :=
  { profile := s.profile
    contacts := s.contactList
    selected := none
    messages := []
    editor := ""
    persistedDraft := ""
    historyExhausted := false
    notifications := s.notificationList
    notificationSelected := none
    status := "输入 /chat 用户名 开始私聊；/help 查看命令"
    connected := true
    terminalFocused := true
    pairingRequests := []
    pairing := none
    bundleCache := ∅
    postActivationSync := false
    backgroundRequests := ∅
    backgroundDeadlines := ∅
    blockedOutbox := []
    outboxRetryAfter := ∅
    syncInFlight := false }

/-- The pairing a pending device was in: the first pending-side notification that is in progress. -/
def restorePairingState : ClientM P Unit := do
  let pending ← getApp fun app => app.profile.pending
  let saved ← getApp fun app => app.notifications.findSome? fun n =>
    match n.data with
    | .pairing true pairingId _ _ sasPublicKey _ =>
      if n.state = .inProgress then some (pairingId, n.actorDeviceId, sasPublicKey) else none
    | _ => none
  match saved with
  | none => pure ()
  | some (pairingId, peerDeviceId, peerPublicKey) =>
    if pending then
      let stored ← getApp fun app => app.profile.pairingSecret
      let secret ← Prog.orFail stored "本地缺少待批准设备的配对密钥"
      Prog.ensure (peerPublicKey.length = 32) "已保存的配对公钥无效"
      let channel ← Prog.ofExcept (establish P secret peerPublicKey pairingId)
      setPairing (some
        { pairingId
          peerDeviceId
          pendingDevice := .default
          channel
          approver := false
          ourConfirmed := false
          peerConfirmed := false })
    else pure ()

def restorePairingRequests : ClientM P Unit :=
  modifyApp fun app => { app with
    pairingRequests := (app.notifications.filter fun n => notificationRequiresAction n.state).foldl
      (fun requests n => (n.data.pairingRequest.map (addPairingRequest requests)).getD requests)
      app.pairingRequests }

/-- The process starts anew on its store. -/
def restart : ClientM P Unit := do
  Prog.modify fun w => { w with
    app := .ofStore w.store
    sent := []
    log := .contactsLoaded (.selecting none true) :: .opened none :: w.log }
  restorePairingState
  restorePairingRequests
  catchUp env

/-! ## Actions -/

inductive Action
  | serverEvent (f : Frame)
  | renderNotificationDetail
  | openContact (username : String)
  | verifySelected
  | selectIndex (index : Nat)
  | selectRelative (direction : Int)
  | edit (text : String)
  | sendText (text : String)
  | loadOlderMessages
  | focusGained
  | focusLost
  | deleteConversation (accountId username : String)
  | deleteNotification (id title requestId : String)
  | revokeDevice (deviceId deviceName : String)
  | selectNotification (index : Nat)
  | openNotificationTab
  | activateSelectedNotification
  | activateNotificationPrimary
  | rejectSelectedChatRequest
  | dismissSelectedNotification
  | startPairing (requestedDevice : Option String)
  | confirmPairing
  | sync
  | retry
  | autosaveDraft
  | expireBackgroundRequests
  | resendOutbox
  | syncPendingConversationDeletions
  | reconcilePairingNotifications
  | ping
  | reconnected (capabilities : List String)
  | reconnectFailed
  | restart

def runAction : Action → ClientM P Unit
  | .serverEvent f => handleServerEvent env f
  | .renderNotificationDetail => renderNotificationDetail
  | .openContact username => openContact env username
  | .verifySelected => verifySelected env
  | .selectIndex index => selectIndex env index
  | .selectRelative direction => selectRelative env direction
  | .edit text => modifyApp fun app => { app with editor := text }
  | .sendText text => sendText env text
  | .loadOlderMessages => loadOlderMessages env
  | .focusGained => focusGained env
  | .focusLost => modifyApp fun app => { app with terminalFocused := false }
  | .deleteConversation accountId username => confirmDeleteConversation env accountId username
  | .deleteNotification id title requestId => confirmDeleteNotification env id title requestId
  | .revokeDevice deviceId deviceName => confirmRevokeDevice env deviceId deviceName
  | .selectNotification index => selectNotification env index
  | .openNotificationTab => openNotificationTab env
  | .activateSelectedNotification => activateSelectedNotification env
  | .activateNotificationPrimary => activateNotificationPrimary env
  | .rejectSelectedChatRequest => rejectSelectedChatRequest env
  | .dismissSelectedNotification => dismissSelectedNotification env
  | .startPairing requestedDevice => startPairing env requestedDevice
  | .confirmPairing => confirmPairing env
  | .sync => sync env
  | .retry => retry env
  | .autosaveDraft => autosaveDraft env
  | .expireBackgroundRequests => expireBackgroundRequests env
  | .resendOutbox => resendOutbox env
  | .syncPendingConversationDeletions => syncPendingConversationDeletions env
  | .reconcilePairingNotifications => reconcilePairingNotifications env
  | .ping => do notify env (.ping { sentAtMs := ← nowMs env })
  | .reconnected capabilities => reconnected env capabilities
  | .reconnectFailed => modifyApp fun app => { app with connected := false }
  | .restart => restart env

/-- The state an action leaves, whether it failed or not. -/
def World.after (w : World P) (action : Action) : World P := ((runAction env action).exec w).2

/-- The state after several actions. -/
def World.afterAll (w : World P) (actions : List Action) : World P :=
  actions.foldl (fun w action => w.after env action) w

/-! ## The system -/

/-- A client that has authenticated and has stored nothing but its profile. -/
def Store.ofProfile (profile : RuntimeProfile P) : Store P :=
  { profile
    contacts := ∅
    messages := ∅
    outbox := ∅
    envelopeCursor := 0
    statusCursor := 0
    drafts := ∅
    summaries := ∅
    processedPairingEvents := []
    notifications := ∅
    tombstones := ∅ }

def World.ofProfile (profile : RuntimeProfile P) : World P :=
  { app := .ofStore (.ofProfile profile)
    store := .ofProfile profile
    sent := []
    tick := 0
    log := [] }

/-- The runs of a client, from its first start, under one environment. -/
def clientSystem (profile : RuntimeProfile P) : System (World P) Action :=
  System.ofFun (fun w => w = .ofProfile profile) fun w action => some (w.after env action)

theorem reachable_afterAll {env : Environment} {profile : RuntimeProfile P} :
    ∀ (actions : List Action) {w : World P}, (clientSystem env profile).Reachable w →
      (clientSystem env profile).Reachable (w.afterAll env actions)
  | [], _, hw => hw
  | _ :: actions, _, hw => reachable_afterAll actions (.step hw trivial rfl)

/-- The actions of a first start lead to a reachable state. -/
theorem reachable_ofProfile (env : Environment) (profile : RuntimeProfile P) (actions : List Action) :
    (clientSystem env profile).Reachable ((World.ofProfile profile).afterAll env actions) :=
  reachable_afterAll actions (.init rfl)

end TuiChat
