import TuiChat.Client.World

/-!
# Contacts, notifications and lookups

The methods of `LocalStore` that are more than one statement, and the methods of `App` that keep the
contact list, the notification list and the bundle cache.
-/

namespace TuiChat

open Lib

variable {P : Primitives} (env : Environment)

/-! ## Contacts -/

/-- The row that `upsert_contact` writes, given the row it found under the user name. -/
def upsertRow (old : Option ContactRow) (bundle : UserBundle) : ContactRow :=
  let identityChanged := old.any fun old => old.bundle.accountMasterKey ≠ bundle.accountMasterKey
  { bundle, verified := (old.any fun old => old.verified) && !identityChanged, identityChanged }

/-- Record that the account of a bundle was given the bundle's key. -/
def keyWritten (s : Store P) (bundle : UserBundle) : Event :=
  .keyWritten bundle.accountId bundle.accountMasterKey
    (s.keyOf bundle.accountId ≠ some bundle.accountMasterKey) (s.holdsInbound bundle.accountId)

def upsertContact (bundle : UserBundle) : ClientM P Contact := do
  let old ← query env fun s => s.rowByUsername bundle.username
  executeRecording env (fun w => w.store.putContact (upsertRow old bundle))
    fun w => [keyWritten w.store bundle]
  let contact ← query env fun s => s.contactByUsername bundle.username
  Prog.orFail contact "contact disappeared after upsert"

/-- `self.contacts = self.store.contacts()`. -/
def loadContacts : ClientM P Unit := do
  attempt env "database error"
  Prog.modify fun w =>
    let contacts := w.store.contactList
    { w with
      app := { w.app with contacts }
      log := .contactsLoaded (.unmapped
        (accountAt contacts w.app.selected = accountAt w.app.contacts w.app.selected)) :: w.log }

/-- The same, before `self.selected` becomes the position of an account. -/
def loadContactsSelecting (account : Option String) : ClientM P Unit := do
  attempt env "database error"
  Prog.modify fun w =>
    let contacts := w.store.contactList
    { w with
      app := { w.app with contacts, selected := account.bind (positionOf contacts) }
      log := .contactsLoaded (.selecting account
        (account.all fun a => (positionOf contacts a).isSome)) :: w.log }

def refreshContactsPreserveSelection : ClientM P Unit := do
  let selectedAccount ← getApp fun app => app.selectedContact.map fun c => c.bundle.accountId
  loadContactsSelecting env selectedAccount

/-! ## Notifications -/

def App.selectedNotification (app : App P) : Option Notification :=
  app.notificationSelected.bind fun i => app.notifications[i]?

def notificationRequiresAction (state : NotificationState) : Bool :=
  state = .pending || state = .inProgress

def App.hasPendingChatRequest (app : App P) (accountId : String) : Bool :=
  app.notifications.any fun n =>
    n.kind = .chatRequest && n.actorAccountId = accountId && notificationRequiresAction n.state

def refreshNotifications : ClientM P Unit := do
  let selectedRequest ← getApp fun app => app.selectedNotification.map Notification.requestId
  let notifications ← query env Store.notificationList
  modifyApp fun app =>
    let position := selectedRequest.bind fun id => notifications.findIdx? fun n => n.requestId = id
    { app with
      notifications
      notificationSelected := position.or (if notifications.isEmpty then none else some 0) }

def notificationByRequestId (requestId : String) : ClientM P (Option Notification) :=
  query env fun s => s.notifications.find requestId

def saveNotification (n : Notification) : ClientM P Unit := do
  execute env fun s => s.saveNotification n
  refreshNotifications env

def savePairingNotification (r : PairingRequest) : ClientM P Unit := do
  let pendingDevice ← Prog.orFail r.pendingDevice "配对请求缺少设备公钥"
  let old ← notificationByRequestId env r.pairingId
  let now ← nowMs env
  let fresh ← newUuid env
  let accountId ← getApp fun app => app.profile.accountId
  saveNotification env
    { id := (old.map Notification.id).getD fresh
      kind := .pairing
      requestId := r.pairingId
      actorAccountId := accountId
      actorUsername := r.pendingDeviceName
      actorDeviceId := r.pendingDeviceId
      state := (old.map Notification.state).getD .pending
      read := (old.map Notification.read).getD false
      createdAtMs := (old.map Notification.createdAtMs).getD now
      updatedAtMs := now
      data := .pairing false r.pairingId r.pendingDeviceId r.pendingDeviceName r.sasPublicKey
        pendingDevice }

def savePendingPairingNotification (pairingId approverDeviceId approverDeviceName : String)
    (approverPublicKey : Bytes) : ClientM P Unit := do
  let old ← notificationByRequestId env pairingId
  let now ← nowMs env
  let fresh ← newUuid env
  let profile ← getApp App.profile
  let ownDevice := profile.identity.publicDevice P profile.machine.account
  saveNotification env
    { id := (old.map Notification.id).getD fresh
      kind := .pairing
      requestId := pairingId
      actorAccountId := profile.accountId
      actorUsername := approverDeviceName
      actorDeviceId := approverDeviceId
      state := .inProgress
      read := (old.map Notification.read).getD false
      createdAtMs := (old.map Notification.createdAtMs).getD now
      updatedAtMs := now
      data := .pairing true pairingId ownDevice.deviceId ownDevice.deviceName approverPublicKey
        ownDevice }

/-- A chat request with a peer, kept in the state of an older one of the same id. -/
def saveRequestNotification (outgoing : Bool) (requestId : String) (peer : UserBundle)
    (senderDeviceId : String) (initiallyRead : Bool) : ClientM P Unit := do
  let old ← notificationByRequestId env requestId
  let now ← nowMs env
  let fresh ← newUuid env
  saveNotification env
    { id := (old.map Notification.id).getD fresh
      kind := .chatRequest
      requestId
      actorAccountId := peer.accountId
      actorUsername := peer.username
      actorDeviceId := senderDeviceId
      state := (old.map Notification.state).getD .pending
      read := (old.map Notification.read).getD initiallyRead
      createdAtMs := (old.map Notification.createdAtMs).getD now
      updatedAtMs := now
      data := .chatRequest outgoing requestId peer.accountId peer.username senderDeviceId peer }

def saveChatRequestNotification (requestId : String) (sender : UserBundle)
    (senderDeviceId : String) : ClientM P Unit :=
  saveRequestNotification env false requestId sender senderDeviceId false

def saveOutgoingChatRequestNotification (requestId : String) (recipient : UserBundle)
    (senderDeviceId : String) (initiallyRead : Bool) : ClientM P Unit :=
  saveRequestNotification env true requestId recipient senderDeviceId initiallyRead

def saveChatResponseNotification (original : Notification) (accepted read : Bool) :
    ClientM P Unit := do
  let now ← nowMs env
  saveNotification env
    { original with
      kind := .chatResponse
      state := if accepted then .accepted else .rejected
      read
      updatedAtMs := now
      data := .chatResponse original.requestId accepted }

def markNotificationState (id : String) (state : NotificationState) (read : Bool) :
    ClientM P Unit := do
  let now ← nowMs env
  execute env fun s => some (s.updateNotificationState id state read now)
  refreshNotifications env

def markNotificationRead (id : String) : ClientM P Unit := do
  let now ← nowMs env
  execute env fun s => some (s.markNotificationRead id now)

/-- `now` and the drawn id are those of the call. -/
def syntheticChatRequestNotification (id requestId : String) (peer : UserBundle)
    (senderDeviceId : String) (outgoing : Bool) (createdAtMs : Int) : Notification :=
  { id
    kind := .chatRequest
    requestId
    actorAccountId := peer.accountId
    actorUsername := peer.username
    actorDeviceId := senderDeviceId
    state := .pending
    read := false
    createdAtMs
    updatedAtMs := createdAtMs
    data := .chatRequest outgoing requestId peer.accountId peer.username senderDeviceId peer }

def chatDecisionState (decision : String) : Except Error NotificationState :=
  if decision = "accepted" then .ok .accepted
  else if decision = "rejected" then .ok .rejected
  else .error "未知的会话请求处理结果"

def chatResponseActorMatches (senderIsSelf : Bool)
    (notificationActorAccountId payloadPeerAccountId senderAccountId : String) : Bool :=
  if senderIsSelf then notificationActorAccountId = payloadPeerAccountId
  else notificationActorAccountId = senderAccountId

/-! ## The user directory -/

def cacheBundle (bundle : UserBundle) : ClientM P Unit := do
  let now ← instantNow env
  modifyApp fun app => { app with
    bundleCache := app.bundleCache.put { username := bundle.username, bundle, fetchedAt := now } }

def lookupBundleFresh (username : String) : ClientM P UserBundle := do
  let response ← request env (.lookupUser { exactUsername := username })
  let bundle ← Prog.orFail (response.bind Body.asUserBundle) "服务器返回了错误的用户目录响应"
  cacheBundle env bundle
  pure bundle

/-- A bundle fetched less than sixty seconds ago, or a fresh one. -/
def lookupBundle (username : String) : ClientM P UserBundle := do
  let cached ← getApp fun app => app.bundleCache.find username
  match cached with
  | none => lookupBundleFresh env username
  | some entry =>
    let now ← instantNow env
    if now - entry.fetchedAt < 60000 then pure entry.bundle else lookupBundleFresh env username

end TuiChat
