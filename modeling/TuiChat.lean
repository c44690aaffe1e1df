import TuiChat.Verify.Contacts
import TuiChat.Client.Editor
import TuiChat.Crypto.Sessions
import TuiChat.Lib.Refill
import TuiChat.Lib.Text
import TuiChat.Server.PasswordLimits
import TuiChat.Verify.Acceptance
import TuiChat.Verify.Admissibility
import TuiChat.Verify.Admission
import TuiChat.Verify.Answers
import TuiChat.Verify.Attribution
import TuiChat.Verify.Authentication
import TuiChat.Verify.Blobs
import TuiChat.Verify.Bootstrap
import TuiChat.Verify.Channels
import TuiChat.Verify.ChatRequests
import TuiChat.Verify.Clicks
import TuiChat.Verify.Collection
import TuiChat.Verify.Consistency
import TuiChat.Verify.Conversations
import TuiChat.Verify.Courier
import TuiChat.Verify.Deletions
import TuiChat.Verify.DeletionSync
import TuiChat.Verify.DeviceCap
import TuiChat.Verify.DeliveryUpdates
import TuiChat.Verify.Devices
import TuiChat.Verify.DisplayedStatuses
import TuiChat.Verify.Editor
import TuiChat.Verify.Handshake
import TuiChat.Verify.History
import TuiChat.Verify.Identifiers
import TuiChat.Verify.IdentityChange
import TuiChat.Verify.Imports
import TuiChat.Verify.Lifecycle
import TuiChat.Verify.Mailbox
import TuiChat.Verify.Outbox
import TuiChat.Verify.Pagination
import TuiChat.Verify.Pairing
import TuiChat.Verify.PairingEvents
import TuiChat.Verify.PairingRetries
import TuiChat.Verify.PasswordLimits
import TuiChat.Verify.Passwords
import TuiChat.Verify.Payloads
import TuiChat.Verify.PreKeys
import TuiChat.Verify.Profiles
import TuiChat.Verify.Pushes
import TuiChat.Verify.Quarantine
import TuiChat.Verify.Quota
import TuiChat.Verify.RateLimit
import TuiChat.Verify.Reconnect
import TuiChat.Verify.Registration
import TuiChat.Verify.Replies
import TuiChat.Verify.Resends
import TuiChat.Verify.Revocation
import TuiChat.Verify.SafetyCode
import TuiChat.Verify.Selection
import TuiChat.Verify.SessionTable
import TuiChat.Verify.Sessions
import TuiChat.Verify.SignedPreKeys
import TuiChat.Verify.Snapshot
import TuiChat.Verify.Statuses
import TuiChat.Verify.Summaries
import TuiChat.Verify.Tenants
import TuiChat.Verify.Terminal
import TuiChat.Verify.TokenBuckets
import TuiChat.Verify.Trust
import TuiChat.Verify.Vault
import TuiChat.Verify.WriteAhead
