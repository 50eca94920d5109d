import Roosty.Job.Queue
import Roosty.Job.QueueProperties
import Roosty.Library.Text
import Roosty.Poll.Tables
import Roosty.Library.Result
import Roosty.Poll.TallyProperties
import Roosty.Library.Base64
import Roosty.Library.StructuredField
import Roosty.Federation.Http
import Roosty.Federation.Signature
import Roosty.Federation.SignatureProperties
import Roosty.Federation.SignatureCoverage
import Roosty.Library.CanonicalJson
import Roosty.Federation.Replay
import Roosty.Federation.ReplayProperties
import Roosty.Federation.Inbox
import Roosty.Federation.InboxProperties
import Roosty.Federation.InboundNote
import Roosty.Library.Register
import Roosty.Federation.RemoteStatus
import Roosty.Poll.RemoteProperties
import Roosty.Federation.RemoteStatusProperties
import Roosty.Federation.DeletionProperties
import Roosty.Federation.Interaction
import Roosty.Federation.ConsentProperties
import Roosty.Federation.AdmissionProperties
import Roosty.Federation.AudienceProperties
import Roosty.Account.Relationship
import Roosty.Account.RelationshipProperties
import Roosty.Auth.AuthorizationCode
import Roosty.Auth.AuthorizationCodeProperties
import Roosty.Streaming.Events
import Roosty.Streaming.EventsProperties
import Roosty.Status.Idempotency
import Roosty.Status.IdempotencyProperties
import Roosty.Poll.Updates
import Roosty.Poll.UpdatesProperties
import Roosty.Account.Move
import Roosty.Account.MoveProperties
import Roosty.Network.Address
import Roosty.Network.AddressProperties
import Roosty.Federation.Discovery
import Roosty.Federation.DiscoveryKeyProperties
import Roosty.Federation.RemoteActor
import Roosty.Federation.EndpointProperties
import Roosty.Federation.HandleProperties
import Roosty.Federation.Integrity
import Roosty.Federation.IntegrityProperties
import Roosty.Timeline.Thread
import Roosty.Timeline.ThreadProperties
import Roosty.Library.Paging
import Roosty.Timeline.Account
import Roosty.Timeline.AccountProperties
import Roosty.Content.Html
import Roosty.Content.HtmlProperties
import Roosty.Content.ExtractionProperties
import Roosty.Timeline.Home
import Roosty.Timeline.HomeProperties
import Roosty.Library.TextMatch
import Roosty.Federation.DomainBlock
import Roosty.Federation.DomainBlockProperties
import Roosty.Library.Uuid
import Roosty.Federation.Delivery
import Roosty.Federation.DeliveryProperties
import Roosty.Account.Suspension
import Roosty.Account.SuspensionProperties
import Roosty.Notification.Requests
import Roosty.Notification.RequestsProperties
import Roosty.Federation.ActorKeys
import Roosty.Library.Base58
import Roosty.Federation.ActorKeysProperties
import Roosty.Library.Reference
import Roosty.Account.ListMembers
import Roosty.Account.ListMembersProperties
import Roosty.Library.Locking
import Roosty.Status.Media
import Roosty.Status.MediaProperties
import Roosty.Status.Posting
import Roosty.Status.Scheduling
import Roosty.Library.Trim
import Roosty.Library.UuidText
import Roosty.Status.Editing
import Roosty.Status.PostingProperties
import Roosty.Status.SchedulingProperties
import Roosty.Status.EditingProperties
import Roosty.Auth.Access
import Roosty.Library.Words
import Roosty.Auth.GrantProperties
import Roosty.Auth.SuspendedAccess
import Roosty.Status.Scopes
import Roosty.Status.ScopesProperties
import Roosty.Network.ClientAddress
import Roosty.Network.ClientAddressProperties
import Roosty.Library.WebUrl
import Roosty.Library.WebUrlProperties
import Roosty.Auth.Redirect
import Roosty.Auth.RedirectProperties
import Roosty.Registration.RateLimit
import Roosty.Library.RollingWindow
import Roosty.Registration.RateLimitProperties
import Roosty.Library.PagingMerge
import Roosty.Timeline.HomePaging
import Roosty.Timeline.Tag
import Roosty.Timeline.BackwardPaging
import Roosty.Library.Octets
import Roosty.Library.Base64Url
import Roosty.WebPush.Crypto
import Roosty.WebPush.Receiver
import Roosty.WebPush.CryptoProperties
import Roosty.Poll.Effects
import Roosty.Poll.RefreshProperties
import Roosty.Poll.ExpiryProperties
import Roosty.Library.PagingLoss
import Roosty.Timeline.Collections
import Roosty.Timeline.CollectionsProperties
import Roosty.Account.FollowCollection
import Roosty.Account.FollowCollectionProperties
import Roosty.Library.Links
import Roosty.Library.FormQuery
import Roosty.Federation.Collections
import Roosty.Federation.CollectionsProperties
import Roosty.Library.Keyset
import Roosty.Federation.Outbox
import Roosty.Federation.OutboxPages
import Roosty.Federation.OutboxProperties
import Roosty.Library.Grouping
import Roosty.Notification.Groups
import Roosty.Notification.GroupsProperties
import Roosty.Library.Windows
import Roosty.Admin.Accounts
import Roosty.Admin.AccountsProperties
import Roosty.Federation.EditHistory
import Roosty.Federation.EditHistoryProperties
import Roosty.Library.Pieces
import Roosty.Job.Diagnostics
import Roosty.Job.DiagnosticsProperties
import Roosty.Timeline.Markers
import Roosty.Timeline.MarkersProperties
import Roosty.Status.ScheduleLimits
import Roosty.Library.Loop
import Roosty.Federation.ReplyCollection
import Roosty.Poll.CountProperties
import Roosty.Timeline.Quotes
import Roosty.Timeline.QuotesProperties
import Roosty.Federation.NoteContent
import Roosty.Federation.NoteContentProperties
import Roosty.Content.MentionPlaces
import Roosty.Status.QuoteMentions
import Roosty.Federation.KeyMaintenance
import Roosty.Content.Spans
import Roosty.Library.JsonReading
import Roosty.Federation.UniqueJson
import Roosty.Moderation.RulesProperties
import Roosty.Moderation.Reports
import Roosty.Preview.HostLeaseProperties
import Roosty.Timeline.Pins
