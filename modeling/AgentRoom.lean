import AgentRoom.Projection.Backfill
import AgentRoom.Projection.Recovery
import AgentRoom.Projection.RecoveryRounds
import AgentRoom.Device.HonestRuns
import AgentRoom.Device.ProofNonces
import AgentRoom.Device.SigningMessages
import AgentRoom.Inbox.Selection
import AgentRoom.Inbox.Accounts
import AgentRoom.Agents.Instance
import AgentRoom.Device.FamilyRuns
import AgentRoom.Agents.Memberships
import AgentRoom.Bridge.Reconnect
import AgentRoom.Content.Integrity
import AgentRoom.Automation.Revocation
import AgentRoom.Automation.Denials
import AgentRoom.Federation.Replay
import AgentRoom.Presence.TrackerHistory
import AgentRoom.Presence.LeaseCap
import AgentRoom.Presence.ProjectionRuns
import AgentRoom.Presence.Fading
import AgentRoom.NetworkAgent.Dropped
import AgentRoom.NetworkAgent.RateExact
import AgentRoom.NetworkAgent.Gaps
import AgentRoom.Handoff.StoreRuns
import AgentRoom.Handoff.TargetedQueueRuns
import AgentRoom.Projection.NothingLost
import AgentRoom.Publication.StoresAgree
import AgentRoom.Publication.Granted
import AgentRoom.Reception.ReceiverStart
import AgentRoom.NetworkGateway.Edits
import AgentRoom.PrivateRoom.AgentsFollowRuns
import AgentRoom.Moderation.Shards
import AgentRoom.Moderation.Fencing
import AgentRoom.Moderation.ActionLife
import AgentRoom.RoomAccess.Attempts
import AgentRoom.RoomAccess.HourlyLimit
import AgentRoom.RoomAccess.Knocks
import AgentRoom.RoomAccess.Codes
import AgentRoom.Account.SessionLifetime
import AgentRoom.Lobby.Choosing
import AgentRoom.Lobby.TakeOver
import AgentRoom.Listing.OwnersLimitRuns
import AgentRoom.Listing.TimesInStep
import AgentRoom.PrivateRoom.Membership
