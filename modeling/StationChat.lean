import StationChat.Lib.Action
import StationChat.Lib.Changes
import StationChat.Lib.Composed
import StationChat.Lib.Contract
import StationChat.Lib.Distinct
import StationChat.Lib.Encoder
import StationChat.Lib.Isolation
import StationChat.Lib.Ledger
import StationChat.Lib.Like
import StationChat.Lib.Numbering
import StationChat.Lib.Replica
import StationChat.Lib.Search
import StationChat.Lib.Since
import StationChat.Lib.Simulation
import StationChat.Lib.Wire
import StationChat.Model.Text
import StationChat.Model.ChatEnums
import StationChat.Model.Database
import StationChat.Model.DatabaseMariaDb
import StationChat.Model.DatabaseBootstrap
import StationChat.Model.ChatAvatar
import StationChat.Model.ChatRoom
import StationChat.Model.PolicyEngine
import StationChat.Model.Messages
import StationChat.Model.Server
import StationChat.Model.ChatAvatarService
import StationChat.Model.ChatRoomService
import StationChat.Model.ChatRoomRoles
import StationChat.Model.PersistentMessageService
import StationChat.Model.GatewayClient
import StationChat.Model.StreamUtils
import StationChat.Protocol.Requests
import StationChat.Protocol.Handlers
import StationChat.Protocol.Gateway
import StationChat.Protocol.Decoding
import StationChat.Protocol.Responses
import StationChat.Protocol.Telling
import StationChat.Protocol.Serialization
import StationChat.Protocol.Layout
import StationChat.Protocol.PacketDump
import StationChat.Protocol.Answers
import StationChat.Gateway.Lookup
import StationChat.Gateway.GetAvatar
import StationChat.Gateway.AvatarRequest
import StationChat.Gateway.Contract
import StationChat.Gateway.Tables
import StationChat.Gateway.Primitives
import StationChat.Gateway.Contacts
import StationChat.Gateway.Rooms
import StationChat.Gateway.Sending
import StationChat.Gateway.Outbox
import StationChat.Gateway.Handling
import StationChat.Gateway.Routines
import StationChat.Gateway.Effects
import StationChat.Gateway.Aside
import StationChat.Gateway.Encoding
import StationChat.Gateway.Conditions
import StationChat.Gateway.RoomHandlers
import StationChat.Gateway.AvatarHandlers
import StationChat.Gateway.Answering
import StationChat.Gateway.Runs
import StationChat.Gateway.Safety
import StationChat.Gateway.Dialogue
import StationChat.Gateway.Unseen
import StationChat.Gateway.Initialised
import StationChat.Rooms.Erasure
import StationChat.Rooms.Calls
import StationChat.Rooms.Frame
import StationChat.Gateway.Changes
import StationChat.Gateway.Everyday
import StationChat.Rooms.Life
import StationChat.Rooms.Outcomes
import StationChat.Rooms.Charge
import StationChat.Rooms.Origin
import StationChat.Rooms.RoleKeys
import StationChat.Rooms.Mirror
import StationChat.Rooms.Loading
import StationChat.Rooms.Reload
import StationChat.Rooms.Selection
import StationChat.Rooms.Atomicity
import StationChat.Rooms.Unique
import StationChat.Rooms.Privilege
import StationChat.Storage.Retry
import StationChat.Storage.Rendering
import StationChat.Storage.ParameterTables
import StationChat.Storage.SchemaVersion
import StationChat.Avatars.Contacts
import StationChat.Avatars.Atomicity
import StationChat.Avatars.Graph
import StationChat.Avatars.HalfLoaded
import StationChat.Avatars.Destroyed
import StationChat.Avatars.Lookups
import StationChat.Avatars.Faithful
import StationChat.Avatars.Accurate
import StationChat.Avatars.Upkeep
import StationChat.Avatars.Ignoring
import StationChat.Avatars.Settled
import StationChat.Avatars.ContactTables
import StationChat.Avatars.ContactCalls
import StationChat.Avatars.Service
import StationChat.Avatars.Online
import StationChat.Avatars.News
import StationChat.Avatars.Presence
import StationChat.Avatars.ContactLists
import StationChat.Avatars.Ownership
import StationChat.Avatars.ContactGraph
import StationChat.Avatars.Attending
import StationChat.Avatars.Hushing
import StationChat.Avatars.Informing
import StationChat.Avatars.Watching
import StationChat.Avatars.FriendHistory
import StationChat.Rooms.Counters
import StationChat.Rooms.MessageIds
import StationChat.Avatars.Attributes
import StationChat.Mail.Mailbox
import StationChat.Mail.Isolation
import StationChat.Mail.Texts
import StationChat.Mail.Listing
import StationChat.Mail.Durability
import StationChat.Gateway.Packets
import StationChat.Gateway.Wire
import StationChat.Rooms.Lists
import StationChat.Rooms.Audience
import StationChat.Gateway.Delivery
import StationChat.Rooms.Departure
import StationChat.Rooms.Views
import StationChat.Gateway.Since
import StationChat.Policy.Rates
