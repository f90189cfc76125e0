import TeamComm.Library.ExpirySet
import TeamComm.Library.HashMap
import TeamComm.Library.JsonCut
import TeamComm.Library.Lease
import TeamComm.Library.Lines
import TeamComm.Library.Mailbox
import TeamComm.Protocol.Types
import TeamComm.Properties.ErrorPaths
import TeamComm.Properties.ReplyDelivery
import TeamComm.Properties.ReferentialIntegrity
import TeamComm.Properties.ConflictReports
import TeamComm.Properties.SessionIndex
import TeamComm.Properties.ReplyAddress
import TeamComm.Properties.ReservationStore
import TeamComm.Properties.ProcessIdentity
import TeamComm.Properties.RegistrationRoundTrip
import TeamComm.Properties.Heartbeats
import TeamComm.Properties.SingleInstance
import TeamComm.Properties.ClientAgreement
import TeamComm.Properties.ClientPairing
import TeamComm.Properties.CliAgreement
import TeamComm.Properties.McpTools
import TeamComm.Properties.McpServer
import TeamComm.Properties.EnvelopeCodec
import TeamComm.Properties.ClaimExpiry
import TeamComm.Properties.InboxOrder
import TeamComm.Properties.SignsOfLife
import TeamComm.Properties.DiscoveryPath
import TeamComm.Properties.StorePids
import TeamComm.Properties.DurableMirror
import TeamComm.Properties.ConflictListing
import TeamComm.Properties.ToolReservations
import TeamComm.Properties.ToolQueries
import TeamComm.Properties.Broadcast
import TeamComm.Properties.ParameterTypes
import TeamComm.Properties.Independence
import TeamComm.Properties.StoreRoundTrip
import TeamComm.Properties.ChronologicalListings
import TeamComm.Properties.StoreAtomicity
import TeamComm.Properties.SchemaVersions
import TeamComm.Properties.ReadFlags
import TeamComm.Properties.ThreadLifetimes
import TeamComm.Properties.AgentTypeColumn
import TeamComm.Properties.Conversations
import TeamComm.Properties.AcceptLoop
import TeamComm.Properties.Shutdown
import TeamComm.Properties.CliCalls
import TeamComm.Properties.ControlCommands
import TeamComm.Properties.TypedCalls
import TeamComm.Properties.McpExchange
