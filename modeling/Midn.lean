import Midn.Auth.Conformance
import Midn.Auth.Milenage
import Midn.Auth.Tuak.Padding
import Midn.Auth.Tuak.Sponge
import Midn.Core.Amf.Addresses
import Midn.Core.Amf.Binding
import Midn.Core.Amf.Challenge
import Midn.Core.Amf.Conversation
import Midn.Core.Amf.Deregistration
import Midn.Core.Amf.Envelope
import Midn.Core.Amf.Freshness
import Midn.Core.Amf.HonestUe
import Midn.Core.Amf.IdentityResponse
import Midn.Core.Amf.Isolation
import Midn.Core.Amf.Lifecycle
import Midn.Core.Amf.Pairing
import Midn.Core.Amf.Pipeline
import Midn.Core.Amf.Procedure
import Midn.Core.Amf.Registration
import Midn.Core.Amf.Registry
import Midn.Core.Amf.Request
import Midn.Core.Amf.Resources
import Midn.Core.Amf.State
import Midn.Core.Amf.StateMachine
import Midn.Core.Amf.Subscriber
import Midn.Core.Amf.Tunnels
import Midn.Core.Envelope
import Midn.Core.Hss
import Midn.Core.Isolation
import Midn.Core.Kdf
import Midn.Core.KdfSeparation
import Midn.Core.Mme.Attach
import Midn.Core.Mme.Challenge
import Midn.Core.Mme.Conversation
import Midn.Core.Mme.Detach
import Midn.Core.Mme.Envelope
import Midn.Core.Mme.Freshness
import Midn.Core.Mme.HonestUe
import Midn.Core.Mme.Isolation
import Midn.Core.Mme.Keys
import Midn.Core.Mme.Lifecycle
import Midn.Core.Mme.Pairing
import Midn.Core.Mme.Pipeline
import Midn.Core.Mme.Procedure
import Midn.Core.Mme.Provisioning
import Midn.Core.Mme.Registry
import Midn.Core.Mme.Request
import Midn.Core.Mme.Resources
import Midn.Core.Mme.State
import Midn.Core.Mme.StateMachine
import Midn.Core.Mme.Subscriber
import Midn.Core.Mme.Tunnels
import Midn.Core.Pairing
import Midn.Core.Pipeline
import Midn.Core.SequenceNumbers
import Midn.Core.Teid
import Midn.Core.Tunnels
import Midn.Crypto.Primitives
import Midn.Crypto.Standard
import Midn.Ecs.Components
import Midn.Ecs.Registry
import Midn.Ecs.Storage
import Midn.Ecs.World
import Midn.Lib.Bits
import Midn.Lib.Checked
import Midn.Lib.Checksum
import Midn.Lib.Column
import Midn.Lib.Delivery
import Midn.Lib.Dialogue
import Midn.Lib.Family
import Midn.Lib.Index
import Midn.Lib.Ledger
import Midn.Lib.Lockstep
import Midn.Lib.Mealy
import Midn.Lib.Mux
import Midn.Lib.Nonce
import Midn.Lib.Octets
import Midn.Lib.Pool
import Midn.Lib.Sponge
import Midn.Lib.Tails
import Midn.Lib.Word
import Midn.Proto.CodeSpace
import Midn.Proto.Container
import Midn.Proto.ElementOrder
import Midn.Proto.Elements
import Midn.Proto.Error
import Midn.Proto.ExactFraming
import Midn.Proto.Framing
import Midn.Proto.Gtp
import Midn.Proto.GtpExtension
import Midn.Proto.InRange
import Midn.Proto.LostElements
import Midn.Proto.Nas.Channel
import Midn.Proto.Nas.Codec
import Midn.Proto.Nas.Ie
import Midn.Proto.Nas.MobileIdentity
import Midn.Proto.Nas.RoundTrip
import Midn.Proto.Nas.Security
import Midn.Proto.Nas5gs.Codec
import Midn.Proto.Nas5gs.RoundTrip
import Midn.Proto.Nas5gs.Security
import Midn.Proto.Nas5gs.Twin
import Midn.Proto.Ngap.Codec
import Midn.Proto.Ngap.Framing
import Midn.Proto.Ngap.Messages
import Midn.Proto.Ngap.Ranges
import Midn.Proto.Ngap.Reencode
import Midn.Proto.Ngap.RoundTrip
import Midn.Proto.Ngap.Slots
import Midn.Proto.Per
import Midn.Proto.PerFields
import Midn.Proto.Ranges
import Midn.Proto.Raw.Container
import Midn.Proto.Raw.Decoders
import Midn.Proto.Raw.Nas
import Midn.Proto.Raw.Nas5gs
import Midn.Proto.Raw.NasIe
import Midn.Proto.Raw.NasSecurity
import Midn.Proto.Raw.Ngap
import Midn.Proto.Raw.Per
import Midn.Proto.Raw.S1ap
import Midn.Proto.Reencode
import Midn.Proto.Resync
import Midn.Proto.S1ap.Codec
import Midn.Proto.S1ap.Framing
import Midn.Proto.S1ap.Messages
import Midn.Proto.S1ap.Ranges
import Midn.Proto.S1ap.Reencode
import Midn.Proto.S1ap.RoundTrip
import Midn.Proto.S1ap.Slots
import Midn.Proto.Slots
import Midn.Sim.Activity
import Midn.Sim.Bearer
import Midn.Sim.Enb.Completion
import Midn.Sim.Enb.LifeCycle
import Midn.Sim.Enb.LinkLoss
import Midn.Sim.Enb.NodeReactions
import Midn.Sim.Enb.Run
import Midn.Sim.Enb.System
import Midn.Sim.Enb.Ue
import Midn.Sim.Enb.UeReactions
import Midn.Sim.Gnb.Agreement
import Midn.Sim.Gnb.Completion
import Midn.Sim.Gnb.CoreReactions
import Midn.Sim.Gnb.LifeCycle
import Midn.Sim.Gnb.LinkLoss
import Midn.Sim.Gnb.Refinement
import Midn.Sim.Gnb.Run
import Midn.Sim.Gnb.Sessions
import Midn.Sim.Gnb.System
import Midn.Sim.Gnb.Ue
import Midn.Sim.Gnb.UeReactions
import Midn.Sim.Gnb.UserData
import Midn.Sim.Link
import Midn.Sim.N3
import Midn.Sim.S1u
import Midn.Sim.Traffic
import Midn.Userplane.Accounting
import Midn.Userplane.Allocation
import Midn.Userplane.BearerUpdate
import Midn.Userplane.Encapsulation
import Midn.Userplane.FailSafe
import Midn.Userplane.FastPath
import Midn.Userplane.Forwarder
import Midn.Userplane.GtpDlXdp
import Midn.Userplane.GtpXdp
import Midn.Userplane.Loader
import Midn.Userplane.Placeholder
import Midn.Userplane.RouteIndex
import Midn.Userplane.Routing
import Midn.Userplane.SessionManager
import Midn.Userplane.TunnelManager
import Midn.Userplane.TwoPaths
