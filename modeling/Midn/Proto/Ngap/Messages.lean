import Midn.Lib.Octets

/-!
# NGAP messages

The NGAP message discriminant, the 5G sibling of the S1AP one. Messages outside the registration
and deregistration procedures carry no fields.
-/

namespace Midn.Ngap

inductive NgapCause where
  | radioNetworkUnspecified
  | transportUnspecified
  | nasNormalRelease
  | nasDeregister
  | nasAuthFailure
  | protocolUnspecified
  | miscUnspecified
deriving DecidableEq, Repr

structure NgapInitialUeMessage where
  ranUeNgapId : UInt32
  nasPdu : List UInt8
  tai : Octets 6
  nrCgi : Octets 9
  rrcEstablishmentCause : UInt8

structure NgapDownlinkNasTransport where
  amfUeNgapId : UInt32
  ranUeNgapId : UInt32
  nasPdu : List UInt8

structure NgapUplinkNasTransport where
  amfUeNgapId : UInt32
  ranUeNgapId : UInt32
  nasPdu : List UInt8
  tai : Octets 6
  nrCgi : Octets 9

structure PduSessionToSetup where
  pduSessionId : UInt8
  qfi : UInt8
  gtpTeid : Octets 4
  transportLayerAddr : Octets 4

structure NgapInitialContextSetupRequest where
  amfUeNgapId : UInt32
  ranUeNgapId : UInt32
  pduSessions : List PduSessionToSetup
  nasPdu : Option (List UInt8)
  /-- Downlink and uplink aggregate maximum bit rate. -/
  ueAmbr : UInt64 × UInt64
  securityKey : Octets 32

structure PduSessionSetupItem where
  pduSessionId : UInt8
  transportLayerAddr : Octets 4
  gtpTeid : Octets 4

structure NgapInitialContextSetupResponse where
  amfUeNgapId : UInt32
  ranUeNgapId : UInt32
  pduSessionsSetup : List PduSessionSetupItem
  pduSessionsFailed : List UInt8

structure NgapUeContextReleaseComplete where
  amfUeNgapId : UInt32
  ranUeNgapId : UInt32

inductive NgapMessage where
  | ngSetupRequest
  | ngSetupResponse
  | initialUeMessage (m : NgapInitialUeMessage)
  | downlinkNasTransport (m : NgapDownlinkNasTransport)
  | uplinkNasTransport (m : NgapUplinkNasTransport)
  | initialContextSetupRequest (m : NgapInitialContextSetupRequest)
  | initialContextSetupResponse (m : NgapInitialContextSetupResponse)
  | initialContextSetupFailure (cause : NgapCause)
  | pduSessionResourceSetupRequest
  | pduSessionResourceSetupResponse
  | pduSessionResourceSetupFailure
  | ueContextReleaseCommand (amfUeNgapId ranUeNgapId : UInt32) (cause : NgapCause)
  | ueContextReleaseComplete (m : NgapUeContextReleaseComplete)

/-- The core-side id a message names. -/
def NgapMessage.amfUeNgapId? : NgapMessage → Option UInt32
  | downlinkNasTransport m => some m.amfUeNgapId
  | uplinkNasTransport m => some m.amfUeNgapId
  | initialContextSetupRequest m => some m.amfUeNgapId
  | initialContextSetupResponse m => some m.amfUeNgapId
  | ueContextReleaseCommand amfUeNgapId _ _ => some amfUeNgapId
  | ueContextReleaseComplete m => some m.amfUeNgapId
  | _ => none

/-- The core-side and the RAN-side id under which a gNodeB reports on a UE. -/
def NgapMessage.contextIds? : NgapMessage → Option (UInt32 × UInt32)
  | uplinkNasTransport m => some (m.amfUeNgapId, m.ranUeNgapId)
  | initialContextSetupResponse m => some (m.amfUeNgapId, m.ranUeNgapId)
  | ueContextReleaseComplete m => some (m.amfUeNgapId, m.ranUeNgapId)
  | _ => none

/-- The same message about the same UE of the core, under another RAN-side id. -/
def NgapMessage.withRanUeNgapId (ranUeNgapId : UInt32) : NgapMessage → NgapMessage
  | downlinkNasTransport m => downlinkNasTransport { m with ranUeNgapId := ranUeNgapId }
  | uplinkNasTransport m => uplinkNasTransport { m with ranUeNgapId := ranUeNgapId }
  | initialContextSetupRequest m =>
      initialContextSetupRequest { m with ranUeNgapId := ranUeNgapId }
  | initialContextSetupResponse m =>
      initialContextSetupResponse { m with ranUeNgapId := ranUeNgapId }
  | ueContextReleaseCommand amfUeNgapId _ cause =>
      ueContextReleaseCommand amfUeNgapId ranUeNgapId cause
  | ueContextReleaseComplete m => ueContextReleaseComplete { m with ranUeNgapId := ranUeNgapId }
  | msg => msg

/-- The NAS PDU a message to the gNodeB carries. -/
def NgapMessage.nasPdu? : NgapMessage → Option (List UInt8)
  | downlinkNasTransport m => some m.nasPdu
  | initialContextSetupRequest m => m.nasPdu
  | _ => none

/-- The NAS PDU a message delivers to the UE with the given core-side id. -/
def NgapMessage.nasFor (e : UInt32) : NgapMessage → Option (List UInt8)
  | downlinkNasTransport m => if m.amfUeNgapId = e then some m.nasPdu else none
  | initialContextSetupRequest m => if m.amfUeNgapId = e then m.nasPdu else none
  | _ => none

/-- The NAS PDU a gNodeB passes on to the UE it knows by the given id, with the core-side id to
answer to. -/
def NgapMessage.deliveryTo (ranUeNgapId : UInt32) : NgapMessage → Option (UInt32 × List UInt8)
  | downlinkNasTransport m =>
      if m.ranUeNgapId = ranUeNgapId then some (m.amfUeNgapId, m.nasPdu) else none
  | initialContextSetupRequest m =>
      if m.ranUeNgapId = ranUeNgapId then m.nasPdu.map fun pdu => (m.amfUeNgapId, pdu) else none
  | _ => none

@[simp] theorem NgapMessage.deliveryTo_downlinkNasTransport (amfUeNgapId ranUeNgapId : UInt32)
    (nasPdu : List UInt8) :
    (downlinkNasTransport ⟨amfUeNgapId, ranUeNgapId, nasPdu⟩).deliveryTo ranUeNgapId =
      some (amfUeNgapId, nasPdu) :=
  if_pos rfl

theorem NgapMessage.nasPdu?_of_nasFor {e : UInt32} {msg : NgapMessage} {pdu : List UInt8}
    (hnas : msg.nasFor e = some pdu) : msg.nasPdu? = some pdu := by
  cases msg with
  | downlinkNasTransport m =>
      simp only [nasFor] at hnas
      split at hnas
      · exact hnas
      · cases hnas
  | initialContextSetupRequest m =>
      simp only [nasFor] at hnas
      split at hnas
      · exact hnas
      · cases hnas
  | _ => cases hnas

end Midn.Ngap
