import Midn.Lib.Octets

/-!
# S1AP messages

The S1AP message discriminant. Setup messages carry no fields here: the MME ignores them.
-/

namespace Midn.S1ap

inductive S1apCause where
  | radioNetworkUnspecified
  | transportUnspecified
  | nasNormalRelease
  | nasDetach
  | nasAuthFailure
  | protocolUnspecified
  | miscUnspecified
deriving DecidableEq, Repr

structure InitialUeMessage where
  enbUeS1apId : UInt32
  nasPdu : List UInt8
  tai : Octets 5
  eutranCgi : Octets 7
  rrcCause : UInt8

structure DownlinkNasTransport where
  mmeUeS1apId : UInt32
  enbUeS1apId : UInt32
  nasPdu : List UInt8

structure UplinkNasTransport where
  mmeUeS1apId : UInt32
  enbUeS1apId : UInt32
  nasPdu : List UInt8
  tai : Octets 5
  eutranCgi : Octets 7

structure ErabToSetup where
  erabId : UInt8
  qci : UInt8
  gtpTeid : Octets 4
  transportLayerAddr : Octets 4

structure InitialContextSetupRequest where
  mmeUeS1apId : UInt32
  enbUeS1apId : UInt32
  eRabs : List ErabToSetup
  nasPdu : Option (List UInt8)
  /-- Downlink and uplink aggregate maximum bit rate. -/
  ueAmbr : UInt64 × UInt64
  securityKey : Octets 32

structure ErabSetupItem where
  eRabId : UInt8
  transportLayerAddr : Octets 4
  gtpTeid : Octets 4

structure InitialContextSetupResponse where
  mmeUeS1apId : UInt32
  enbUeS1apId : UInt32
  eRabsSetup : List ErabSetupItem
  eRabsFailed : List UInt8

structure UeContextReleaseComplete where
  mmeUeS1apId : UInt32
  enbUeS1apId : UInt32

inductive S1apMessage where
  | s1SetupRequest
  | s1SetupResponse
  | s1SetupFailure (cause : S1apCause)
  | initialUeMessage (m : InitialUeMessage)
  | downlinkNasTransport (m : DownlinkNasTransport)
  | uplinkNasTransport (m : UplinkNasTransport)
  | initialContextSetupRequest (m : InitialContextSetupRequest)
  | initialContextSetupResponse (m : InitialContextSetupResponse)
  | initialContextSetupFailure (cause : S1apCause)
  | ueContextReleaseCommand (mmeUeS1apId enbUeS1apId : UInt32) (cause : S1apCause)
  | ueContextReleaseComplete (m : UeContextReleaseComplete)

/-- The core-side id a message names. -/
def S1apMessage.mmeUeS1apId? : S1apMessage → Option UInt32
  | downlinkNasTransport m => some m.mmeUeS1apId
  | uplinkNasTransport m => some m.mmeUeS1apId
  | initialContextSetupRequest m => some m.mmeUeS1apId
  | initialContextSetupResponse m => some m.mmeUeS1apId
  | ueContextReleaseCommand mmeUeS1apId _ _ => some mmeUeS1apId
  | ueContextReleaseComplete m => some m.mmeUeS1apId
  | _ => none

/-- The RAN-side id a message names. -/
def S1apMessage.enbUeS1apId? : S1apMessage → Option UInt32
  | initialUeMessage m => some m.enbUeS1apId
  | downlinkNasTransport m => some m.enbUeS1apId
  | uplinkNasTransport m => some m.enbUeS1apId
  | initialContextSetupRequest m => some m.enbUeS1apId
  | initialContextSetupResponse m => some m.enbUeS1apId
  | ueContextReleaseCommand _ enbUeS1apId _ => some enbUeS1apId
  | ueContextReleaseComplete m => some m.enbUeS1apId
  | _ => none

/-- The core-side and the RAN-side id under which an eNodeB reports on a UE. -/
def S1apMessage.contextIds? : S1apMessage → Option (UInt32 × UInt32)
  | uplinkNasTransport m => some (m.mmeUeS1apId, m.enbUeS1apId)
  | initialContextSetupResponse m => some (m.mmeUeS1apId, m.enbUeS1apId)
  | ueContextReleaseComplete m => some (m.mmeUeS1apId, m.enbUeS1apId)
  | _ => none

/-- The same message about the same UE of the core, under another RAN-side id. -/
def S1apMessage.withEnbUeS1apId (enbUeS1apId : UInt32) : S1apMessage → S1apMessage
  | downlinkNasTransport m => downlinkNasTransport { m with enbUeS1apId := enbUeS1apId }
  | uplinkNasTransport m => uplinkNasTransport { m with enbUeS1apId := enbUeS1apId }
  | initialContextSetupRequest m =>
      initialContextSetupRequest { m with enbUeS1apId := enbUeS1apId }
  | initialContextSetupResponse m =>
      initialContextSetupResponse { m with enbUeS1apId := enbUeS1apId }
  | ueContextReleaseCommand mmeUeS1apId _ cause =>
      ueContextReleaseCommand mmeUeS1apId enbUeS1apId cause
  | ueContextReleaseComplete m => ueContextReleaseComplete { m with enbUeS1apId := enbUeS1apId }
  | msg => msg

/-- The NAS PDU a message to the eNodeB carries. -/
def S1apMessage.nasPdu? : S1apMessage → Option (List UInt8)
  | downlinkNasTransport m => some m.nasPdu
  | initialContextSetupRequest m => m.nasPdu
  | _ => none

/-- The NAS PDU a message delivers to the UE with the given core-side id. -/
def S1apMessage.nasFor (e : UInt32) : S1apMessage → Option (List UInt8)
  | downlinkNasTransport m => if m.mmeUeS1apId = e then some m.nasPdu else none
  | initialContextSetupRequest m => if m.mmeUeS1apId = e then m.nasPdu else none
  | _ => none

/-- The NAS PDU an eNodeB passes on to the UE it knows by the given id, with the core-side id to
answer to. -/
def S1apMessage.deliveryTo (enbUeS1apId : UInt32) : S1apMessage → Option (UInt32 × List UInt8)
  | downlinkNasTransport m =>
      if m.enbUeS1apId = enbUeS1apId then some (m.mmeUeS1apId, m.nasPdu) else none
  | initialContextSetupRequest m =>
      if m.enbUeS1apId = enbUeS1apId then m.nasPdu.map fun pdu => (m.mmeUeS1apId, pdu) else none
  | _ => none

@[simp] theorem S1apMessage.deliveryTo_downlinkNasTransport (mmeUeS1apId enbUeS1apId : UInt32)
    (nasPdu : List UInt8) :
    (downlinkNasTransport ⟨mmeUeS1apId, enbUeS1apId, nasPdu⟩).deliveryTo enbUeS1apId =
      some (mmeUeS1apId, nasPdu) :=
  if_pos rfl

theorem S1apMessage.nasPdu?_of_nasFor {e : UInt32} {msg : S1apMessage} {pdu : List UInt8}
    (hnas : msg.nasFor e = some pdu) : msg.nasPdu? = some pdu := by
  cases msg with
  | downlinkNasTransport m =>
      simp only [nasFor] at hnas
      split at hnas
      · exact hnas
      · cases hnas
  | initialContextSetupRequest m =>
      simp only [nasFor] at hnas
      split at hnas
      · exact hnas
      · cases hnas
  | _ => cases hnas

end Midn.S1ap
