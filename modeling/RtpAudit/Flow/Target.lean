import RtpAudit.Packet.Ipv4

/-! # The followed flow

A run follows the packets of one flow: those sent to an address and port, or those sent from
them. The direction picks which side of each packet, destination or source, must carry the
address and port.
-/

namespace RtpAudit

/-- Which side of a packet the followed address and port are on. -/
inductive Direction
  /-- Packets sent to the address and port: their destination side. -/
  | inbound
  /-- Packets sent from the address and port: their source side. -/
  | outbound
  deriving DecidableEq, Repr

/-- The word for a direction in names and messages. -/
def Direction.name : Direction → String
  | .inbound => "to"
  | .outbound => "from"

/-- The one flow a run follows. -/
structure FlowTarget where
  address : Ipv4Address
  port : UInt16
  direction : Direction := .inbound
  deriving DecidableEq, Repr

namespace FlowTarget

/-- The address of a packet on the followed side. -/
def addressOf (t : FlowTarget) (p : Ipv4Packet) : Ipv4Address :=
  match t.direction with
  | .inbound => p.destination
  | .outbound => p.source

/-- The port of a datagram on the followed side. -/
def portOf (t : FlowTarget) (h : UdpHeader) : UInt16 :=
  match t.direction with
  | .inbound => h.dstPort
  | .outbound => h.srcPort

end FlowTarget

end RtpAudit
