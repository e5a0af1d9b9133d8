import GdpRouter.Structs

/-! How a connection or a ROS task hands a packet to the router. -/
namespace GdpRouter

def constructGdpForwardFromBytes (destination source : GDPName) (buffer : Bytes) : GDPPacket :=
  ⟨.forward, destination, some buffer, source⟩

def constructGdpAdvertisementFromBytes (destination source : GDPName) : GDPPacket :=
  ⟨.advertise, destination, none, source⟩

/-- The one message that a call of `procGdpPacket` puts on a queue of the RIB. -/
inductive RibMessage (σ : Type) where
  | register (channel : GDPChannel σ)
  | route (packet : GDPPacket)
  deriving DecidableEq, Repr

/-- An advertisement becomes a registration of the caller's own handle, a
forward goes to the RIB unchanged, and every other action is only logged. -/
def procGdpPacket {σ : Type} (packet : GDPPacket) (handle : σ) : Option (RibMessage σ) :=
  match packet.action with
  | .advertise => some (.register ⟨packet.gdpname, handle, packet⟩)
  | .forward => some (.route packet)
  | .ribGet | .ribReply | .noop | .nack | .control => none

/-- What a receive arm does with one decoded frame. The source is always the
name of the receiving thread, whatever the peer wrote. -/
def dispatch (threadName : GDPName) (header : GDPPacketInTransit) (payload : Bytes) :
    Option GDPPacket :=
  if header.action = .forward then
    some (constructGdpForwardFromBytes header.destination threadName payload)
  else if header.action = .advertise then
    some (constructGdpAdvertisementFromBytes header.destination threadName)
  else none

end GdpRouter
