import Mathlib.Data.List.Basic

/-! The packet types that every task of the router exchanges. A protobuf body
never occurs on the paths modelled here, so `GDPPacket` keeps only the byte
payload. A `usize` is taken to have 64 bits. -/
namespace GdpRouter

abbrev Bytes := List UInt8

/-- The number of values of a `usize`. A vector is shorter than that. -/
def usizeSize : Nat := UInt64.size

theorem usizeSize_pos : 0 < usizeSize := by decide

inductive GdpAction where
  | noop
  | forward
  | advertise
  | ribGet
  | ribReply
  | nack
  | control
  deriving DecidableEq, Repr

/-- Four bytes, as in the source. Names of topics and of connection threads
share this one space. -/
structure GDPName where
  bytes : Vector UInt8 4
  deriving DecidableEq, Repr

def GDPName.ofBytes (first second third fourth : UInt8) : GDPName :=
  ⟨#v[first, second, third, fourth]⟩

structure GDPPacket where
  action : GdpAction
  gdpname : GDPName
  payload : Option Bytes
  source : GDPName
  deriving DecidableEq, Repr

/-- The part of a packet that travels as JSON text. The source name stays
behind: a receiver never learns it from the wire. The length is a `usize`. -/
structure GDPPacketInTransit where
  action : GdpAction
  destination : GDPName
  length : Nat
  length_lt : length < usizeSize
  deriving DecidableEq, Repr

/-- `payload.len()`, as a `usize`. -/
def payloadLength (payload : Bytes) : Nat := payload.length % usizeSize

theorem payloadLength_lt (payload : Bytes) : payloadLength payload < usizeSize :=
  Nat.mod_lt _ usizeSize_pos

/-- The header that goes before a payload. -/
def GDPPacketInTransit.announcing (action : GdpAction) (destination : GDPName) (payload : Bytes) :
    GDPPacketInTransit :=
  ⟨action, destination, payloadLength payload, payloadLength_lt payload⟩

/-- A packet without a payload announces length zero. -/
def GDPPacket.getHeader (packet : GDPPacket) : GDPPacketInTransit :=
  match packet.payload with
  | some payload => .announcing packet.action packet.gdpname payload
  | none => ⟨packet.action, packet.gdpname, 0, usizeSize_pos⟩

/-- The bytes that follow the header on the wire. -/
def GDPPacket.body (packet : GDPPacket) : Bytes := packet.payload.getD []

/-- The payload fits into a vector. -/
def GDPPacket.Sized (packet : GDPPacket) : Prop := packet.body.length < usizeSize

instance (packet : GDPPacket) : Decidable packet.Sized := inferInstanceAs (Decidable (_ < _))

@[simp] theorem GDPPacket.getHeader_action (packet : GDPPacket) :
    packet.getHeader.action = packet.action := by
  unfold GDPPacket.getHeader
  split <;> rfl

@[simp] theorem GDPPacket.getHeader_destination (packet : GDPPacket) :
    packet.getHeader.destination = packet.gdpname := by
  unfold GDPPacket.getHeader
  split <;> rfl

/-- The header announces the length of the payload, as a `usize`. -/
theorem GDPPacket.getHeader_length (packet : GDPPacket) :
    packet.getHeader.length = payloadLength packet.body := by
  unfold GDPPacket.getHeader GDPPacket.body
  cases packet.payload <;> rfl

/-- The header announces the payload as it is. -/
theorem GDPPacket.Sized.getHeader_length {packet : GDPPacket} (h : packet.Sized) :
    packet.getHeader.length = packet.body.length := by
  rw [GDPPacket.getHeader_length, payloadLength, Nat.mod_eq_of_lt h]

/-- A registration. The sending handle `channel` is kept abstract: the router
only compares, clones and sends on it. -/
structure GDPChannel (σ : Type) where
  gdpname : GDPName
  channel : σ
  advertisement : GDPPacket
  deriving DecidableEq, Repr

/-- A request to flush every known name to one sending handle. -/
structure GDPStatus (σ : Type) where
  sink : σ
  deriving DecidableEq, Repr

end GdpRouter
