-- SUMMARY: Datagrams: flags, header, payload and the encoded size.
import Raknet.Protocol.Ack
import Raknet.Protocol.Frame

namespace Raknet

/-- The bits of `DatagramFlags`. -/
abbrev DatagramFlags := UInt8

namespace DatagramFlags

def valid : DatagramFlags := 0b10000000
def ack : DatagramFlags := 0b01000000
def nack : DatagramFlags := 0b00100000
def packetPair : DatagramFlags := 0b00010000
def continuousSend : DatagramFlags := 0b00001000
def hasBAndAs : DatagramFlags := 0b00000100

end DatagramFlags

/-- `RAKNET_DATAGRAM_HEADER_SIZE`. -/
def raknetDatagramHeaderSize : Nat := 4
/-- `MAX_ACK_SEQUENCES`. -/
def maxAckSequences : Nat := 8192
/-- `MAX_SPLIT_PARTS`. -/
def maxSplitParts : Nat := 8192
/-- `SPLIT_REASSEMBLY_TTL_MS`. -/
def splitReassemblyTtlMs : Nat := 30000
/-- `MAX_INFLIGHT_SPLIT_COMPOUNDS_PER_PEER`. -/
def maxInflightSplitCompoundsPerPeer : Nat := 256

inductive DatagramPayload where
  | frames (frames : List Frame)
  | ack (payload : AckNackPayload)
  | nack (payload : AckNackPayload)
deriving DecidableEq, Repr

structure DatagramHeader where
  flags : DatagramFlags
  sequence : Sequence24
deriving DecidableEq, Repr

structure Datagram where
  header : DatagramHeader
  payload : DatagramPayload
deriving DecidableEq, Repr

namespace Datagram

def encodedSize (d : Datagram) : Nat :=
  match d.payload with
  | .frames frames => raknetDatagramHeaderSize + (frames.map Frame.encodedSize).sum
  | .ack payload | .nack payload => 1 + payload.encodedSize

/-- The frames of a data datagram. -/
def framesOf (d : Datagram) : List Frame :=
  match d.payload with
  | .frames frames => frames
  | .ack _ | .nack _ => []

end Datagram

end Raknet
