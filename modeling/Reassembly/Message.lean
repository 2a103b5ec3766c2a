import Reassembly.Packet
import Reassembly.SessionKey
import Reassembly.Digest.Sha1

/-!
# Messages

A message is what one side sent of one exchange: its packets, their payloads
joined in the order of arrival, and statistics.  Sorting rearranges the packets
by sequence number and leaves the payload alone; packets with equal sequence
numbers keep their order.
-/

set_option autoImplicit false

namespace Reassembly

structure Stats where
  lostData : Nat
  length : Nat
  /-- The time of the packet that opened the message. -/
  start : Option Timestamp
  /-- The time of the packet that was appended last. -/
  latest : Option Timestamp
  src : Endpoint
  dst : Endpoint
  direction : Direction
  timedOut : Bool
  truncated : Bool
  version : UInt8
  deriving DecidableEq, Repr

inductive StatsFault where
  | beforeEpoch
  deriving DecidableEq, Repr

def StatsFault.message : StatsFault → String
  | .beforeEpoch => "SystemTime must be later than UNIX_EPOCH"

/-- Statistics for export, where a time is counted from 1970 and cannot be earlier. -/
def Stats.exported (stats : Stats) : Except StatsFault Stats :=
  if stats.start.any Timestamp.beforeEpoch || stats.latest.any Timestamp.beforeEpoch then
    .error .beforeEpoch
  else .ok stats

structure Message where
  packets : List Packet
  data : Bytes
  stats : Stats
  deriving DecidableEq, Repr

namespace Message

/-- A message without packets.  Until it is told otherwise it counts as outgoing. -/
def empty (src dst : Endpoint) (version : UInt8) : Message where
  packets := []
  data := []
  stats := {
    lostData := 0, length := 0, start := none, latest := none, src := src, dst := dst,
    direction := .outgoing, timedOut := false, truncated := false, version := version }

/-- The message that a packet opens, before the packet itself is appended. -/
def opened (direction : Direction) (packet : Packet) : Message :=
  let fresh := empty packet.src packet.dst packet.version
  { fresh with
    stats := { fresh.stats with direction := direction, start := some packet.timestamp } }

def length (message : Message) : Nat :=
  message.stats.length

def isEmpty (message : Message) : Bool :=
  message.stats.length = 0

def direction (message : Message) : Direction :=
  message.stats.direction

def append (message : Message) (packet : Packet) : Message where
  packets := message.packets ++ [packet]
  data := message.data ++ packet.payload
  stats := { message.stats with
    lostData := message.stats.lostData + packet.lost.toNat
    length := message.stats.length + packet.payload.length
    latest := some packet.timestamp }

def sortBySequence (message : Message) : Message :=
  { message with
    packets := message.packets.mergeSort fun first second => decide (first.seq ≤ second.seq) }

def markTruncated (message : Message) : Message :=
  { message with stats := { message.stats with truncated := true } }

def markTimedOut (message : Message) : Message :=
  { message with stats := { message.stats with timedOut := true } }

/-- The client of the exchange: whoever sends an incoming message. -/
def client (message : Message) : Endpoint :=
  match message.direction with
  | .incoming => message.stats.src
  | .outgoing => message.stats.dst

/-- The server of the exchange: whoever receives an incoming message. -/
def server (message : Message) : Endpoint :=
  match message.direction with
  | .incoming => message.stats.dst
  | .outgoing => message.stats.src

def sessionText (message : Message) : String :=
  message.client.text ++ message.server.text

def sessionId (message : Message) : String :=
  (Sha1.digest (Bytes.ofText message.sessionText)).hex

/-! ## Histories -/

inductive Edit where
  | append (packet : Packet)
  | sort
  deriving DecidableEq, Repr

def edit (message : Message) : Edit → Message
  | .append packet => message.append packet
  | .sort => message.sortBySequence

def editAll (message : Message) (edits : List Edit) : Message :=
  edits.foldl edit message

/-- The message before the first edit and after each. -/
def history (message : Message) : List Edit → List Message
  | [] => [message]
  | change :: rest => message :: history (message.edit change) rest

theorem sortBySequence_perm (message : Message) :
    message.sortBySequence.packets.Perm message.packets :=
  List.mergeSort_perm ..

end Message

end Reassembly
