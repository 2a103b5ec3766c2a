import Reassembly.Packet.Datagram
import Reassembly.Pool
import Reassembly.Pool.Effect
import Reassembly.Pool.Registry

/-!
# Taking packets in

A packet with RST ends the messages of its exchange.  Any other packet joins the
message that is filed under its sender, or under its sender and receiver, and
may open one where there is none.  A message ends when its payload reaches the
size cap, when the completion rule holds, or with a FIN; it then leaves the
registry and is dispatched.
-/

set_option autoImplicit false

namespace Reassembly

inductive IntakeFault where
  | endDetector (fault : Fault)
  /-- The clock cannot name the deadline of a new message. -/
  | deadlineOverflow
  | datagram (fault : DatagramFault)
  deriving DecidableEq

def IntakeFault.message : IntakeFault → String
  | .endDetector fault => fault.display
  | .deadlineOverflow => "overflow when adding duration to instant"
  | .datagram fault => fault.message

structure Outcome where
  registry : Registry
  effects : List Effect
  fault : Option IntakeFault
  deriving DecidableEq

namespace Pool

/-- What dispatching a finished message does: the message is counted and logged and
goes to the handler, whose failure is only logged. -/
def dispatch (pool : Pool) (key : SessionKey) (message : Message) (termination : Termination)
    (time : Nat) : List Effect :=
  [.count .closed, .count (.dispatched termination),
    .note (.dispatching key termination message.length message.packets.length),
    .deliver ⟨key, message, termination, time⟩] ++
  match pool.handler message with
  | none => []
  | some fault => [.note (.handlerFailed key fault)]

/-- What becomes of a flow that has left the registry: its watcher dispatches the
message; without a watcher the message is lost. -/
def retire (pool : Pool) (key : SessionKey) (flow : Flow) (termination : Termination)
    (time : Nat) : List Effect :=
  match flow.deadline with
  | none => [.note (.unwatched key), .count .closed]
  | some _ => pool.dispatch key flow.message termination time

def handOff (pool : Pool) (registry : Registry) (key : SessionKey) (termination : Termination) :
    Outcome :=
  match registry.find? key with
  | none => ⟨registry, [], none⟩
  | some flow =>
      ⟨registry.erase key, pool.retire key flow termination registry.clock, none⟩

/-- A message with one more packet, cut so that the payload stays within `maxSize`. -/
def grown (maxSize : Nat) (message : Message) (packet : Packet) : Message :=
  if maxSize < message.length + packet.payload.length then
    message.markTruncated.append
      { packet with payload := packet.payload.take (maxSize - message.length) }
  else message.append packet

def cutEffects (maxSize : Nat) (key : SessionKey) (message : Message) (packet : Packet) :
    List Effect :=
  if maxSize < message.length + packet.payload.length then
    [.count .truncated, .say (.truncated key maxSize)]
  else []

/-- Whether a message is complete with a packet: the size cap is asked first, then the
completion rule, then FIN. -/
def complete (pool : Pool) (message : Message) (packet : Packet) : Except Fault Bool :=
  if pool.limits.maxSize ≤ message.length + packet.payload.length then .ok true
  else
    match pool.hooks.completes (grown pool.limits.maxSize message packet) with
    | .error fault => .error fault
    | .ok holds => .ok (holds || packet.flags.fin)

def append (pool : Pool) (registry : Registry) (key : SessionKey) (flow : Flow)
    (packet : Packet) : Outcome :=
  let filed := registry.insert key
    { flow with message := grown pool.limits.maxSize flow.message packet }
  let effects := cutEffects pool.limits.maxSize key flow.message packet
  match pool.complete flow.message packet with
  | .error fault => ⟨filed, effects, some (.endDetector fault)⟩
  | .ok false => ⟨filed, effects, none⟩
  | .ok true =>
      let handed := pool.handOff filed key .completed
      ⟨handed.registry, effects ++ handed.effects, none⟩

/-- Opens a message with a packet.  Where the deadline cannot be named, the message
stays filed without its packet and without a watcher. -/
def openWith (pool : Pool) (registry : Registry) (direction : Direction) (packet : Packet) :
    Outcome :=
  let key := SessionKey.of direction packet.src packet.dst
  let deadline := deadlineAfter? registry.clock pool.limits.expiry
  let flow : Flow := ⟨.opened direction packet, deadline⟩
  let filed := registry.insert key flow
  match deadline with
  | none => ⟨filed, [.count .opened], some .deadlineOverflow⟩
  | some _ =>
      let appended := pool.append filed key flow packet
      ⟨appended.registry, .count .opened :: appended.effects, appended.fault⟩

/-- The key that packets from `src` to `dst` are filed under, the sender's own first. -/
def filedUnder? (registry : Registry) (src dst : Endpoint) : Option SessionKey :=
  if registry.contains (SessionKey.ofClient src) then some (SessionKey.ofClient src)
  else if registry.contains (SessionKey.ofServer src dst) then
    some (SessionKey.ofServer src dst)
  else none

def resetSide (pool : Pool) (registry : Registry) (src dst : Endpoint) : Outcome :=
  match filedUnder? registry src dst with
  | none => ⟨registry, [], none⟩
  | some key => pool.handOff registry key .reset

/-- Ends the sender's message, then the receiver's, and reports the reset. -/
def reset (pool : Pool) (registry : Registry) (packet : Packet) : Outcome :=
  let sender := pool.resetSide registry packet.src packet.dst
  let receiver := pool.resetSide sender.registry packet.dst packet.src
  ⟨receiver.registry,
    sender.effects ++ receiver.effects ++
      [.say (.reset packet.src packet.dst packet.timestamp)], none⟩

def join (pool : Pool) (registry : Registry) (packet : Packet) : Outcome :=
  let found := (filedUnder? registry packet.src packet.dst).bind fun key =>
    (registry.find? key).map fun flow => (key, flow)
  match found with
  | some (key, flow) => pool.append registry key flow packet
  | none =>
      match pool.hooks.opens packet with
      | none => ⟨registry, [], none⟩
      | some direction => pool.openWith registry direction packet

def takePacket (pool : Pool) (registry : Registry) (packet : Packet) : Outcome :=
  if packet.flags.rst then pool.reset registry packet else pool.join registry packet

def takeCapture (pool : Pool) (registry : Registry) (capture : Capture) : Outcome :=
  match Packet.decode capture with
  | .ok packet => pool.takePacket registry packet
  | .error error =>
      ⟨registry, [.count .undecodable, .say (.undecodable capture.data.length error)], none⟩

/-- What a pool can be fed: a packet, a capture, or a datagram that is written and then captured. -/
inductive Input where
  | packet (packet : Packet)
  | capture (capture : Capture)
  | datagram (datagram : Datagram) (timestamp : Timestamp) (lost : UInt32)
  deriving DecidableEq

def take (pool : Pool) (registry : Registry) : Input → Outcome
  | .packet packet => pool.takePacket registry packet
  | .capture capture => pool.takeCapture registry capture
  | .datagram datagram timestamp lost =>
      match datagram.write with
      | .error fault => ⟨registry, [], some (.datagram fault)⟩
      | .ok data => pool.takeCapture registry ⟨data, timestamp, lost⟩

end Pool

end Reassembly
