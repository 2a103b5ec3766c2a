import Reassembly.Bytes

/-!
# Endpoints

An endpoint is an IP address with a port.  An IPv6 endpoint may carry the number
of the link it is scoped to, where zero stands for no scope, and flow information.
Endpoints that differ in either are different endpoints, but flow information is
not written: endpoints of one socket have one text.
-/

set_option autoImplicit false

namespace Reassembly

inductive Family where
  | v4
  | v6
  deriving DecidableEq, Repr

def Family.number : Family → Nat
  | .v4 => 4
  | .v6 => 6

structure Ipv4 where
  octets : Vector UInt8 4
  deriving DecidableEq, Repr

structure Ipv6 where
  groups : Vector UInt16 8
  deriving DecidableEq, Repr

def Ipv4.bytes (address : Ipv4) : Bytes :=
  address.octets.toList

def Ipv6.bytes (address : Ipv6) : Bytes :=
  address.groups.toList.flatMap Bytes.ofWord16

inductive Endpoint where
  | v4 (address : Ipv4) (port : UInt16)
  | v6 (address : Ipv6) (flowInfo scope : UInt32) (port : UInt16)
  deriving DecidableEq, Repr

namespace Endpoint

def family : Endpoint → Family
  | .v4 .. => .v4
  | .v6 .. => .v6

def port : Endpoint → UInt16
  | .v4 _ port => port
  | .v6 _ _ _ port => port

/-- The endpoint without flow information, as its text shows it. -/
def socket : Endpoint → Endpoint
  | .v4 address port => .v4 address port
  | .v6 address _ scope port => .v6 address 0 scope port

/-- The endpoint as a datagram can carry it: next to an address a header has room neither for
flow information nor for a scope. -/
def bare : Endpoint → Endpoint
  | .v4 address port => .v4 address port
  | .v6 address _ _ port => .v6 address 0 0 port

@[simp] theorem family_socket (endpoint : Endpoint) : endpoint.socket.family = endpoint.family := by
  cases endpoint <;> rfl

theorem socket_bare (endpoint : Endpoint) : endpoint.bare.socket = endpoint.bare := by
  cases endpoint <;> rfl

end Endpoint

end Reassembly
