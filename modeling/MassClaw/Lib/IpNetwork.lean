import Mathlib.Tactic.Common

/-!
# IP addresses and networks

An address of either version, and networks given by their leading bits.  A
network holds addresses of its own version only, so the IPv6 form of an IPv4
address is in no IPv4 network; `target` is the address that such a form stands
for.

Nothing here mentions a particular program.
-/

/-- An IP address. -/
inductive IpAddress
  | v4 (bits : BitVec 32)
  | v6 (bits : BitVec 128)
  deriving DecidableEq

/-- A network: the address of its first host and the number of leading bits. -/
inductive IpNetwork
  | v4 (first : BitVec 32) (leading : Nat)
  | v6 (first : BitVec 128) (leading : Nat)

namespace IpAddress

/-- The IPv4 address with the octets. -/
def ofOctets (a b c d : BitVec 8) : BitVec 32 := a ++ b ++ c ++ d

/-- An octet of an IPv4 address, counted from the last one. -/
def octet (bits : BitVec 32) (index : Nat) : Nat := (bits.toNat >>> (8 * index)) % 256

/-- The dotted form of an IPv4 address. -/
def dotted (bits : BitVec 32) : String :=
  s!"{octet bits 3}.{octet bits 2}.{octet bits 1}.{octet bits 0}"

/-- The IPv4 address of `::ffff:a.b.c.d`. -/
def ipv4Mapped? : IpAddress → Option (BitVec 32)
  | v4 _ => none
  | v6 bits => if bits >>> 32 = 0xffff then some (bits.truncate 32) else none

/-- The address that packets go to: for a mapped address the IPv4 address. -/
def target (address : IpAddress) : IpAddress :=
  match address.ipv4Mapped? with
  | some bits => v4 bits
  | none => address

theorem target_of_unmapped {address : IpAddress} (h : address.ipv4Mapped? = none) :
    address.target = address := by
  rw [target, h]

/-- The loopback addresses, `127.0.0.0/8` and `::1`. -/
def isLoopback : IpAddress → Bool
  | v4 bits => bits >>> 24 = 127
  | v6 bits => bits = 1

end IpAddress

namespace IpNetwork

/-- The address is in the network. -/
def contains : IpNetwork → IpAddress → Bool
  | v4 first leading, .v4 bits => bits >>> (32 - leading) = first >>> (32 - leading)
  | v6 first leading, .v6 bits => bits >>> (128 - leading) = first >>> (128 - leading)
  | _, _ => false

end IpNetwork
