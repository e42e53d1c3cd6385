/-
# Internet addresses and their text

An IPv4 address is shown as its four bytes in decimal. An IPv6 address is shown
as eight groups of four hexadecimal digits, without leading zeros; the first of
the longest rows of two or more zero groups is left out between two colons. An
address that stands for an IPv4 address ends in that address's text.
-/

import TcpCensus.Bytes

namespace TcpCensus

/-- An internet address. -/
inductive Address
  | v4 (octets : Octets 4)
  | v6 (octets : Octets 16)
  deriving DecidableEq

namespace Address

/-- The bytes of an IPv4 address in decimal, with points between. -/
def dotted (bs : Bytes) : String := ".".intercalate (bs.map fun b => toString b.toNat)

/-- The two-byte groups of an address. -/
def groups : Bytes → List Nat
  | hi :: lo :: bs => (hi.toNat * 256 + lo.toNat) :: groups bs
  | _ => []

/-- The place and the length of the first of the longest rows of zeros. -/
def longestZeros : List Nat → Nat × Nat
  | [] => (0, 0)
  | g :: gs =>
    let here := ((g :: gs).takeWhile (· = 0)).length
    let (place, length) := longestZeros gs
    if length ≤ here then (0, here) else (place + 1, length)

/-- Groups in hexadecimal, with colons between. -/
def colons (gs : List Nat) : String :=
  ":".intercalate (gs.map fun g => String.ofList (Nat.toDigits 16 g))

/-- The groups, with the longest row of zeros left out. -/
def compressed (gs : List Nat) : String :=
  let (place, length) := longestZeros gs
  if 2 ≤ length then colons (gs.take place) ++ "::" ++ colons (gs.drop (place + length))
  else colons gs

/-- Whether the bytes are those of an IPv4 address in IPv6 form: ten zeros and
two bytes of ones in front. -/
def isMapped (bs : Bytes) : Bool := bs.take 12 = List.replicate 10 0 ++ [255, 255]

/-- The text of an address. -/
def text : Address → String
  | .v4 octets => dotted octets.bytes
  | .v6 octets =>
    if isMapped octets.bytes then "::ffff:" ++ dotted (octets.bytes.drop 12)
    else compressed (groups octets.bytes)

end Address

/-- An address and a port. -/
structure SocketAddress where
  address : Address
  port : UInt16
  deriving DecidableEq

namespace SocketAddress

/-- The text of a socket address; an IPv6 address stands in brackets, since it
has colons of its own. -/
def text (s : SocketAddress) : String :=
  match s.address with
  | .v4 _ => s!"{s.address.text}:{s.port.toNat}"
  | .v6 _ => s!"[{s.address.text}]:{s.port.toNat}"

end SocketAddress
end TcpCensus
