import Mathlib.Data.List.Basic

/-!
# Internet addresses

Addresses and networks of both versions, with the text forms Python's `ipaddress` accepts: four decimal octets without
leading zeros, or hextets with at most one `::`, an optional dotted tail and an optional scope.  A network keeps no
host bits.
-/

namespace CleanBackend

/-- The mask of a prefix. -/
def netmask (w prefixLen : Nat) : BitVec w := BitVec.allOnes w <<< (w - prefixLen)

/-- A network of addresses of `w` bits. -/
structure Network (w : Nat) where
  address : BitVec w
  prefixLen : Nat
  le_width : prefixLen ≤ w
  masked : address &&& netmask w prefixLen = address

/-- The network an address with a prefix is in (`strict=False`). -/
def Network.of {w : Nat} (address : BitVec w) (prefixLen : Nat) (h : prefixLen ≤ w) : Network w where
  address := address &&& netmask w prefixLen
  prefixLen := prefixLen
  le_width := h
  masked := by rw [BitVec.and_assoc, BitVec.and_self]

def Network.contains {w : Nat} (network : Network w) (ip : BitVec w) : Bool :=
  ip &&& netmask w network.prefixLen == network.address

inductive IpAddress where
  | v4 (ip : BitVec 32)
  | v6 (ip : BitVec 128)
deriving DecidableEq

inductive IpNetwork where
  | v4 (network : Network 32)
  | v6 (network : Network 128)

/-- `ip in network`: an address is in no network of the other version. -/
def IpNetwork.contains : IpNetwork → IpAddress → Bool
  | v4 network, .v4 ip => network.contains ip
  | v6 network, .v6 ip => network.contains ip
  | _, _ => false

/-! ### Text forms -/

namespace IpAddress

def isDecimal (c : Char) : Bool := '0' ≤ c && c ≤ '9'

def hexDigit (c : Char) : Option Nat :=
  if '0' ≤ c && c ≤ '9' then some (c.toNat - '0'.toNat)
  else if 'a' ≤ c && c ≤ 'f' then some (c.toNat - 'a'.toNat + 10)
  else if 'A' ≤ c && c ≤ 'F' then some (c.toNat - 'A'.toNat + 10)
  else none

/-- `int(s, base)` on digits. -/
def ofDigits (base : Nat) (digits : List Nat) : Nat := digits.foldl (fun n d => n * base + d) 0

def parseOctet (s : List Char) : Option Nat :=
  if s = [] ∨ ¬ s.all isDecimal ∨ 3 < s.length then none
  else if s ≠ ['0'] ∧ s.head? = some '0' then none
  else
    let octet := ofDigits 10 (s.map fun c => c.toNat - '0'.toNat)
    if 255 < octet then none else some octet

/-- The integer of a dotted address. -/
def v4FromString (s : List Char) : Option Nat :=
  match s.splitOn '.' with
  | [a, b, c, d] => do
    return ofDigits 256 [← parseOctet a, ← parseOctet b, ← parseOctet c, ← parseOctet d]
  | _ => none

def parseHextet (s : List Char) : Option Nat := do
  let digits ← s.mapM hexDigit
  if s = [] ∨ 4 < s.length then none else some (ofDigits 16 digits)

/-- The parts of an address with colons, a dotted tail replaced by two hextets. -/
def hexParts (s : List Char) : Option (List (List Char)) :=
  let parts := s.splitOn ':'
  if parts.length < 3 then none
  else
    let last := parts.getLastD []
    if '.' ∈ last then do
      let tail ← v4FromString last
      return parts.dropLast ++ [Nat.toDigits 16 (tail / 65536), Nat.toDigits 16 (tail % 65536)]
    else some parts

/-- The places of the empty parts between the first and the last. -/
def skipIndices (parts : List (List Char)) : List Nat :=
  (List.range parts.length).filter fun i => 0 < i ∧ i + 1 < parts.length ∧ parts[i]? = some []

/-- The integer of an address with colons. -/
def v6FromString (s : List Char) : Option Nat := do
  if s = [] then none
  let parts ← hexParts s
  if 9 < parts.length then none
  match skipIndices parts with
  | [] =>
    if parts.length ≠ 8 ∨ parts.head? = some [] ∨ parts.getLast? = some [] then none
    let hextets ← parts.mapM parseHextet
    return ofDigits 65536 hextets
  | [skip] =>
    -- an empty part at an end is part of the `::`
    let hi := if parts.head? = some [] then skip - 1 else skip
    let lo := if parts.getLast? = some [] then parts.length - skip - 2 else parts.length - skip - 1
    if parts.head? = some [] ∧ hi ≠ 0 then none
    if parts.getLast? = some [] ∧ lo ≠ 0 then none
    if 8 ≤ hi + lo then none
    let his ← (parts.take hi).mapM parseHextet
    let los ← (parts.drop (parts.length - lo)).mapM parseHextet
    return ofDigits 65536 (his ++ List.replicate (8 - (hi + lo)) 0 ++ los)
  | _ => none

/-- The address without its scope, which is not empty when there is one. -/
def splitScopeId (s : List Char) : Option (List Char) :=
  match s.splitOn '%' with
  | [address] => some address
  | [address, scope] => if scope = [] then none else some address
  | _ => none

/-- `ipaddress.ip_address(s)`; `none` is a `ValueError`. -/
def parse (s : String) : Option IpAddress :=
  let cs := s.toList
  if '/' ∈ cs then none
  else
    match v4FromString cs with
    | some ip => some (.v4 (BitVec.ofNat 32 ip))
    | none => do
      let address ← splitScopeId cs
      let ip ← v6FromString address
      return .v6 (BitVec.ofNat 128 ip)

end IpAddress

end CleanBackend
