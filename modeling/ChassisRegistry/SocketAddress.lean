import ChassisRegistry.Decimal.Digits

/-! # Socket addresses

    An IPv4 or IPv6 address with a port. An IPv6 address is eight groups of
    16 bits and may carry a numeric scope. It is written in its canonical
    form: the first of the longest runs of at least two zero groups becomes
    `::`, groups have no leading zeros, and an address that maps an IPv4
    address shows that address. -/

namespace ChassisRegistry

/-- The four octets of an IPv4 address. -/
structure IPv4 where
  a : UInt8
  b : UInt8
  c : UInt8
  d : UInt8
  deriving DecidableEq

/-- The eight groups of an IPv6 address. -/
structure IPv6 where
  groups : List UInt16
  eight  : groups.length = 8
  deriving DecidableEq

/-- An address with a port. A scope of zero is no scope. -/
inductive SocketAddress where
  | v4 (host : IPv4) (port : UInt16)
  | v6 (host : IPv6) (scope : UInt32) (port : UInt16)
  deriving DecidableEq

/-! ## Writing -/

namespace IPv4

/-- Octets in base ten, with points between them. -/
def text (h : IPv4) : List Char :=
  Decimal.ofNat h.a.toNat ++ '.' :: Decimal.ofNat h.b.toNat ++ '.' ::
    Decimal.ofNat h.c.toNat ++ '.' :: Decimal.ofNat h.d.toNat

/-- The address in two groups of 16 bits. -/
def groups (h : IPv4) : List UInt16 :=
  [h.a.toUInt16 * 256 + h.b.toUInt16, h.c.toUInt16 * 256 + h.d.toUInt16]

/-- The address that two groups of 16 bits hold. -/
def ofGroups (high low : UInt16) : IPv4 :=
  ⟨(high / 256).toUInt8, high.toUInt8, (low / 256).toUInt8, low.toUInt8⟩

end IPv4

namespace IPv6

/-- How many groups at the front are zero. -/
def zeroRun : List UInt16 → Nat
  | [] => 0
  | g :: rest => if g = 0 then zeroRun rest + 1 else 0

/-- The first of the longest runs of zero groups: where it starts, and its length. -/
def longestRun : List UInt16 → Nat × Nat
  | [] => (0, 0)
  | g :: rest =>
      let here := zeroRun (g :: rest)
      let later := longestRun rest
      if later.2 ≤ here then (0, here) else (later.1 + 1, later.2)

/-- Groups in base sixteen, with colons between them. -/
def groupsText : List UInt16 → List Char
  | [] => []
  | [g] => Nat.toDigits 16 g.toNat
  | g :: rest => Nat.toDigits 16 g.toNat ++ ':' :: groupsText rest

/-- The IPv4 address that an address maps, if it maps one. -/
def mapped? : List UInt16 → Option IPv4
  | [0, 0, 0, 0, 0, 0xffff, high, low] => some (IPv4.ofGroups high low)
  | _ => none

/-- The canonical form. -/
def text (h : IPv6) : List Char :=
  match mapped? h.groups with
  | some inner => "::ffff:".toList ++ inner.text
  | none =>
      let (start, length) := longestRun h.groups
      if 1 < length then
        groupsText (h.groups.take start) ++ ':' :: ':' ::
          groupsText (h.groups.drop (start + length))
      else groupsText h.groups

end IPv6

namespace SocketAddress

/-- The characters of an address. -/
def characters : SocketAddress → List Char
  | v4 host port => host.text ++ ':' :: Decimal.ofNat port.toNat
  | v6 host scope port =>
      '[' :: host.text ++
        (if scope = 0 then [] else '%' :: Decimal.ofNat scope.toNat) ++
        ']' :: ':' :: Decimal.ofNat port.toNat

/-- An address as it is written. -/
def text (a : SocketAddress) : String :=
  String.ofList a.characters

instance : ToString SocketAddress := ⟨text⟩

end SocketAddress

end ChassisRegistry
