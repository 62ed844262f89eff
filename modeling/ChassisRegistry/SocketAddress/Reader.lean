import ChassisRegistry.SocketAddress

/-! # Reading socket addresses

    Octets have at most three digits and no leading zero, groups at most four
    hexadecimal digits; ports and scopes may have any number of leading
    zeros. `::` stands for at least one zero group. The last two groups may
    be written as an IPv4 address. Every reader takes its part off the front
    of the text and gives back the rest. -/

namespace ChassisRegistry.SocketAddress

/-- The text after the character `c`, if `c` is at its front. -/
def after (c : Char) : List Char → Option (List Char)
  | [] => none
  | x :: rest => if x = c then some rest else none

/-- A number of at most `digits` digits that is at most `greatest`. -/
def number (base : Nat) (digits : Option Nat) (greatest : Nat) (cs : List Char) :
    Option (Nat × List Char) :=
  let (front, rest) := Decimal.span base cs
  let tooLong := match digits with
    | some n => n < front.length
    | none   => false
  let value := Decimal.ofDigits base front
  if front.isEmpty || tooLong || greatest < value then none else some (value, rest)

/-- An octet: no leading zero. -/
def octet (cs : List Char) : Option (UInt8 × List Char) := do
  let (value, rest) ← number 10 (some 3) 255 cs
  if cs.head? = some '0' ∧ rest.length + 1 < cs.length then none
  else some (value.toUInt8, rest)

/-- An IPv4 address. -/
def host4 (cs : List Char) : Option (IPv4 × List Char) := do
  let (a, cs) ← octet cs
  let (b, cs) ← octet (← after '.' cs)
  let (c, cs) ← octet (← after '.' cs)
  let (d, cs) ← octet (← after '.' cs)
  return (⟨a, b, c, d⟩, cs)

/-- Up to `limit` groups. The flag tells whether they end in an IPv4 address, which takes the place
    of two groups. Every group but the first follows a colon. -/
def groups : Nat → Bool → List Char → List UInt16 × Bool × List Char
  | 0, _, cs => ([], false, cs)
  | limit + 1, first, cs =>
      match if first then some cs else after ':' cs with
      | none => ([], false, cs)
      | some body =>
          match if 1 ≤ limit then host4 body else none with
          | some (host, rest) => (host.groups, true, rest)
          | none =>
              match number 16 (some 4) 65535 body with
              | some (g, rest) =>
                  let (more, four, rest) := groups limit false rest
                  (g.toUInt16 :: more, four, rest)
              | none => ([], false, cs)

/-- The address with these groups, if they are eight. -/
def ofGroups (gs : List UInt16) : Option IPv6 :=
  if h : gs.length = 8 then some ⟨gs, h⟩ else none

/-- An IPv6 address. -/
def host6 (cs : List Char) : Option (IPv6 × List Char) := do
  let (head, four, cs) := groups 8 true cs
  if head.length = 8 then return (← ofGroups head, cs)
  if four then none
  let cs ← after ':' cs
  let cs ← after ':' cs
  let (tail, _, cs) := groups (7 - head.length) true cs
  let zeros := List.replicate (8 - head.length - tail.length) 0
  return (← ofGroups (head ++ zeros ++ tail), cs)

/-- A colon and a port. -/
def portAfter (cs : List Char) : Option (UInt16 × List Char) := do
  let (value, rest) ← number 10 none 65535 (← after ':' cs)
  return (value.toUInt16, rest)

/-- A percent sign and a scope, or nothing. -/
def scopeAt (cs : List Char) : UInt32 × List Char :=
  match (after '%' cs).bind (number 10 none 4294967295) with
  | some (value, rest) => (value.toUInt32, rest)
  | none => (0, cs)

/-- An IPv4 address with a port. -/
def socket4 (cs : List Char) : Option (SocketAddress × List Char) := do
  let (host, cs) ← host4 cs
  let (port, cs) ← portAfter cs
  return (.v4 host port, cs)

/-- An IPv6 address in brackets with a port. -/
def socket6 (cs : List Char) : Option (SocketAddress × List Char) := do
  let (host, cs) ← host6 (← after '[' cs)
  let (scope, cs) := scopeAt cs
  let (port, cs) ← portAfter (← after ']' cs)
  return (.v6 host scope port, cs)

/-- Reads an address; the whole text has to be used up. -/
def parse? (s : String) : Option SocketAddress :=
  match (socket4 s.toList).orElse fun _ => socket6 s.toList with
  | some (address, []) => some address
  | _ => none

/-- The wording for a text that is no address. -/
def refusal : String := "invalid socket address syntax"

end ChassisRegistry.SocketAddress
