/-! # Text from arbitrary bytes

    Bytes as text, whether or not they are valid UTF-8. What is not is shown
    by a replacement character: one for each longest piece that could have
    begun a character, and one for each byte that could not. -/

namespace ChassisRegistry.Text.Lossy

/-- Stands for what is no text. -/
def replacement : Char := '\ufffd'

/-- A character that has begun: how many bytes are to come, between which bounds the next of them
    has to be, and the bits so far. -/
structure Begun where
  left : Nat
  low  : Nat
  high : Nat
  bits : Nat

/-- The character that a leading byte of more than one byte begins. -/
def lead? (b : Nat) : Option Begun :=
  if 0xc2 ≤ b ∧ b ≤ 0xdf then some ⟨1, 0x80, 0xbf, b - 0xc0⟩
  else if b = 0xe0 then some ⟨2, 0xa0, 0xbf, 0⟩
  else if b = 0xed then some ⟨2, 0x80, 0x9f, 0xd⟩
  else if 0xe1 ≤ b ∧ b ≤ 0xef then some ⟨2, 0x80, 0xbf, b - 0xe0⟩
  else if b = 0xf0 then some ⟨3, 0x90, 0xbf, 0⟩
  else if 0xf1 ≤ b ∧ b ≤ 0xf3 then some ⟨3, 0x80, 0xbf, b - 0xf0⟩
  else if b = 0xf4 then some ⟨3, 0x80, 0x8f, 4⟩
  else none

/-- A byte where a character begins: what can be shown at once, and what has begun. -/
def first (b : Nat) : List Char × Option Begun :=
  if b < 0x80 then ([Char.ofNat b], none)
  else
    match lead? b with
    | some begun => ([], some begun)
    | none => ([replacement], none)

/-- A byte inside a character. -/
def next (begun : Begun) (b : Nat) : List Char × Option Begun :=
  if begun.low ≤ b ∧ b ≤ begun.high then
    let bits := begun.bits * 64 + (b - 0x80)
    if begun.left ≤ 1 then ([Char.ofNat bits], none)
    else ([], some ⟨begun.left - 1, 0x80, 0xbf, bits⟩)
  else
    let (shown, state) := first b
    (replacement :: shown, state)

/-- The characters of the bytes behind what has begun. -/
def characters : Option Begun → List UInt8 → List Char
  | none, [] => []
  | some _, [] => [replacement]
  | state, b :: rest =>
      let (shown, state) := match state with
        | none => first b.toNat
        | some begun => next begun b.toNat
      shown ++ characters state rest

/-- The bytes as text. -/
def text (bytes : List UInt8) : String := String.ofList (characters none bytes)

end ChassisRegistry.Text.Lossy
