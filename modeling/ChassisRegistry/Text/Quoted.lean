import ChassisRegistry.Text.Printable

/-! # Quoted texts

    The form in which an error message shows a text it was given: between
    double quotes, with a backslash before `"` and `\`, short escapes for
    NUL, tab and the two line ends, and the code point in hexadecimal for
    every character that is not printable. -/

namespace ChassisRegistry.Text

/-- A number in hexadecimal, without leading zeros, in small letters. -/
def hexadecimal (n : Nat) : List Char :=
  Nat.toDigits 16 n

/-- One character of a quoted text. -/
def quotedChar (c : Char) : List Char :=
  match c with
  | '"'  => ['\\', '"']
  | '\\' => ['\\', '\\']
  | '\t' => ['\\', 't']
  | '\n' => ['\\', 'n']
  | '\r' => ['\\', 'r']
  | '\x00' => ['\\', '0']
  | c =>
      if isPrintable c then [c]
      else ['\\', 'u', '{'] ++ hexadecimal c.toNat ++ ['}']

/-- The text between double quotes. -/
def quoted (s : String) : String :=
  String.ofList ('"' :: s.toList.flatMap quotedChar ++ ['"'])

end ChassisRegistry.Text
