import ChassisRegistry.Decimal.Digits
import ChassisRegistry.Toml.Read

/-! # TOML texts

    A text stands between quotes of one of two kinds. Between double quotes a
    backslash escapes; between single ones every character stands for itself.
    Between three quotes a text may go over several lines, whose ends it keeps
    as they are written: a line end right behind the opening quotes does not
    count, a backslash at the end of a line joins it with what follows the
    blanks, and up to two quotes may stand right before the closing ones. -/

namespace ChassisRegistry.Toml

/-- Between which quotes a text stands. -/
structure Quoting where
  quote   : Char
  escapes : Bool
  lines   : Bool

namespace Quoting

/-- How many quotes close a text. -/
def width (q : Quoting) : Nat := if q.lines then 3 else 1

/-- How many of the quotes at the front belong to the text, if it ends with them. -/
def spare? (q : Quoting) (cs : List Char) : Option Nat :=
  let quotes := (cs.takeWhile (· == q.quote)).length
  if quotes < q.width then none
  else some (if q.lines then min quotes 5 - 3 else 0)

/-- May the character stand for itself? -/
def holds (q : Quoting) (c : Char) : Bool :=
  if c == '\n' || c == '\r' then q.lines else !isControl c

/-- What is joined with a line that ends in the backslash before `cs`. -/
def joined? (q : Quoting) (cs : List Char) : Option (List Char) :=
  match blanks cs with
  | '\n' :: rest =>
      if q.lines then some (rest.dropWhile fun c => isBlank c || c == '\n') else none
  | _ => none

theorem length_joined_le {q : Quoting} {cs after : List Char} (h : q.joined? cs = some after) :
    after.length ≤ cs.length := by
  unfold joined? at h
  split at h
  · next rest front =>
    split at h
    · cases h
      have := length_blanks_le cs
      have := length_dropWhile_le (fun c => isBlank c || c == '\n') rest
      simp only [front, List.length_cons] at *
      omega
    · cases h
  · cases h

end Quoting

/-! ## Escapes -/

/-- The character that a backslash and this character stand for. -/
def shortEscape : Char → Option Char
  | 'b'  => some '\x08'
  | 't'  => some '\t'
  | 'n'  => some '\n'
  | 'f'  => some '\x0c'
  | 'r'  => some '\r'
  | 'e'  => some '\x1b'
  | '"'  => some '"'
  | '\\' => some '\\'
  | _    => none

/-- How many digits of a code point follow a backslash and this character. -/
def codeWidth : Char → Option Nat
  | 'x' => some 2
  | 'u' => some 4
  | 'U' => some 8
  | _   => none

/-- The character whose code point some hexadecimal digits write. -/
def coded (width : Nat) (digits : List Char) : Option Char :=
  let n := Decimal.ofDigits 16 digits
  if digits.length = width ∧ digits.all (Decimal.isDigit 16) ∧ n.isValidChar then
    some (Char.ofNat n)
  else none

/-- The character of an escape without its backslash, and how many characters the escape takes. -/
def escape? : List Char → Option (Char × Nat)
  | [] => none
  | c :: rest =>
      match shortEscape c, codeWidth c with
      | some d, _ => some (d, 1)
      | none, some width => (coded width (rest.take width)).map fun d => (d, width + 1)
      | none, none => none

/-! ## Reading -/

/-- Reads on to the end of a text; `done` holds its characters so far, the last one first. -/
def textBody {start : List Char} (q : Quoting) (done : List Char) (cs : List Char)
    (h : cs.length < start.length) : Option (Read String start) :=
  match cs with
  | [] => none
  | c :: rest =>
      have next : rest.length < start.length := Nat.lt_of_succ_lt h
      match q.spare? (c :: rest) with
      | some spare =>
          some ⟨String.ofList (List.replicate spare q.quote ++ done).reverse,
            (c :: rest).drop (spare + q.width), by
              rw [List.length_drop]
              exact Nat.lt_of_le_of_lt (Nat.sub_le _ _) h⟩
      | none =>
          if c = '\\' ∧ q.escapes then
            -- A backslash at the end of a line is no escape.
            match folded : q.joined? rest with
            | some after =>
                have := Quoting.length_joined_le folded
                textBody q done after (by omega)
            | none =>
                match escape? rest with
                | some (d, taken) =>
                    textBody q (d :: done) (rest.drop taken) (by rw [List.length_drop]; omega)
                | none => none
          else if q.holds c then textBody q (c :: done) rest next
          else none
termination_by cs.length
decreasing_by all_goals simp only [List.length_drop, List.length_cons]; omega

/-- Reads a text of one line. -/
def lineText? (cs : List Char) : Option (Read String cs) :=
  match cs with
  | '"' :: rest => textBody ⟨'"', true, false⟩ [] rest (Nat.lt_succ_self _)
  | '\'' :: rest => textBody ⟨'\'', false, false⟩ [] rest (Nat.lt_succ_self _)
  | _ => none

/-- The row without the line end at its front. -/
def afterBreak : List Char → List Char
  | '\r' :: '\n' :: rest => rest
  | '\n' :: rest => rest
  | cs => cs

theorem length_afterBreak_le (cs : List Char) : (afterBreak cs).length ≤ cs.length := by
  unfold afterBreak
  split
  · exact Nat.le_add_right _ 2
  · exact Nat.le_succ _
  · exact Nat.le_refl _

/-- Reads a text. -/
def text? (cs : List Char) : Option (Read String cs) :=
  match cs with
  | '"' :: '"' :: '"' :: rest =>
      textBody ⟨'"', true, true⟩ [] (afterBreak rest) (by
        have := length_afterBreak_le rest
        simp only [List.length_cons]
        omega)
  | '\'' :: '\'' :: '\'' :: rest =>
      textBody ⟨'\'', false, true⟩ [] (afterBreak rest) (by
        have := length_afterBreak_le rest
        simp only [List.length_cons]
        omega)
  | cs => lineText? cs

end ChassisRegistry.Toml
