import ChassisRegistry.Toml.Moment
import ChassisRegistry.Toml.Number
import ChassisRegistry.Toml.Table
import ChassisRegistry.Toml.Text

/-! # Reading TOML

    A document of TOML 1.1 is a row of statements, each on a line of its own:
    headers of tables and entries. Sequences and tables between brackets and
    braces may go over several lines, may end in a comma, and may be nested
    80 deep; a dotted key has up to 80 parts. Lines end in a line feed, or in
    a carriage return and a line feed; a carriage return elsewhere is
    refused. -/

namespace ChassisRegistry.Toml

/-! ## Words -/

/-- A character that words are made of: numbers, truth values and points in time. -/
def isWordChar (c : Char) : Bool :=
  c.isAlphanum || c == '_' || c == '+' || c == '-' || c == '.' || c == ':'

/-- The value of a word. -/
def ofWord? (cs : List Char) : Option Value :=
  if cs = ['t', 'r', 'u', 'e'] then some (.boolean true)
  else if cs = ['f', 'a', 'l', 's', 'e'] then some (.boolean false)
  else
    match integer? cs, real? cs with
    | some n, _ => some (.integer n)
    | none, some x => some (.real x)
    | none, none => if Moment.isMoment cs then some (.moment (String.ofList cs)) else none

/-- The time of day behind a date and a blank, with the blank, if it is there. -/
def timeBehind? (cs : List Char) : Option (Read (List Char) cs) :=
  match cs with
  | ' ' :: rest => do
      let time ← Read.run? isWordChar rest
      match time.value with
      | c :: _ =>
          if Decimal.isDigit 10 c then
            some ((time.map (' ' :: ·)).behind (Nat.le_succ _))
          else none
      | [] => none
  | _ => none

/-- Reads a word. -/
def word? (cs : List Char) : Option (Read (List Char) cs) := do
  let word ← Read.run? isWordChar cs
  -- Only a date may be continued behind a blank.
  if Moment.isDate word.value then
    match timeBehind? word.rest with
    | some time => return (time.map (word.value ++ ·)).behind (Nat.le_of_lt word.shorter)
    | none => return word
  else return word

/-- Reads a text or a word. -/
def simple? (cs : List Char) : Option (Read Value cs) :=
  match text? cs with
  | some text => some (text.map .text)
  | none => do
      let word ← word? cs
      let v ← ofWord? word.value
      return word.map fun _ => v

/-! ## Keys -/

/-- A character of a key without quotes. -/
def isKeyChar (c : Char) : Bool := c.isAlphanum || c == '_' || c == '-'

/-- Reads a key without points. -/
def simpleKey? (cs : List Char) : Option (Read String cs) :=
  match lineText? cs with
  | some text => some text
  | none => (Read.run? isKeyChar cs).map fun run => run.map String.ofList

/-- A key with one more in front. -/
def Key.under (key : String) (k : Key) : Key := ⟨key :: k.way, k.last⟩

/-- Reads a dotted key. -/
def key? (cs : List Char) : Option (Read Key cs) := do
  let first ← simpleKey? cs
  match h : blanks first.rest with
  | '.' :: rest =>
      have bound : (blanks rest).length < cs.length := by
        have := first.shorter
        have := length_blanks_le first.rest
        have := length_blanks_le rest
        simp only [h, List.length_cons] at *
        omega
      let others ← key? (blanks rest)
      return (others.map (·.under first.value)).behind (Nat.le_of_lt bound)
  | _ => return first.map fun key => ⟨[], key⟩
termination_by cs.length

/-- How deep sequences and tables may be nested, and how many parts a key may have. -/
def greatestDepth : Nat := 80

/-- Reads a dotted key that has not too many parts. -/
def shortKey? (cs : List Char) : Option (Read Key cs) :=
  (key? cs).filter fun key => key.value.way.length < greatestDepth

/-- Reads a key, an equals sign and what `value?` reads. -/
def assignment? (lines : Bool) (value? : (cs : List Char) → Option (Read Value cs))
    (cs : List Char) : Option (Read (Key × Value) cs) := do
  let key ← shortKey? cs
  match h : skip lines key.rest with
  | '=' :: rest =>
      let v ← value? (skip lines rest)
      return (v.map fun v => (key.value, v)).behind (by
        have := key.shorter
        have := length_skip_le lines key.rest
        have := length_skip_le lines rest
        simp only [h, List.length_cons] at *
        omega)
  | _ => none

/-! ## Sequences and tables -/

/-- Reads on to the closing bracket of a row of things with commas between them; `done` holds those
    before, the last one first. -/
def untilClosed {α : Type} {start : List Char} (close : Char)
    (item? : (cs : List Char) → Option (Read α cs)) (done : List α) (cs : List Char)
    (h : cs.length < start.length) : Option (Read (List α) start) :=
  have bound := Nat.lt_of_le_of_lt (length_gap_le cs) h
  match front : gap cs with
  | [] => none
  | c :: rest =>
      -- Nothing inside, or a comma before the closing bracket.
      if c = close then
        some ⟨done.reverse, rest, by
          simp only [front, List.length_cons] at bound
          omega⟩
      else do
        let item ← item? (c :: rest)
        match behind : gap item.rest with
        | d :: after =>
            have left : after.length < cs.length := by
              have := item.shorter
              have := length_gap_le item.rest
              have := length_gap_le cs
              simp only [front, behind, List.length_cons] at *
              omega
            have inside : after.length < start.length := Nat.lt_trans left h
            if d = ',' then untilClosed close item? (item.value :: done) after inside
            else if d = close then some ⟨(item.value :: done).reverse, after, inside⟩
            else none
        | [] => none
termination_by cs.length

/-- Reads a value in which sequences and tables are nested up to a depth. -/
def value? : Nat → (cs : List Char) → Option (Read Value cs)
  | 0, cs => simple? cs
  | depth + 1, cs =>
      match cs with
      | '[' :: rest =>
          (untilClosed ']' (value? depth) [] rest (Nat.lt_succ_self _)).map fun items =>
            items.map .sequence
      | '{' :: rest => do
          let entries ← untilClosed '}' (assignment? true (value? depth)) [] rest
            (Nat.lt_succ_self _)
          let table ← tableOf? entries.value
          return entries.map fun _ => table
      | cs => simple? cs

/-! ## Documents -/

/-- Reads a header behind its opening bracket or brackets. -/
def header? (close : List Char) (cs : List Char) : Option (Read Key cs) := do
  let key ← shortKey? (blanks cs)
  if close.isPrefixOf (blanks key.rest) then
    some ⟨key.value, (blanks key.rest).drop close.length, by
      have := key.shorter
      have := length_blanks_le key.rest
      have := length_blanks_le cs
      rw [List.length_drop]
      omega⟩
  else none

/-- Reads a statement. -/
def statement? (cs : List Char) : Option (Read Statement cs) :=
  match cs with
  | '[' :: '[' :: rest =>
      (header? [']', ']'] rest).map fun key =>
        (key.map .row).behind (Nat.le_succ_of_le (Nat.le_succ _))
  | '[' :: rest => (header? [']'] rest).map fun key => (key.map .table).behind (Nat.le_succ _)
  | cs =>
      (assignment? false (value? greatestDepth) cs).map fun entry =>
        entry.map fun e => .entry e.1 e.2

/-- What follows the end of a statement's line. -/
def afterLine? (cs : List Char) : Option (List Char) :=
  match comment (blanks cs) with
  | [] => some []
  | '\n' :: rest => some rest
  | _ => none

theorem length_afterLine_le {cs after : List Char} (h : afterLine? cs = some after) :
    after.length ≤ cs.length := by
  have := length_comment_le (blanks cs)
  have := length_blanks_le cs
  unfold afterLine? at h
  split at h
  · cases h
    exact Nat.zero_le _
  · next front =>
    cases h
    simp only [front, List.length_cons] at *
    omega
  · cases h

/-- Reads statements up to the end; `done` holds those before, the last one first. -/
def statements? (done : List Statement) (cs : List Char) : Option (List Statement) :=
  if (gap cs).isEmpty then some done.reverse
  else do
    let s ← statement? (gap cs)
    match h : afterLine? s.rest with
    | none => none
    | some after =>
        have : after.length < cs.length := by
          have := s.shorter
          have := length_afterLine_le h
          have := length_gap_le cs
          omega
        statements? (s.value :: done) after
termination_by cs.length

/-- Does every carriage return stand before a line feed? -/
def returnsPaired : List Char → Bool
  | [] => true
  | '\r' :: '\n' :: rest => returnsPaired rest
  | '\r' :: _ => false
  | _ :: rest => returnsPaired rest

/-- The row without the mark that some texts begin with. -/
def withoutMark : List Char → List Char
  | '\uFEFF' :: rest => rest
  | cs => cs

/-- The entries of the document that the characters write. -/
def read? (cs : List Char) : Option (List (String × Value)) :=
  if returnsPaired cs then do
    document? (← statements? [] (withoutMark cs))
  else none

end ChassisRegistry.Toml
