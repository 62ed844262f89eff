import ChassisRegistry.Json.Number

/-! # Reading JSON

    The reader is a machine that takes one character at a time. One half of
    its state tells where it stands inside a word, a number or a text; the
    other half holds the arrays and objects that are still open, innermost
    first, and what may come next. It stops at the first character that no
    value can have there. At most 127 arrays and objects may be open. -/

namespace ChassisRegistry.Json

/-! ## Arrays and objects -/

/-- An array or object that is still open, its last entry first. -/
inductive Frame where
  | items (done : List Value)
  | members (done : List (String × Value))
  /-- An object that waits for the value of a key. -/
  | member (done : List (String × Value)) (key : String)

/-- What may come next. -/
inductive Place where
  | value
  /-- A value, or the end of an array without items. -/
  | firstItem
  | key
  /-- A key, or the end of an object without members. -/
  | firstKey
  | colon (key : String)
  /-- A comma, or the end of the innermost array or object. -/
  | separator
  /-- Nothing: the value is complete. -/
  | finished (v : Value)

/-- What is open, and what may come next. -/
structure Outline where
  opened : List Frame
  place : Place

namespace Outline

/-- Nothing read yet. -/
def start : Outline := ⟨[], .value⟩

/-- How many arrays and objects may be open. -/
def greatestDepth : Nat := 127

/-- A complete value goes into the innermost open array or object. -/
def add (v : Value) : List Frame → Option Outline
  | [] => some ⟨[], .finished v⟩
  | .items done :: outer => some ⟨.items (v :: done) :: outer, .separator⟩
  | .member done key :: outer => some ⟨.members ((key, v) :: done) :: outer, .separator⟩
  | .members _ :: _ => none

/-- A value, where one may come. -/
def value (s : Outline) (v : Value) : Option Outline :=
  match s.place with
  | .value | .firstItem => add v s.opened
  | _ => none

/-- A text, which is a key where a key may come. -/
def text (s : Outline) (t : String) : Option Outline :=
  match s.place with
  | .key | .firstKey => some { s with place := .colon t }
  | _ => s.value (.text t)

/-- The start of an array or object. -/
def enter (s : Outline) (frame : Frame) (place : Place) : Option Outline :=
  match s.place with
  | .value | .firstItem =>
      if s.opened.length < greatestDepth then some ⟨frame :: s.opened, place⟩ else none
  | _ => none

/-- The end of an array. -/
def closeItems (s : Outline) : Option Outline :=
  match s.place, s.opened with
  | .firstItem, .items done :: outer => add (.sequence done.reverse) outer
  | .separator, .items done :: outer => add (.sequence done.reverse) outer
  | _, _ => none

/-- The end of an object. -/
def closeMembers (s : Outline) : Option Outline :=
  match s.place, s.opened with
  | .firstKey, .members done :: outer => add (.object done.reverse) outer
  | .separator, .members done :: outer => add (.object done.reverse) outer
  | _, _ => none

/-- A comma. -/
def comma (s : Outline) : Option Outline :=
  match s.place, s.opened with
  | .separator, .items _ :: _ => some { s with place := .value }
  | .separator, .members _ :: _ => some { s with place := .key }
  | _, _ => none

/-- A colon. -/
def colon (s : Outline) : Option Outline :=
  match s.place, s.opened with
  | .colon key, .members done :: outer => some ⟨.member done key :: outer, .value⟩
  | _, _ => none

end Outline

/-! ## Words, numbers and texts -/

/-- Where the reader stands inside a word, a number or a text. Characters already read are kept last
    first. -/
inductive Lexeme where
  | between
  /-- In a word, with the letters still to come and the value it stands for. -/
  | word (rest : List Char) (v : Value)
  | number (done : List Char)
  | text (done : List Char)
  /-- After a backslash. -/
  | escape (done : List Char)
  /-- In an escaped code unit: digits still to come, what they make so far, and the first half of a
      pair if this is the second. -/
  | unit (done : List Char) (left n : Nat) (high : Option Nat)
  /-- After the first half of a pair; a backslash has to come. -/
  | pair (done : List Char) (high : Nat)
  /-- After the first half of a pair and a backslash. -/
  | pairMark (done : List Char) (high : Nat)

/-- The reader's state. -/
structure Reader where
  lexeme  : Lexeme
  outline : Outline

namespace Reader

/-- Nothing read yet. -/
def start : Reader := ⟨.between, .start⟩

/-- White space between the parts of a value. -/
def isSpace (c : Char) : Bool :=
  c == ' ' || c == '\n' || c == '\t' || c == '\r'

/-- A character that numbers are made of. -/
def isNumeric (c : Char) : Bool :=
  ('0' ≤ c && c ≤ '9') || c == '-' || c == '+' || c == '.' || c == 'e' || c == 'E'

/-- A character between words, numbers and texts. -/
def between (o : Outline) (c : Char) : Option Reader :=
  match c with
  | '[' => (o.enter (.items []) .firstItem).map (⟨.between, ·⟩)
  | ']' => o.closeItems.map (⟨.between, ·⟩)
  | '{' => (o.enter (.members []) .firstKey).map (⟨.between, ·⟩)
  | '}' => o.closeMembers.map (⟨.between, ·⟩)
  | ',' => o.comma.map (⟨.between, ·⟩)
  | ':' => o.colon.map (⟨.between, ·⟩)
  | '"' => some ⟨.text [], o⟩
  | 'n' => some ⟨.word ['u', 'l', 'l'] .null, o⟩
  | 't' => some ⟨.word ['r', 'u', 'e'] (.boolean true), o⟩
  | 'f' => some ⟨.word ['a', 'l', 's', 'e'] (.boolean false), o⟩
  | c =>
      if isSpace c then some ⟨.between, o⟩
      else if c == '-' || ('0' ≤ c && c ≤ '9') then some ⟨.number [c], o⟩
      else none

/-- The outline after a number. -/
def endNumber (o : Outline) (done : List Char) : Option Outline := do
  o.value (← number? done.reverse)

/-- The character of a pair of code units. -/
def paired (high low : Nat) : Char :=
  Char.ofNat (0x10000 + (high - 0xD800) * 0x400 + (low - 0xDC00))

/-- The text after an escaped code unit. A unit that is half of a pair needs the other half. -/
def endUnit (done : List Char) (n : Nat) (high : Option Nat) : Option Lexeme :=
  match high with
  | some h => if 0xDC00 ≤ n ∧ n ≤ 0xDFFF then some (.text (paired h n :: done)) else none
  | none =>
      if 0xD800 ≤ n ∧ n ≤ 0xDBFF then some (.pair done n)
      else if 0xDC00 ≤ n ∧ n ≤ 0xDFFF then none
      else some (.text (Char.ofNat n :: done))

/-- The text after a backslash and the character `c`. -/
def endEscape (done : List Char) (c : Char) : Option Lexeme :=
  match c with
  | '"'  => some (.text ('"' :: done))
  | '\\' => some (.text ('\\' :: done))
  | '/'  => some (.text ('/' :: done))
  | 'b'  => some (.text ('\x08' :: done))
  | 'f'  => some (.text ('\x0c' :: done))
  | 'n'  => some (.text ('\n' :: done))
  | 'r'  => some (.text ('\r' :: done))
  | 't'  => some (.text ('\t' :: done))
  | 'u'  => some (.unit done 4 0 none)
  | _    => none

/-- One character. -/
def step (s : Reader) (c : Char) : Option Reader :=
  match s.lexeme with
  | .between => between s.outline c
  | .word [] _ => none
  | .word [last] v => if c = last then (s.outline.value v).map (⟨.between, ·⟩) else none
  | .word (next :: rest) v => if c = next then some ⟨.word rest v, s.outline⟩ else none
  | .number done =>
      if isNumeric c then some ⟨.number (c :: done), s.outline⟩
      else (endNumber s.outline done).bind (between · c)
  | .text done =>
      if c = '"' then (s.outline.text (String.ofList done.reverse)).map (⟨.between, ·⟩)
      else if c = '\\' then some ⟨.escape done, s.outline⟩
      else if c.toNat < 0x20 then none
      else some ⟨.text (c :: done), s.outline⟩
  | .escape done => (endEscape done c).map (⟨·, s.outline⟩)
  | .unit done left n high =>
      match Decimal.digitValue c with
      | none => none
      | some d =>
          let n := n * 16 + d
          if left ≤ 1 then (endUnit done n high).map (⟨·, s.outline⟩)
          else some ⟨.unit done (left - 1) n high, s.outline⟩
  | .pair done high => if c = '\\' then some ⟨.pairMark done high, s.outline⟩ else none
  | .pairMark done high =>
      if c = 'u' then some ⟨.unit done 4 0 (some high), s.outline⟩ else none

/-- The state after some characters. -/
def run (s : Reader) : List Char → Option Reader
  | [] => some s
  | c :: cs =>
      match s.step c with
      | some next => next.run cs
      | none => none

/-- The value, if it is complete. -/
def result? (s : Reader) : Option Value := do
  let o ← match s.lexeme with
    | .between => some s.outline
    | .number done => endNumber s.outline done
    | _ => none
  match o.place with
  | .finished v => some v
  | _ => none

end Reader

/-- Reads the one value that the characters write. -/
def read? (cs : List Char) : Option Value :=
  (Reader.start.run cs).bind Reader.result?

/-- Reads the one value that the bytes write in UTF-8. -/
def ofBytes? (bytes : ByteArray) : Option Value :=
  (String.fromUTF8? bytes).bind fun s => read? s.toList

end ChassisRegistry.Json
