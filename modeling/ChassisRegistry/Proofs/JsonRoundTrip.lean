import ChassisRegistry.Json.Reader
import ChassisRegistry.Json.Writer
import ChassisRegistry.Proofs.Digits

/-! # JSON read back

    The reader takes one character at a time, so what it makes of a written
    value is said together with what follows: reading the value and then the
    rest is putting the value into the outline and reading the rest. A number
    is only complete when something else begins, which is why the rest must
    not go on with a numeric character.

    Main statement: a value without floating point numbers whose whole numbers
    fit 64 bits and which is not nested deeper than the reader goes is read
    back from its compact form (`read?_write`). -/

namespace ChassisRegistry.Json

/-! ## Section 1: Numbers -/

theorem le_nine_of_isDigit {c : Char} (h : Decimal.isDigit 10 c = true) :
    ('0' ≤ c && c ≤ '9') = true := by
  unfold Decimal.isDigit Decimal.digitValue at h
  by_cases hc : '0' ≤ c ∧ c ≤ '9'
  · simp [hc]
  · rw [if_neg hc] at h
    split at h
    · next d hd =>
      have hlt : d < 10 := of_decide_eq_true h
      split at hd
      · cases hd
        omega
      · split at hd
        · cases hd
          omega
        · cases hd
    · cases h

theorem isNumeric_of_isDigit {c : Char} (h : Decimal.isDigit 10 c = true) :
    Reader.isNumeric c = true := by
  simp only [Reader.isNumeric, le_nine_of_isDigit h, Bool.true_or]

theorem ne_minus_of_isDigit {c : Char} (h : Decimal.isDigit 10 c = true) : c ≠ '-' := by
  rintro rfl
  exact absurd h (by decide)

/-- The digits of a whole number, with a minus sign in front or not. -/
theorem parse?_digits {ds : List Char} (hne : ds ≠ [])
    (hds : ∀ c ∈ ds, Decimal.isDigit 10 c = true)
    (hzero : ¬ (ds.head? = some '0' ∧ 1 < ds.length)) :
    NumberText.parse? ds = some ⟨false, ds, [], 0, true⟩ ∧
      NumberText.parse? ('-' :: ds) = some ⟨true, ds, [], 0, true⟩ := by
  have hspan : Decimal.span 10 (ds ++ []) = (ds, []) := Decimal.span_digits hds (by simp)
  rw [List.append_nil] at hspan
  have hsome : someDigits ds = some (ds, []) := by
    cases ds with
    | nil => exact absurd rfl hne
    | cons d more =>
      simp only [someDigits, hspan]
      rfl
  constructor
  · rw [NumberText.parse?]
    · simp [hsome, hzero]
    · rintro rest rfl
      exact ne_minus_of_isDigit (hds '-' List.mem_cons_self) rfl
  · rw [NumberText.parse?]
    simp [hsome, hzero]

/-- Whole numbers that fit 64 bits, signed or not. -/
def Fits64 (n : Int) : Prop := -9223372036854775808 ≤ n ∧ n ≤ greatest64

theorem ofNat_spec (n : Nat) :
    Decimal.ofNat n ≠ [] ∧ (∀ c ∈ Decimal.ofNat n, Decimal.isDigit 10 c = true) ∧
      ¬ ((Decimal.ofNat n).head? = some '0' ∧ 1 < (Decimal.ofNat n).length) ∧
      Decimal.ofDigits 10 (Decimal.ofNat n) = n := by
  refine ⟨Nat.toDigits_ne_nil, Decimal.isDigit_of_mem_toDigits (by omega) (by omega) n, ?_,
    Decimal.ofDigits_toDigits (by omega) (by omega) n⟩
  rintro ⟨hhead, hlong⟩
  have hzero := Decimal.head?_toDigits (by omega) n hhead
  rw [hzero] at hlong
  exact absurd hlong (by decide)

/-- A whole number is read back from its digits. -/
theorem number?_writeInteger {n : Int} (h : Fits64 n) :
    number? (writeInteger n []) = some (.integer n) := by
  obtain ⟨hne, hds, hzero, hvalue⟩ := ofNat_spec n.natAbs
  obtain ⟨hplus, hminus⟩ := parse?_digits hne hds hzero
  have hlow := h.1
  have hhigh := h.2
  simp only [greatest64] at hhigh
  by_cases hn : n < 0
  · have hnonzero : n.natAbs ≠ 0 := by omega
    have hsize : n.natAbs ≤ 9223372036854775808 := by omega
    have habs : -(n.natAbs : Int) = n := by omega
    rw [writeInteger, if_pos hn, List.append_nil, number?, hminus, Option.bind_some,
      NumberText.value?, hvalue, if_neg (by simp), if_pos ⟨rfl, rfl, hnonzero, hsize⟩, habs]
  · have hsize : n.natAbs ≤ greatest64 := by
      simp only [greatest64]
      omega
    have habs : (n.natAbs : Int) = n := by omega
    rw [writeInteger, if_neg hn, List.append_nil, number?, hplus, Option.bind_some,
      NumberText.value?, hvalue, if_pos ⟨rfl, by simp, hsize⟩, habs]

/-! ## Section 2: Words, numbers and texts -/

namespace Reader

/-- The value after the characters still to come. -/
def finish (s : Reader) (cs : List Char) : Option Value :=
  (s.run cs).bind result?

theorem finish_cons (s : Reader) (c : Char) (cs : List Char) :
    s.finish (c :: cs) = (s.step c).bind (·.finish cs) := by
  rw [finish, run]
  cases s.step c <;> rfl

/-- The reader between two parts goes on from an outline. -/
def resume (cs : List Char) (o : Outline) : Option Value :=
  finish ⟨.between, o⟩ cs

theorem finish_between (o : Outline) (cs : List Char) : finish ⟨.between, o⟩ cs = resume cs o :=
  rfl

/-- What follows a number must not go on with it. -/
def Ends (cs : List Char) : Prop := ∀ c, cs.head? = some c → isNumeric c = false

theorem ends_nil : Ends [] := by
  intro c hc
  cases hc

theorem ends_cons {c : Char} (h : isNumeric c = false) (cs : List Char) : Ends (c :: cs) := by
  intro d hd
  cases hd
  exact h

variable {o : Outline} {rest : List Char}

theorem finish_number (hrest : Ends rest) (done : List Char) :
    finish ⟨.number done, o⟩ rest = (endNumber o done).bind (resume rest) := by
  -- At the end of the text, or at the next character, which ends the number and is then read again.
  cases rest with
  | nil =>
    show ((endNumber o done).bind fun o => _) = _
    cases endNumber o done <;> rfl
  | cons c cs =>
    have hc := hrest c rfl
    rw [finish_cons, step]
    simp only [hc, Bool.false_eq_true, if_false]
    cases endNumber o done with
    | none => rfl
    | some next =>
      simp only [Option.bind_some]
      rw [← finish_between, finish_cons]
      rfl

theorem finish_numeric {ds : List Char} (hds : ∀ c ∈ ds, isNumeric c = true) (done : List Char) :
    finish ⟨.number done, o⟩ (ds ++ rest) = finish ⟨.number (ds.reverse ++ done), o⟩ rest := by
  induction ds generalizing done with
  | nil => rfl
  | cons d more ih =>
    have hd := hds d List.mem_cons_self
    have hstep : step ⟨.number done, o⟩ d = some ⟨.number (d :: done), o⟩ := by
      simp only [step, hd, if_true]
    rw [List.cons_append, finish_cons, hstep, Option.bind_some,
      ih (fun c hc => hds c (List.mem_cons_of_mem d hc)), List.reverse_cons, List.append_assoc]
    rfl

/-- A digit or a minus sign begins a number. -/
theorem between_of_number {c : Char} (h : c = '-' ∨ ('0' ≤ c && c ≤ '9') = true) :
    between o c = some ⟨.number [c], o⟩ := by
  have hstart : (c == '-' || ('0' ≤ c && c ≤ '9')) = true := by
    rcases h with rfl | h
    · rfl
    · rw [h, Bool.or_true]
  have hspace : isSpace c = false := by
    rw [← Bool.not_eq_true]
    intro hs
    simp only [isSpace, Bool.or_eq_true, beq_iff_eq] at hs
    rcases hs with ((rfl | rfl) | rfl) | rfl <;> revert h <;> decide
  unfold between
  split
  -- No other character that means something here is a digit or a minus sign.
  all_goals first | (exfalso; revert h; decide) | skip
  rw [hspace]
  simp [hstart]

/-- A whole number, read from between two parts. -/
theorem resume_writeInteger {n : Int} (h : Fits64 n) (hrest : Ends rest) :
    resume (writeInteger n rest) o = (o.value (.integer n)).bind (resume rest) := by
  have hread := number?_writeInteger h
  obtain ⟨hne, hds, _⟩ := ofNat_spec n.natAbs
  have hnumeric : ∀ c ∈ Decimal.ofNat n.natAbs, isNumeric c = true :=
    fun c hc => isNumeric_of_isDigit (hds c hc)
  have hend : ∀ cs, number? cs = some (.integer n) →
      endNumber o cs.reverse = o.value (.integer n) := by
    intro cs hcs
    rw [endNumber, List.reverse_reverse, hcs]
    rfl
  rw [resume]
  -- Either way the first character begins the number and the others go on with it.
  by_cases hn : n < 0
  · rw [writeInteger, if_pos hn] at hread ⊢
    rw [List.cons_append, finish_cons]
    show (between o '-').bind _ = _
    rw [between_of_number (.inl rfl), Option.bind_some, finish_numeric hnumeric,
      finish_number hrest, ← hend _ hread, List.append_nil, List.reverse_cons]
  · rw [writeInteger, if_neg hn] at hread ⊢
    obtain ⟨d, ds, hcons⟩ := List.exists_cons_of_ne_nil hne
    have hd := le_nine_of_isDigit (hds d (by rw [hcons]; exact List.mem_cons_self))
    rw [hcons] at hread hnumeric ⊢
    rw [List.cons_append, finish_cons]
    show (between o d).bind _ = _
    rw [between_of_number (.inr hd), Option.bind_some,
      finish_numeric fun c hc => hnumeric c (List.mem_cons_of_mem d hc),
      finish_number hrest, ← hend _ hread, List.append_nil, List.reverse_cons]

theorem finish_word (letters : List Char) (last : Char) (v : Value) :
    finish ⟨.word (letters ++ [last]) v, o⟩ (letters ++ last :: rest) =
      (o.value v).bind (resume rest) := by
  induction letters with
  | nil =>
    rw [List.nil_append, List.nil_append, finish_cons]
    simp only [step, if_true]
    cases o.value v <;> rfl
  | cons c more ih =>
    have hstep : step ⟨.word (c :: (more ++ [last])) v, o⟩ c =
        some ⟨.word (more ++ [last]) v, o⟩ := by
      cases more <;> simp [step]
    rw [List.cons_append, List.cons_append, finish_cons, hstep]
    exact ih

theorem resume_null : resume (Value.null.write rest) o = (o.value .null).bind (resume rest) :=
  finish_word ['u', 'l'] 'l' .null

theorem resume_boolean (b : Bool) :
    resume ((Value.boolean b).write rest) o = (o.value (.boolean b)).bind (resume rest) := by
  cases b with
  | true => exact finish_word ['r', 'u'] 'e' (.boolean true)
  | false => exact finish_word ['a', 'l', 's'] 'e' (.boolean false)

/-! ## Section 3: Texts -/

/-- A control character is written by the number of its code unit. -/
theorem finish_unit {c : Char} (h : c.toNat < 0x20) (done : List Char) :
    finish ⟨.text done, o⟩ (['\\', 'u', '0', '0', Nat.digitChar (c.toNat / 16),
      Nat.digitChar (c.toNat % 16)] ++ rest) = finish ⟨.text (c :: done), o⟩ rest := by
  have hhigh := Decimal.digitValue_digitChar (show c.toNat / 16 < 16 by omega)
  have hlow := Decimal.digitValue_digitChar (show c.toNat % 16 < 16 by omega)
  have hzero : Decimal.digitValue '0' = some 0 := by decide
  have hchar : endUnit done (c.toNat / 16 * 16 + c.toNat % 16) none =
      some (.text (c :: done)) := by
    have hn : c.toNat / 16 * 16 + c.toNat % 16 = c.toNat := by omega
    rw [hn]
    simp only [endUnit]
    rw [if_neg (by omega), if_neg (by omega), Char.ofNat_toNat]
  -- The mark, the `u` and the four digits, one step each.
  have hmark : step ⟨.text done, o⟩ '\\' = some ⟨.escape done, o⟩ := rfl
  have hu : step ⟨.escape done, o⟩ 'u' = some ⟨.unit done 4 0 none, o⟩ := rfl
  have h1 : step ⟨.unit done 4 0 none, o⟩ '0' = some ⟨.unit done 3 0 none, o⟩ := by
    simp [step, hzero]
  have h2 : step ⟨.unit done 3 0 none, o⟩ '0' = some ⟨.unit done 2 0 none, o⟩ := by
    simp [step, hzero]
  have h3 : step ⟨.unit done 2 0 none, o⟩ (Nat.digitChar (c.toNat / 16)) =
      some ⟨.unit done 1 (c.toNat / 16) none, o⟩ := by
    simp [step, hhigh]
  have h4 : step ⟨.unit done 1 (c.toNat / 16) none, o⟩ (Nat.digitChar (c.toNat % 16)) =
      some ⟨.text (c :: done), o⟩ := by
    simp [step, hlow, hchar]
  simp only [List.cons_append, List.nil_append, finish_cons, hmark, hu, h1, h2, h3, h4,
    Option.bind_some]

/-- A character is read back from its escaped form. -/
theorem finish_escaped (c : Char) (done : List Char) :
    finish ⟨.text done, o⟩ (escaped c ++ rest) = finish ⟨.text (c :: done), o⟩ rest := by
  unfold escaped
  split
  -- The seven characters with an escape of their own.
  iterate 7 rfl
  split
  · next hcontrol => exact finish_unit hcontrol done
  · next hquote hslash _ _ _ _ _ hcontrol =>
    have hstep : step ⟨.text done, o⟩ c = some ⟨.text (c :: done), o⟩ := by
      simp only [step, if_neg hquote, if_neg hslash, if_neg hcontrol]
    rw [List.singleton_append, finish_cons, hstep]
    rfl

theorem finish_writeChars (cs done : List Char) :
    finish ⟨.text done, o⟩ (writeChars cs rest) =
      finish ⟨.text (cs.reverse ++ done), o⟩ rest := by
  induction cs generalizing done with
  | nil => rfl
  | cons c more ih =>
    rw [writeChars, finish_escaped, ih, List.reverse_cons, List.append_assoc]
    rfl

/-- A text, as a key or as a value. -/
theorem resume_writeText (s : String) :
    resume (writeText s rest) o = (o.text s).bind (resume rest) := by
  have hopen : between o '"' = some ⟨.text [], o⟩ := rfl
  rw [resume, writeText, finish_cons]
  show (between o '"').bind _ = _
  rw [hopen, Option.bind_some, finish_writeChars, finish_cons]
  have hclose : step ⟨.text (s.toList.reverse ++ []), o⟩ '"' =
      (o.text s).map (⟨.between, ·⟩) := by
    simp only [step, if_true, List.append_nil, List.reverse_reverse, String.ofList_toList]
  rw [hclose]
  cases o.text s <;> rfl

end Reader

/-! ## Section 4: Arrays and objects -/

/-- A value that the reader takes: no floating point numbers, whole numbers that fit 64 bits, and
    at most `depth` arrays and objects around one another. -/
inductive Value.Readable : Nat → Value → Prop where
  | null {depth : Nat} : Readable depth .null
  | boolean {depth : Nat} (b : Bool) : Readable depth (.boolean b)
  | integer {depth : Nat} {n : Int} (hn : Fits64 n) : Readable depth (.integer n)
  | text {depth : Nat} (s : String) : Readable depth (.text s)
  | sequence {depth : Nat} {items : List Value} (hitems : ∀ v ∈ items, Readable depth v) :
      Readable (depth + 1) (.sequence items)
  | object {depth : Nat} {members : List (String × Value)}
      (hmembers : ∀ m ∈ members, Readable depth m.2) : Readable (depth + 1) (.object members)

namespace Reader

open Outline (add greatestDepth)

/-- Wherever a value may come, reading it from its written form is putting it there. -/
def TakenBack (depth : Nat) (v : Value) : Prop :=
  ∀ (opened : List Frame) (place : Place) (rest : List Char),
    place = .value ∨ place = .firstItem → opened.length + depth ≤ greatestDepth → Ends rest →
    resume (v.write rest) ⟨opened, place⟩ = (add v opened).bind (resume rest)

theorem value_of_place {opened : List Frame} {place : Place}
    (hplace : place = .value ∨ place = .firstItem) (v : Value) :
    Outline.value ⟨opened, place⟩ v = add v opened := by
  rcases hplace with rfl | rfl <;> rfl

theorem resume_cons (c : Char) (cs : List Char) (o : Outline) :
    resume (c :: cs) o = (between o c).bind (·.finish cs) := by
  rw [resume, finish_cons]
  rfl

variable {depth : Nat} {opened : List Frame} {place : Place} {rest : List Char}

/-- The end of an array or object. -/
theorem resume_close {c : Char} {o : Outline} {closed : Option Outline}
    (h : between o c = closed.map (⟨.between, ·⟩)) :
    resume (c :: rest) o = closed.bind (resume rest) := by
  rw [resume_cons, h]
  cases closed <;> rfl

/-- The items of an array that is open, and its end. -/
theorem resume_writeItems {items : List Value} (hitems : ∀ v ∈ items, TakenBack depth v)
    (hne : items ≠ []) (hplace : place = .value ∨ place = .firstItem)
    (hdepth : opened.length + 1 + depth ≤ greatestDepth) (done : List Value) :
    resume (writeItems items (']' :: rest)) ⟨.items done :: opened, place⟩ =
      (add (.sequence (done.reverse ++ items)) opened).bind (resume rest) := by
  -- On the items still to be read, with those that were read before in `done`.
  induction items generalizing done place with
  | nil => exact absurd rfl hne
  | cons v more ih =>
    have hv := hitems v List.mem_cons_self
    have hopened : (Frame.items done :: opened).length + depth ≤ greatestDepth := hdepth
    cases more with
    | nil =>
      rw [writeItems, hv _ _ _ hplace hopened (ends_cons (by decide) _), add, Option.bind_some,
        ← List.reverse_cons]
      exact resume_close rfl
    | cons w more =>
      rw [writeItems, hv _ _ _ hplace hopened (ends_cons (by decide) _), add, Option.bind_some,
        resume_cons]
      have hcomma : between ⟨.items (v :: done) :: opened, .separator⟩ ',' =
          some ⟨.between, ⟨.items (v :: done) :: opened, .value⟩⟩ := rfl
      -- After the comma a value has to follow; only in front of the first item the array may end.
      have hrest := ih (fun x hx => hitems x (List.mem_cons_of_mem v hx)) (List.cons_ne_nil _ _)
        (.inl rfl) (v :: done)
      rw [List.reverse_cons, List.append_assoc] at hrest
      rw [hcomma, Option.bind_some]
      exact hrest

/-- The members of an object that is open, and its end. -/
theorem resume_writeMembers {members : List (String × Value)}
    (hmembers : ∀ m ∈ members, TakenBack depth m.2) (hne : members ≠ [])
    (hplace : place = .key ∨ place = .firstKey)
    (hdepth : opened.length + 1 + depth ≤ greatestDepth) (done : List (String × Value)) :
    resume (writeMembers members ('}' :: rest)) ⟨.members done :: opened, place⟩ =
      (add (.object (done.reverse ++ members)) opened).bind (resume rest) := by
  induction members generalizing done place with
  | nil => exact absurd rfl hne
  | cons m more ih =>
    obtain ⟨key, v⟩ := m
    have hv : TakenBack depth v := hmembers (key, v) List.mem_cons_self
    have hopened : (Frame.member done key :: opened).length + depth ≤ greatestDepth := hdepth
    -- A member is its key, a colon and its value; the key opens no frame.
    have htext : Outline.text ⟨.members done :: opened, place⟩ key =
        some ⟨.members done :: opened, .colon key⟩ := by
      rcases hplace with rfl | rfl <;> rfl
    have hcolon : between ⟨.members done :: opened, .colon key⟩ ':' =
        some ⟨.between, ⟨.member done key :: opened, .value⟩⟩ := rfl
    cases more with
    | nil =>
      rw [writeMembers, resume_writeText, htext, Option.bind_some, resume_cons, hcolon,
        Option.bind_some, finish_between, hv _ _ _ (.inl rfl) hopened (ends_cons (by decide) _),
        add, Option.bind_some, ← List.reverse_cons]
      exact resume_close rfl
    | cons next more =>
      rw [writeMembers, resume_writeText, htext, Option.bind_some, resume_cons, hcolon,
        Option.bind_some, finish_between, hv _ _ _ (.inl rfl) hopened (ends_cons (by decide) _),
        add, Option.bind_some, resume_cons]
      have hcomma : between ⟨.members ((key, v) :: done) :: opened, .separator⟩ ',' =
          some ⟨.between, ⟨.members ((key, v) :: done) :: opened, .key⟩⟩ := rfl
      have hrest := ih (fun x hx => hmembers x (List.mem_cons_of_mem _ hx)) (List.cons_ne_nil _ _)
        (.inl rfl) ((key, v) :: done)
      rw [List.reverse_cons, List.append_assoc] at hrest
      rw [hcomma, Option.bind_some]
      exact hrest

/-- The induction is on the nesting of the value; arrays and objects that are empty end at once. -/
theorem takenBack_of_readable {v : Value} (h : v.Readable depth) : TakenBack depth v := by
  induction h with
  | null =>
    intro opened place rest hplace _ _
    rw [resume_null, value_of_place hplace]
  | boolean b =>
    intro opened place rest hplace _ _
    rw [resume_boolean, value_of_place hplace]
  | integer hn =>
    intro opened place rest hplace _ hrest
    rw [Value.write, resume_writeInteger hn hrest, value_of_place hplace]
  | text s =>
    intro opened place rest hplace _ _
    rw [Value.write, resume_writeText]
    rcases hplace with rfl | rfl <;> rfl
  | @sequence depth items _ ih =>
    intro opened place rest hplace hdepth _
    -- The depth that is left leaves room for one more frame.
    have hroom : opened.length < greatestDepth := by omega
    have henter : between ⟨opened, place⟩ '[' =
        some ⟨.between, ⟨.items [] :: opened, .firstItem⟩⟩ := by
      rcases hplace with rfl | rfl <;> simp [between, Outline.enter, hroom]
    rw [Value.write, resume_cons, henter, Option.bind_some, finish_between]
    cases items with
    | nil => exact resume_close rfl
    | cons v more => exact resume_writeItems ih (List.cons_ne_nil _ _) (.inr rfl) (by omega) []
  | @object depth members _ ih =>
    intro opened place rest hplace hdepth _
    have hroom : opened.length < greatestDepth := by omega
    have henter : between ⟨opened, place⟩ '{' =
        some ⟨.between, ⟨.members [] :: opened, .firstKey⟩⟩ := by
      rcases hplace with rfl | rfl <;> simp [between, Outline.enter, hroom]
    rw [Value.write, resume_cons, henter, Option.bind_some, finish_between]
    cases members with
    | nil => exact resume_close rfl
    | cons m more => exact resume_writeMembers ih (List.cons_ne_nil _ _) (.inr rfl) (by omega) []

end Reader

/-- **JSON round trip**: a value that the reader takes is read back from its compact form. -/
theorem read?_write {v : Value} (h : v.Readable Outline.greatestDepth) :
    read? (v.write []) = some v := by
  have hback := Reader.takenBack_of_readable h [] .value [] (.inl rfl) (by simp) Reader.ends_nil
  exact hback

theorem ofBytes?_compact {v : Value} (h : v.Readable Outline.greatestDepth) :
    ofBytes? v.compact.toUTF8 = some v := by
  have hutf8 : String.fromUTF8? v.compact.toUTF8 = some v.compact :=
    dif_pos v.compact.isValidUTF8
  rw [ofBytes?, hutf8, Option.bind_some, Value.compact, String.toList_ofList, read?_write h]

end ChassisRegistry.Json
