/-! # Blank characters, trimming and keywords

    A character is blank when Unicode gives it the property `White_Space`.
    Identifiers, host names and serial numbers are read without the blanks
    around them, and keywords also without regard to ASCII case.

    Main statements: a trimmed text has nothing left to trim, and trimming
    leaves nothing exactly of a text made of blanks. -/

namespace ChassisRegistry.Text

/-! ## The property -/

/-- Unicode `White_Space`. -/
def isBlank (c : Char) : Bool :=
  let n := c.toNat
  (0x9 ≤ n && n ≤ 0xD) || n == 0x20 || n == 0x85 || n == 0xA0 || n == 0x1680 ||
    (0x2000 ≤ n && n ≤ 0x200A) || n == 0x2028 || n == 0x2029 || n == 0x202F ||
    n == 0x205F || n == 0x3000

/-! ## Trimming -/

/-- The characters without the blanks at either end. -/
def trimChars (cs : List Char) : List Char :=
  ((cs.dropWhile isBlank).reverse.dropWhile isBlank).reverse

/-- The text without the blanks at either end. -/
def trim (s : String) : String :=
  String.ofList (trimChars s.toList)

@[simp] theorem toList_trim (s : String) : (trim s).toList = trimChars s.toList := by
  simp [trim]

theorem head?_dropWhile_not {α : Type} (p : α → Bool) (xs : List α) :
    ∀ x ∈ (xs.dropWhile p).head?, p x = false := by
  induction xs with
  | nil => simp
  | cons a rest ih =>
    by_cases h : p a = true
    · simpa [List.dropWhile_cons, h] using ih
    · simp [h]

theorem dropWhile_eq_self {α : Type} {p : α → Bool} {xs : List α}
    (h : ∀ x ∈ xs.head?, p x = false) : xs.dropWhile p = xs := by
  cases xs with
  | nil => rfl
  | cons a rest =>
    have : p a = false := h a rfl
    simp [this]

theorem dropWhile_eq_nil {α : Type} {p : α → Bool} {xs : List α} :
    xs.dropWhile p = [] ↔ ∀ x ∈ xs, p x = true := by
  induction xs with
  | nil => simp
  | cons a rest ih =>
    by_cases h : p a = true
    · simp [h, ih]
    · simp [h]

theorem head?_trimChars (cs : List Char) : ∀ c ∈ (trimChars cs).head?, isBlank c = false := by
  intro c hc
  have hmem : (trimChars cs) <+: (cs.dropWhile isBlank) := by
    have hs : ((cs.dropWhile isBlank).reverse.dropWhile isBlank) <:+
        (cs.dropWhile isBlank).reverse := List.dropWhile_suffix _
    simpa [trimChars] using List.reverse_prefix.mpr hs
  obtain ⟨rest, hrest⟩ := hmem
  apply head?_dropWhile_not isBlank cs
  rw [← hrest]
  cases h : trimChars cs with
  | nil => simp [h] at hc
  | cons a tail => simpa [h] using hc

/-- Nothing is left to trim. -/
theorem trimChars_trimChars (cs : List Char) : trimChars (trimChars cs) = trimChars cs := by
  have hfront : (trimChars cs).dropWhile isBlank = trimChars cs :=
    dropWhile_eq_self (head?_trimChars cs)
  have hback : (trimChars cs).reverse.dropWhile isBlank = (trimChars cs).reverse := by
    apply dropWhile_eq_self
    have := head?_dropWhile_not isBlank (cs.dropWhile isBlank).reverse
    simpa [trimChars] using this
  calc trimChars (trimChars cs)
      = (((trimChars cs).dropWhile isBlank).reverse.dropWhile isBlank).reverse := rfl
    _ = ((trimChars cs).reverse.dropWhile isBlank).reverse := by rw [hfront]
    _ = trimChars cs := by rw [hback, List.reverse_reverse]

@[simp] theorem trim_trim (s : String) : trim (trim s) = trim s := by
  apply String.toList_injective
  simp [trimChars_trimChars]

/-- Trimming leaves nothing exactly when every character is blank. -/
theorem trimChars_eq_nil_iff {cs : List Char} : trimChars cs = [] ↔ ∀ c ∈ cs, isBlank c = true := by
  constructor
  · intro h
    have hrev : (cs.dropWhile isBlank).reverse.dropWhile isBlank = [] := by
      simpa [trimChars] using h
    have hall : ∀ c ∈ cs.dropWhile isBlank, isBlank c = true := by
      simpa [dropWhile_eq_nil] using hrev
    have hnil : cs.dropWhile isBlank = [] := by
      cases hd : cs.dropWhile isBlank with
      | nil => rfl
      | cons a rest =>
        have hfalse := head?_dropWhile_not isBlank cs a (by simp [hd])
        have htrue := hall a (by simp [hd])
        simp [hfalse] at htrue
    simpa [dropWhile_eq_nil] using hnil
  · intro h
    have hnil : cs.dropWhile isBlank = [] := dropWhile_eq_nil.mpr h
    simp [trimChars, hnil]

/-- A text with nothing but blanks in it. -/
def allBlank (s : String) : Bool :=
  (trim s).isEmpty

/-! ## Keywords -/

/-- ASCII capitals become small letters; all else stays. -/
def lowercase (s : String) : String :=
  s.map Char.toLower

/-- How an operator's keyword is compared: trimmed, in small letters. -/
def keyword (s : String) : String :=
  lowercase (trim s)

end ChassisRegistry.Text
