import ChassisRegistry.Decimal.Digits

/-! # Digits read back

    The digits of a number are digits of its base, the number is read back
    from them, and none of them is a leading zero, except that zero itself has
    one digit. A row of digits is told apart from what follows it as long as
    that does not begin with a digit. -/

namespace ChassisRegistry.Decimal

/-! ## Section 1: Single digits -/

theorem digitValue_digitChar {d : Nat} (h : d < 16) : digitValue (Nat.digitChar d) = some d := by
  have hall : ∀ d : Fin 16, digitValue (Nat.digitChar d.val) = some d.val := by decide
  exact hall ⟨d, h⟩

theorem isDigit_digitChar {base d : Nat} (hd : d < base) (hbase : base ≤ 16) :
    isDigit base (Nat.digitChar d) = true := by
  rw [isDigit, digitValue_digitChar (by omega)]
  exact decide_eq_true hd

/-! ## Section 2: Rows of digits -/

variable {base : Nat}

theorem ofDigits_concat (cs : List Char) (c : Char) :
    ofDigits base (cs ++ [c]) = ofDigits base cs * base + (digitValue c).getD 0 := by
  rw [ofDigits, List.foldl_append]
  rfl

/-- What holds of a row of one digit and of every longer row holds of the digits of a number. -/
theorem toDigits_induction {motive : Nat → List Char → Prop} (hbase : 1 < base)
    (hone : ∀ d, d < base → motive d [Nat.digitChar d])
    (hmore : ∀ n d, 0 < n → d < base → motive n (Nat.toDigits base n) →
      motive (base * n + d) (Nat.toDigits base n ++ [Nat.digitChar d])) (n : Nat) :
    motive n (Nat.toDigits base n) := by
  -- The last digit is split off, so the induction is on the number and not on the row.
  induction n using Nat.strongRecOn with
  | ind n ih =>
    by_cases hn : n < base
    · rw [Nat.toDigits_of_lt_base hn]
      exact hone n hn
    · have hlt : n / base < n := Nat.div_lt_self (by omega) hbase
      have hpos : 0 < n / base := Nat.div_pos (by omega) (by omega)
      have h := hmore (n / base) (n % base) hpos (Nat.mod_lt _ (by omega)) (ih _ hlt)
      rw [Nat.div_add_mod] at h
      rw [Nat.toDigits_of_base_le hbase (by omega)]
      exact h

theorem ofDigits_toDigits (hbase : 1 < base) (hle : base ≤ 16) (n : Nat) :
    ofDigits base (Nat.toDigits base n) = n := by
  apply toDigits_induction (motive := fun n cs => ofDigits base cs = n) hbase
  · intro d hd
    show 0 * base + (digitValue (Nat.digitChar d)).getD 0 = d
    rw [digitValue_digitChar (by omega), Option.getD_some]
    omega
  · intro n d _ hd hn
    rw [ofDigits_concat, hn, digitValue_digitChar (by omega), Option.getD_some, Nat.mul_comm]

theorem isDigit_of_mem_toDigits (hbase : 1 < base) (hle : base ≤ 16) (n : Nat) :
    ∀ c ∈ Nat.toDigits base n, isDigit base c = true := by
  apply toDigits_induction (motive := fun _ cs => ∀ c ∈ cs, isDigit base c = true) hbase
  · intro d hd c hc
    rw [List.mem_singleton] at hc
    rw [hc]
    exact isDigit_digitChar hd hle
  · intro n d _ hd hn c hc
    rcases List.mem_append.mp hc with hc | hc
    · exact hn c hc
    · rw [List.mem_singleton] at hc
      rw [hc]
      exact isDigit_digitChar hd hle

/-- Only zero begins with the digit zero. -/
theorem head?_toDigits (hbase : 1 < base) (n : Nat)
    (hzero : (Nat.toDigits base n).head? = some '0') : n = 0 := by
  have h : (Nat.toDigits base n).head? = some '0' → n = 0 := by
    apply toDigits_induction (motive := fun n cs => cs.head? = some '0' → n = 0) hbase
    · intro d _ hd
      rw [List.head?_cons, Option.some.injEq] at hd
      exact Nat.digitChar_eq_zero.mp hd
    · intro n d hn _ ih hhead
      -- The front of a longer row is the front of the shorter one.
      have hfront : (Nat.toDigits base n).head? = some '0' := by
        cases hcs : Nat.toDigits base n with
        | nil => exact absurd hcs Nat.toDigits_ne_nil
        | cons c cs =>
          rw [hcs] at hhead
          exact hhead
      have := ih hfront
      omega
  exact h hzero

/-- A row of digits ends where something else begins. -/
theorem span_digits {cs rest : List Char} (hcs : ∀ c ∈ cs, isDigit base c = true)
    (hrest : ∀ c, rest.head? = some c → isDigit base c = false) :
    span base (cs ++ rest) = (cs, rest) := by
  have hnil : rest.takeWhile (isDigit base) = [] ∧ rest.dropWhile (isDigit base) = rest := by
    cases rest with
    | nil => exact ⟨rfl, rfl⟩
    | cons c more =>
      have hc := hrest c rfl
      simp [hc]
  -- Both halves of the split pass over `cs` and stop at once in `rest`.
  rw [span, List.takeWhile_append_of_pos hcs, List.dropWhile_append_of_pos hcs, hnil.1, hnil.2,
    List.append_nil]

/-- Numbers are told apart by their digits, whatever else is behind them. -/
theorem toDigits_append_inj (hbase : 1 < base) (hle : base ≤ 16) {m n : Nat}
    {rest rest' : List Char} (hrest : ∀ c, rest.head? = some c → isDigit base c = false)
    (hrest' : ∀ c, rest'.head? = some c → isDigit base c = false)
    (h : Nat.toDigits base m ++ rest = Nat.toDigits base n ++ rest') : m = n ∧ rest = rest' := by
  have hspan := congrArg (span base) h
  rw [span_digits (isDigit_of_mem_toDigits hbase hle m) hrest,
    span_digits (isDigit_of_mem_toDigits hbase hle n) hrest', Prod.mk.injEq] at hspan
  have hvalue := congrArg (ofDigits base) hspan.1
  rw [ofDigits_toDigits hbase hle, ofDigits_toDigits hbase hle] at hvalue
  exact ⟨hvalue, hspan.2⟩

end ChassisRegistry.Decimal
