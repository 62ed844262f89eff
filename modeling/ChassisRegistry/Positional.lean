/-! # Lists by position

    Checks that look at the items of a list together with their positions,
    up to the first failure, and items by number. -/

namespace ChassisRegistry

/-- Steps that succeed one after the other succeed each. -/
theorem exists_of_bind {ε α β : Type} {x : Except ε α} {f : α → Except ε β} {b : β}
    (h : x >>= f = .ok b) : ∃ a, x = .ok a ∧ f a = .ok b := by
  cases x with
  | error e => cases h
  | ok a => exact ⟨a, rfl, h⟩

/-- Checks every item with its position, counted from `start`; the first failure counts. -/
def checkFrom {ε α : Type} (check : Nat → α → Except ε Unit) :
    Nat → List α → Except ε Unit
  | _, [] => .ok ()
  | start, x :: rest =>
      match check start x with
      | .error e => .error e
      | .ok () => checkFrom check (start + 1) rest

theorem checkFrom_eq_ok_iff {ε α : Type} {check : Nat → α → Except ε Unit} {start : Nat}
    {xs : List α} :
    checkFrom check start xs = .ok () ↔
      ∀ i x, xs[i]? = some x → check (start + i) x = .ok () := by
  induction xs generalizing start with
  | nil => simp [checkFrom]
  | cons a rest ih =>
    constructor
    · intro h i x hx
      simp only [checkFrom] at h
      cases hc : check start a with
      | error e => simp [hc] at h
      | ok u =>
        simp only [hc] at h
        cases i with
        | zero => simp at hx; subst hx; simpa using hc
        | succ j =>
          have := ih.mp h j x (by simpa using hx)
          rwa [show start + (j + 1) = start + 1 + j by omega]
    · intro h
      have ha : check start a = .ok () := by simpa using h 0 a rfl
      simp only [checkFrom, ha]
      apply ih.mpr
      intro j x hx
      have := h (j + 1) x (by simpa using hx)
      rwa [show start + (j + 1) = start + 1 + j by omega] at this

/-- The item of a number counted from 1. -/
def numbered? {α : Type} (xs : List α) : Nat → Option α
  | 0 => none
  | n + 1 => xs[n]?

@[simp] theorem numbered?_zero {α : Type} (xs : List α) : numbered? xs 0 = none := rfl

@[simp] theorem numbered?_succ {α : Type} (xs : List α) (n : Nat) :
    numbered? xs (n + 1) = xs[n]? := rfl

end ChassisRegistry
