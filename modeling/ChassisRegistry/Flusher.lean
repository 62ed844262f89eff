import ChassisRegistry.Registry.Flush

/-! # The flusher

    Flushes the registry again and again: whenever it is asked to, and
    whenever an interval has passed since the last periodic flush. Told to
    close, it flushes one last time and stops. Between two passes it looks for
    the next cause in this order: closing, a request, the interval. A request
    stays until a pass has begun because of it, and does not move the
    interval; a periodic flush that comes late moves it. No wait is longer
    than thirty years, whatever the interval. -/

namespace ChassisRegistry

/-- A running flusher. Times count in seconds. -/
structure Flusher where
  interval : Nat
  positive : 0 < interval
  /-- When the next periodic flush is due. -/
  next     : Nat
  /-- Was a flush asked for that has not begun yet? -/
  asked    : Bool
  /-- Was the flusher told to close? -/
  closing  : Bool

/-- Why a pass begins. -/
inductive FlushCause where
  | close
  | request
  | interval
  deriving DecidableEq, Repr

namespace Flusher

/-- The longest wait for a periodic flush: thirty years of 365 days. -/
def longestWait : Nat := 946080000

/-- How long an interval makes the flusher wait. -/
def wait (interval : Nat) : Nat := min interval longestWait

theorem wait_pos {interval : Nat} (positive : 0 < interval) : 0 < wait interval :=
  Nat.lt_min.mpr ⟨positive, by decide⟩

/-- A flusher that starts now. -/
def start (interval : Nat) (positive : 0 < interval) (now : Nat) : Flusher :=
  { interval, positive, next := now + wait interval, asked := false, closing := false }

/-- Asks for a flush. -/
def request (f : Flusher) : Flusher := { f with asked := true }

/-- Tells the flusher to close. -/
def close (f : Flusher) : Flusher := { f with closing := true }

/-- Why the next pass begins, if one does. -/
def cause? (f : Flusher) (now : Nat) : Option FlushCause :=
  if f.closing then some .close
  else if f.asked then some .request
  else if f.next ≤ now then some .interval
  else none

/-- The flusher when a pass has begun. -/
def begin (f : Flusher) (now : Nat) : FlushCause → Flusher
  | .close => f
  | .request => { f with asked := false }
  | .interval => { f with next := now + wait f.interval }

/-- How many passes are still to come before the flusher waits. -/
def pending (f : Flusher) (now : Nat) : Nat :=
  (if f.asked then 1 else 0) + (if f.next ≤ now then 1 else 0)

theorem pending_begin_lt {f : Flusher} {now : Nat} {cause : FlushCause}
    (h : f.cause? now = some cause) (goes_on : cause ≠ .close) :
    (f.begin now cause).pending now < f.pending now := by
  have := wait_pos f.positive
  unfold cause? at h
  split at h
  · cases h
    exact absurd rfl goes_on
  · split at h
    · next asked =>
      cases h
      simp only [begin, pending, asked, Bool.false_eq_true, if_false, if_true]
      by_cases due : f.next ≤ now <;> simp [due]
    · next asked =>
      split at h
      · next due =>
        cases h
        simp [begin, pending, asked, due]
        omega
      · cases h

variable {σ : Type}

/-- Flushes as long as there is a cause other than closing. -/
def run (f : Flusher) (now : Nat) (sink : Sink σ) (g : Registry) (s : σ) :
    Flusher × Registry × σ :=
  match h : f.cause? now with
  | none | some .close => (f, g, s)
  | some .request =>
      have : (f.begin now .request).pending now < f.pending now := pending_begin_lt h nofun
      let (_, g, s) := g.flush sink s
      (f.begin now .request).run now sink g s
  | some .interval =>
      have : (f.begin now .interval).pending now < f.pending now := pending_begin_lt h nofun
      let (_, g, s) := g.flush sink s
      (f.begin now .interval).run now sink g s
  termination_by f.pending now

end Flusher

end ChassisRegistry
