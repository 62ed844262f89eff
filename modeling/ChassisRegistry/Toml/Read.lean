/-! # Reading from the front

    Every reader of this format takes something from the front of a row of
    characters. What it answers is the value that was read and the rest of
    the row, which is shorter than the row; so whoever reads on and on comes
    to an end. -/

namespace ChassisRegistry.Toml

/-- What was read from the front of a row, and what is left of it. -/
structure Read (α : Type) (cs : List Char) where
  value   : α
  rest    : List Char
  shorter : rest.length < cs.length

namespace Read

variable {α β : Type} {cs : List Char}

/-- The same with another value. -/
def map (f : α → β) (r : Read α cs) : Read β cs := ⟨f r.value, r.rest, r.shorter⟩

/-- The same as read behind a front that stands for nothing. -/
def behind {longer : List Char} (r : Read α cs) (h : cs.length ≤ longer.length) :
    Read α longer :=
  ⟨r.value, r.rest, Nat.lt_of_lt_of_le r.shorter h⟩

/-- The longest row of characters of one class at the front, if it is not empty. -/
def run? (p : Char → Bool) (cs : List Char) : Option (Read (List Char) cs) :=
  if h : cs.takeWhile p = [] then none
  else some ⟨cs.takeWhile p, cs.dropWhile p, by
    have whole := congrArg List.length (List.takeWhile_append_dropWhile (p := p) (l := cs))
    have := List.length_pos_iff.mpr h
    rw [List.length_append] at whole
    omega⟩

end Read

/-! ## Characters that stand for nothing -/

/-- A blank within a line. A carriage return, which always has a line feed behind it, is one too. -/
def isBlank (c : Char) : Bool := c == ' ' || c == '\t' || c == '\r'

/-- A control character that no line may hold: every one but the tab and the carriage return before
    its end. -/
def isControl (c : Char) : Bool :=
  (c.toNat < 0x20 && c != '\t' && c != '\r') || c.toNat == 0x7F

theorem length_dropWhile_le (p : Char → Bool) (cs : List Char) :
    (cs.dropWhile p).length ≤ cs.length :=
  (List.dropWhile_suffix p).length_le

/-- The row without the blanks at its front. -/
def blanks (cs : List Char) : List Char := cs.dropWhile isBlank

theorem length_blanks_le (cs : List Char) : (blanks cs).length ≤ cs.length :=
  length_dropWhile_le isBlank cs

/-- The row without the comment at its front, which reaches to the end of the line. -/
def comment (cs : List Char) : List Char :=
  match cs with
  | '#' :: rest =>
      if (rest.takeWhile (· != '\n')).any isControl then cs else rest.dropWhile (· != '\n')
  | _ => cs

theorem length_comment_le (cs : List Char) : (comment cs).length ≤ cs.length := by
  unfold comment
  split
  · split
    · exact Nat.le_refl _
    · exact Nat.le_succ_of_le (length_dropWhile_le _ _)
  · exact Nat.le_refl _

/-- The row without the blanks, line ends and comments at its front. -/
def gap (cs : List Char) : List Char :=
  match _h : comment (blanks cs) with
  | '\n' :: rest => gap rest
  | after => after
termination_by cs.length
decreasing_by
  have := length_comment_le (blanks cs)
  have := length_blanks_le cs
  simp only [_h, List.length_cons] at *
  omega

theorem length_gap_le (cs : List Char) : (gap cs).length ≤ cs.length := by
  fun_induction gap cs with
  | case1 cs rest h ih =>
    have := length_comment_le (blanks cs)
    have := length_blanks_le cs
    simp only [h, List.length_cons] at *
    omega
  | case2 cs _ =>
    have := length_comment_le (blanks cs)
    have := length_blanks_le cs
    omega

/-- The row without the blanks at its front, and without line ends and comments too where lines
    may be broken. -/
def skip (lines : Bool) (cs : List Char) : List Char := if lines then gap cs else blanks cs

theorem length_skip_le (lines : Bool) (cs : List Char) : (skip lines cs).length ≤ cs.length := by
  unfold skip
  split
  · exact length_gap_le cs
  · exact length_blanks_le cs

end ChassisRegistry.Toml
