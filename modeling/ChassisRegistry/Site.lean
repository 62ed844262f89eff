import ChassisRegistry.InputError
import ChassisRegistry.Text.Blank

/-! # Sites

    A site identifier names one chassis. It is a text without blanks at
    either end and with at least one character; nothing else is asked of it,
    so it may hold any separator inside. Sites are ordered by code point. -/

namespace ChassisRegistry

/-- The identifier of a site. -/
structure Site where
  text      : String
  trimmed   : Text.trim text = text
  not_blank : text ≠ ""
  deriving DecidableEq

namespace Site

/-- Reads an identifier, without the blanks around it. -/
def parse (given : String) : Except InputError Site :=
  if h : Text.trim given = "" then .error (.blankSite given)
  else .ok ⟨Text.trim given, Text.trim_trim given, h⟩

theorem parse_text (s : Site) : parse s.text = .ok s := by
  have h : ¬ Text.trim s.text = "" := by rw [s.trimmed]; exact s.not_blank
  unfold parse
  rw [dif_neg h]
  congr 1
  cases s
  simp_all

@[ext] theorem ext {a b : Site} (h : a.text = b.text) : a = b := by
  cases a; cases b; simp_all

instance : Ord Site := ⟨fun a b => compare a.text b.text⟩

instance : ToString Site := ⟨Site.text⟩

end Site

end ChassisRegistry
