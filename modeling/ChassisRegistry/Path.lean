/-! # Paths

    A path is what a program gives to the operating system: bytes, with
    slashes between names. Names are read off it only when it is followed;
    what is written beside them counts too, since a path may not be too long,
    and a slash at its end asks for a directory. -/

namespace ChassisRegistry

/-! ## Names -/

/-- A name in a directory. -/
abbrev FileName := List UInt8

namespace FileName

/-- The name that a text writes in UTF-8. -/
def ofText (s : String) : FileName := s.toUTF8.toList

/-- The text that a name writes in UTF-8, if it writes one. -/
def text? (n : FileName) : Option String := String.fromUTF8? ⟨n.toArray⟩

/-- The most bytes of a name. -/
def longest : Nat := 255

/-- The name of the directory itself: a point. -/
def here : FileName := [46]

/-- The name of the directory above: two points. -/
def above : FileName := [46, 46]

/-- The byte of a slash. -/
def slash : UInt8 := 47

end FileName

/-! ## Paths -/

/-- A path as it is written. -/
structure Path where
  bytes : List UInt8
  deriving DecidableEq, Repr

namespace Path

/-- The path that a text writes in UTF-8. -/
def ofText (s : String) : Path := ⟨s.toUTF8.toList⟩

/-- The most bytes of a path. -/
def longest : Nat := 4095

/-- Does the path begin at the root? -/
def isAbsolute (p : Path) : Bool := p.bytes.head? == some FileName.slash

/-- Does the path ask for a directory? -/
def asksDirectory (p : Path) : Bool := p.bytes.getLast? == some FileName.slash

/-- Bytes cut at the slashes. -/
def cut : List UInt8 → List FileName
  | [] => [[]]
  | b :: rest =>
      if b = FileName.slash then [] :: cut rest
      else
        match cut rest with
        | [] => [[b]]
        | name :: names => (b :: name) :: names

/-- The names on the way. Slashes in a row count for one. -/
def names (p : Path) : List FileName := (cut p.bytes).filter (· ≠ [])

/-- The path with these names. -/
def ofNames (absolute : Bool) (names : List FileName) : Path :=
  ⟨(if absolute then [FileName.slash] else []) ++ [FileName.slash].intercalate names⟩

/-- What a path means that is to be followed from the end of another one. -/
def join (p q : Path) : Path :=
  if q.isAbsolute then q
  else if p.bytes = [] ∨ p.asksDirectory then ⟨p.bytes ++ q.bytes⟩
  else ⟨p.bytes ++ FileName.slash :: q.bytes⟩

/-- A path with one more name. -/
def child (p : Path) (name : FileName) : Path := p.join ⟨name⟩

/-- The paths of the directories on the way, the last one first. Names of a directory itself are no
    part of the way. -/
def ancestors (p : Path) : List Path :=
  let names := p.names.filter (· ≠ FileName.here)
  ((List.range names.length).drop 1).reverse.map fun n => ofNames p.isAbsolute (names.take n)

end Path

end ChassisRegistry
