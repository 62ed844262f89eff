import ChassisRegistry.Path

/-! # Trees of files

    A directory holds files and directories under names. The entries are kept
    in the order in which the system lists them, which means nothing. A place
    in a tree is given by the names from its root down. -/

namespace ChassisRegistry

/-- A file or a directory. -/
inductive Node where
  | file (content : ByteArray)
  | directory (entries : List (FileName × Node))

/-- What a directory holds. -/
abbrev DirectoryEntries := List (FileName × Node)

/-- A place in a tree: the names from the root down. -/
abbrev Location := List FileName

namespace Node

/-! ## One directory -/

/-- The entry of a name. -/
def child? (name : FileName) : DirectoryEntries → Option Node
  | [] => none
  | (key, node) :: rest => if key = name then some node else child? name rest

/-- Puts a node under a name: in place of the one that is there, or behind the others. -/
def place (name : FileName) (node : Node) : DirectoryEntries → DirectoryEntries
  | [] => [(name, node)]
  | (key, old) :: rest =>
      if key = name then (name, node) :: rest else (key, old) :: place name node rest

/-- The entries without a name. -/
def withoutEntry (name : FileName) (entries : DirectoryEntries) : DirectoryEntries :=
  entries.filter fun e => e.1 ≠ name

theorem child?_place_self (name : FileName) (node : Node) (entries : DirectoryEntries) :
    child? name (place name node entries) = some node := by
  induction entries with
  | nil => simp [place, child?]
  | cons e rest ih =>
    by_cases h : e.1 = name
    · simp [place, child?, h]
    · simp [place, child?, h, ih]

theorem child?_place_of_ne {name other : FileName} (node : Node) (entries : DirectoryEntries)
    (h : other ≠ name) : child? other (place name node entries) = child? other entries := by
  induction entries with
  | nil => simp [place, child?, h.symm]
  | cons e rest ih =>
    by_cases here : e.1 = name
    · simp [place, child?, here, h.symm]
    · simp only [place, child?, here, if_false, ih]

theorem child?_withoutEntry_self (name : FileName) (entries : DirectoryEntries) :
    child? name (withoutEntry name entries) = none := by
  induction entries with
  | nil => rfl
  | cons e rest ih =>
    by_cases h : e.1 = name
    · simpa [withoutEntry, h] using ih
    · simpa [withoutEntry, child?, h] using ih

theorem child?_withoutEntry_of_ne {name other : FileName} (entries : DirectoryEntries)
    (h : other ≠ name) : child? other (withoutEntry name entries) = child? other entries := by
  induction entries with
  | nil => rfl
  | cons e rest ih =>
    unfold withoutEntry at ih ⊢
    by_cases here : e.1 = name
    · simpa [child?, here, h.symm] using ih
    · rw [List.filter_cons_of_pos (by simpa using here), child?, child?, ih]

/-! ## Places -/

/-- The node at a place. -/
def at? : Node → Location → Option Node
  | node, [] => some node
  | file _, _ :: _ => none
  | directory entries, name :: rest =>
      match child? name entries with
      | some node => node.at? rest
      | none => none

/-- The entries of the directory at a place, if there is one. -/
def entriesAt? (root : Node) (l : Location) : Option DirectoryEntries :=
  match root.at? l with
  | some (directory entries) => some entries
  | _ => none

/-- Changes the entries of the directory at a place, if there is one. -/
def changeAt (change : DirectoryEntries → DirectoryEntries) : Location → Node → Node
  | [], directory entries => directory (change entries)
  | name :: rest, directory entries =>
      match child? name entries with
      | some node => directory (place name (node.changeAt change rest) entries)
      | none => directory entries
  | _, file content => file content

end Node

end ChassisRegistry
