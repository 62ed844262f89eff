import ChassisRegistry.FileSystem
import ChassisRegistry.Proofs.FileNames
import Mathlib.Logic.Function.Basic
import Mathlib.Data.List.Infix

/-! # What a change to a tree leaves

    A tree of files is seen place by place: a file with what it holds, or a
    directory with the names in it. Putting something under a name, or taking
    it away, is seen at this name and in the directory around it, and nowhere
    else.

    Main statements: `FileSystem.becomes_put_file`,
    `FileSystem.becomes_put_directory`, `FileSystem.becomes_remove`. -/

namespace ChassisRegistry

/-! ## Section 1: Places in a tree -/

/-- What is seen at a place. -/
inductive Sight where
  | file (content : ByteArray)
  | directory (names : List FileName)

/-- The content of a file. -/
def Sight.content? : Sight → Option ByteArray
  | .file content => some content
  | .directory _ => none

namespace Node

/-- What is seen of a node. -/
def sight : Node → Sight
  | file content => .file content
  | directory entries => .directory (entries.map Prod.fst)

/-- Nothing is below the node. -/
def Bare : Node → Prop
  | file _ => True
  | directory entries => entries = []

variable {root : Node} {change : DirectoryEntries → DirectoryEntries} {entries : DirectoryEntries}
  {place l : Location} {name : FileName}

theorem entriesAt?_eq_some_iff :
    root.entriesAt? place = some entries ↔ root.at? place = some (directory entries) := by
  unfold entriesAt?
  split
  · next own h => rw [h, Option.some.injEq, Option.some.injEq, directory.injEq]
  · next h =>
    constructor
    · intro hnone
      cases hnone
    · intro hat
      exact absurd hat (h entries)

theorem at?_append (front rest : Location) :
    root.at? (front ++ rest) = (root.at? front).bind (·.at? rest) := by
  induction front generalizing root with
  | nil => cases root <;> rfl
  | cons name front ih =>
    cases root with
    | file content => rfl
    | directory entries =>
      rw [List.cons_append, at?, at?]
      cases child? name entries with
      | none => rfl
      | some node => exact ih

theorem at?_of_bare {node : Node} (h : node.Bare) (rest : Location) :
    node.at? (name :: rest) = none := by
  cases node with
  | file content => rfl
  | directory entries =>
    have hnil : entries = [] := h
    rw [hnil]
    rfl

theorem at?_under_bare {below : FileName} (rest : Location)
    (h : ∀ node, child? name entries = some node → node.Bare) :
    (directory entries).at? (name :: below :: rest) = none := by
  rw [at?]
  cases hchild : child? name entries with
  | none => rfl
  | some node => exact at?_of_bare (h node hchild) rest

theorem map_fst_place (node : Node) (h : (child? name entries).isSome) :
    (Node.place name node entries).map Prod.fst = entries.map Prod.fst := by
  induction entries with
  | nil => cases h
  | cons first rest ih =>
    obtain ⟨key, old⟩ := first
    rw [child?] at h
    rw [Node.place]
    split
    · next heq => rw [List.map_cons, List.map_cons, heq]
    · next hne =>
      rw [if_neg hne] at h
      rw [List.map_cons, List.map_cons, ih h]

theorem place_of_none (node : Node) (h : child? name entries = none) :
    Node.place name node entries = entries ++ [(name, node)] := by
  induction entries with
  | nil => rfl
  | cons first rest ih =>
    obtain ⟨key, old⟩ := first
    rw [child?] at h
    split at h
    · cases h
    · next hne => rw [Node.place, if_neg hne, ih h, List.cons_append]

theorem child?_eq_none_iff : child? name entries = none ↔ name ∉ entries.map Prod.fst := by
  induction entries with
  | nil => simp [child?]
  | cons first rest ih =>
    obtain ⟨key, old⟩ := first
    by_cases heq : key = name
    · simp [child?, heq]
    · simp [child?, heq, ih, Ne.symm heq]

theorem child?_eq_some_iff {node : Node} (h : (entries.map Prod.fst).Nodup) :
    child? name entries = some node ↔ (name, node) ∈ entries := by
  induction entries with
  | nil => simp [child?]
  | cons first rest ih =>
    obtain ⟨key, old⟩ := first
    obtain ⟨hnew, hrest⟩ := List.nodup_cons.mp h
    rw [child?, List.mem_cons, Prod.mk.injEq]
    by_cases heq : key = name
    · subst heq
      rw [if_pos rfl, Option.some.injEq]
      constructor
      · intro hold
        exact .inl ⟨rfl, hold.symm⟩
      · rintro (⟨_, hold⟩ | hmem)
        · exact hold.symm
        · exact absurd (List.mem_map.mpr ⟨_, hmem, rfl⟩) hnew
    · rw [if_neg heq, ih hrest]
      constructor
      · exact .inr
      · rintro (⟨hname, _⟩ | hmem)
        · exact absurd hname.symm heq
        · exact hmem

/-- At a place that is not below it, a change of a directory is not seen. -/
theorem sight_changeAt_elsewhere (h : ¬ place <+: l) :
    ((root.changeAt change place).at? l).map sight = (root.at? l).map sight := by
  induction place generalizing root l with
  | nil => exact absurd List.nil_prefix h
  | cons name rest ih =>
    cases root with
    | file content => rfl
    | directory entries =>
      rw [changeAt]
      cases hchild : child? name entries with
      | none => rfl
      | some node =>
        cases l with
        | nil =>
          simp only [at?, Option.map_some, sight, Sight.directory.injEq, Option.some.injEq]
          exact map_fst_place _ (by rw [hchild]; rfl)
        | cons other l =>
          rw [at?, at?]
          by_cases heq : other = name
          · rw [heq, List.cons_prefix_cons, not_and] at h
            rw [heq, child?_place_self, hchild]
            exact ih (h rfl)
          · rw [child?_place_of_ne _ _ heq]

/-- Below the place, what is seen is what the changed directory shows. -/
theorem at?_changeAt_append (hentries : root.entriesAt? place = some entries) (rest : Location) :
    (root.changeAt change place).at? (place ++ rest) = (directory (change entries)).at? rest := by
  induction place generalizing root with
  | nil =>
    have hroot : root = directory entries := by
      have hat := entriesAt?_eq_some_iff.mp hentries
      cases root <;> exact Option.some.inj hat
    rw [hroot]
    rfl
  | cons name place ih =>
    rw [entriesAt?_eq_some_iff] at hentries
    cases root with
    | file content => cases hentries
    | directory others =>
      rw [at?] at hentries
      rw [changeAt, List.cons_append]
      cases hchild : child? name others with
      | none =>
        rw [hchild] at hentries
        cases hentries
      | some node =>
        rw [hchild] at hentries
        rw [at?, child?_place_self]
        exact ih (entriesAt?_eq_some_iff.mpr hentries)

/-- A change under one name is seen there and in the directory around it. -/
theorem sight_changeAt (hentries : root.entriesAt? place = some entries)
    (hothers : ∀ other, other ≠ name → child? other (change entries) = child? other entries)
    (hold : ∀ node, child? name entries = some node → node.Bare)
    (hnew : ∀ node, child? name (change entries) = some node → node.Bare) :
    (fun l => ((root.changeAt change place).at? l).map sight) =
      Function.update (Function.update (fun l => (root.at? l).map sight)
        place (some (.directory ((change entries).map Prod.fst))))
        (place ++ [name]) ((child? name (change entries)).map sight) := by
  funext l
  by_cases hbelow : place <+: l
  · obtain ⟨rest, rfl⟩ := hbelow
    have hroot : root.at? (place ++ rest) = (directory entries).at? rest := by
      rw [at?_append, entriesAt?_eq_some_iff.mp hentries]
      rfl
    rw [at?_changeAt_append hentries]
    cases rest with
    | nil =>
      rw [List.append_nil, Function.update_of_ne (by simp), Function.update_self]
      rfl
    | cons other rest =>
      by_cases hname : other = name
      · subst hname
        cases rest with
        | nil =>
          rw [Function.update_self, at?]
          cases child? other (change entries) with
          | none => rfl
          | some node => cases node <;> rfl
        | cons below rest =>
          rw [Function.update_of_ne (by simp), Function.update_of_ne (by simp), hroot,
            at?_under_bare rest hnew, at?_under_bare rest hold]
      · rw [Function.update_of_ne (by simp [hname]), Function.update_of_ne (by simp), hroot, at?,
          at?, hothers other hname]
  · have hplace : l ≠ place := by
      rintro rfl
      exact hbelow List.prefix_rfl
    have hname : l ≠ place ++ [name] := by
      rintro rfl
      exact hbelow (List.prefix_append _ _)
    rw [sight_changeAt_elsewhere hbelow, Function.update_of_ne hname,
      Function.update_of_ne hplace]

end Node

namespace FileSystem

/-! ## Section 2: One entry -/

/-- What is seen at a place. -/
def seen (fs : FileSystem) (l : Location) : Option Sight := (fs.root.at? l).map Node.sight

/-- The content of the file at a place. -/
def content? (fs : FileSystem) (l : Location) : Option ByteArray :=
  (fs.seen l).bind Sight.content?

/-- There is a directory at the place. -/
def IsDirectoryAt (fs : FileSystem) (l : Location) : Prop :=
  ∃ names, fs.seen l = some (.directory names)

/-- No name stands twice in the directory at the place. -/
def DistinctAt (fs : FileSystem) (l : Location) : Prop :=
  ∀ names, fs.seen l = some (.directory names) → names.Nodup

/-- The place of an entry. -/
def Entry.place (e : Entry) : Location := e.directory ++ [e.name]

/-- How files change: which there are then, and where a directory may be new. -/
structure Becomes (fs fs' : FileSystem) (contents : Location → Option ByteArray)
    (made : List Location) : Prop where
  workDir  : fs'.workDir = fs.workDir
  contents : fs'.content? = contents
  stays    : ∀ {l}, fs.IsDirectoryAt l → fs'.IsDirectoryAt l
  made     : ∀ {l}, fs'.IsDirectoryAt l → fs.IsDirectoryAt l ∨ l ∈ made
  distinct : ∀ {l}, fs.DistinctAt l → fs'.DistinctAt l

variable {fs fs' : FileSystem} {e : Entry} {node : Node} {content : ByteArray}
  {entries : DirectoryEntries} {l : Location}

theorem content?_eq_some_iff :
    fs.content? l = some content ↔ fs.root.at? l = some (.file content) := by
  unfold content? seen
  cases fs.root.at? l with
  | none => simp
  | some node => cases node <;> simp [Node.sight, Sight.content?]

theorem seen_of_entriesAt? (h : fs.root.entriesAt? l = some entries) :
    fs.seen l = some (.directory (entries.map Prod.fst)) := by
  rw [seen, Node.entriesAt?_eq_some_iff.mp h]
  rfl

theorem isDirectoryAt_iff :
    fs.IsDirectoryAt l ↔ ∃ entries, fs.root.entriesAt? l = some entries := by
  constructor
  · rintro ⟨names, hseen⟩
    obtain ⟨node, hat, hsight⟩ := Option.map_eq_some_iff.mp hseen
    cases node with
    | file content => cases hsight
    | directory entries => exact ⟨entries, Node.entriesAt?_eq_some_iff.mpr hat⟩
  · rintro ⟨entries, h⟩
    exact ⟨_, seen_of_entriesAt? h⟩

theorem IsDirectoryAt.content?_eq_none (h : fs.IsDirectoryAt l) : fs.content? l = none := by
  obtain ⟨names, hseen⟩ := h
  rw [content?, hseen]
  rfl

theorem seen_child (h : fs.root.entriesAt? l = some entries) (name : FileName) :
    fs.seen (l ++ [name]) = (Node.child? name entries).map Node.sight := by
  rw [seen, Node.at?_append, Node.entriesAt?_eq_some_iff.mp h, Option.bind_some, Node.at?]
  cases Node.child? name entries with
  | none => rfl
  | some node => cases node <;> rfl

theorem seen_place (h : fs.root.entriesAt? e.directory = some entries) :
    fs.seen e.place = (Node.child? e.name entries).map Node.sight :=
  seen_child h e.name

theorem IsDirectoryAt.seen_ne_none (h : fs.IsDirectoryAt l) : fs.seen l ≠ none := by
  obtain ⟨names, hseen⟩ := h
  rw [hseen]
  exact Option.some_ne_none _

theorem IsDirectoryAt.dropLast (h : fs.IsDirectoryAt l) : fs.IsDirectoryAt l.dropLast := by
  rcases List.eq_nil_or_concat' l with rfl | ⟨front, last, rfl⟩
  · exact h
  · rw [isDirectoryAt_iff] at h
    obtain ⟨entries, hentries⟩ := h
    rw [Node.entriesAt?_eq_some_iff, Node.at?_append] at hentries
    obtain ⟨node, hfront, hlast⟩ := Option.bind_eq_some_iff.mp hentries
    rw [List.dropLast_concat]
    cases node with
    | file content => cases hlast
    | directory others =>
      exact isDirectoryAt_iff.mpr ⟨others, Node.entriesAt?_eq_some_iff.mpr hfront⟩

/-- What is there and is no file is a directory. -/
theorem isDirectoryAt_of_clear (hthere : fs.seen l ≠ none) (hclear : fs.content? l = none) :
    fs.IsDirectoryAt l := by
  obtain ⟨sight, hseen⟩ := Option.ne_none_iff_exists'.mp hthere
  cases sight with
  | directory names => exact ⟨names, hseen⟩
  | file content =>
    rw [content?, hseen] at hclear
    cases hclear

theorem seen_eq_none_below {place : Location} (h : fs.seen place = none) (hl : place <+: l) :
    fs.seen l = none := by
  obtain ⟨rest, rfl⟩ := hl
  rw [seen, Option.map_eq_none_iff] at h ⊢
  rw [Node.at?_append, h, Option.bind_none]

/-- Where there is a file, there is a directory around it. -/
theorem exists_entriesAt? (h : fs.content? (l ++ [name]) = some content) :
    ∃ entries, fs.root.entriesAt? l = some entries ∧
      Node.child? name entries = some (.file content) := by
  rw [content?_eq_some_iff, Node.at?_append] at h
  obtain ⟨node, hdirectory, hchild⟩ := Option.bind_eq_some_iff.mp h
  cases node with
  | file own => cases hchild
  | directory entries =>
    refine ⟨entries, Node.entriesAt?_eq_some_iff.mpr hdirectory, ?_⟩
    rw [Node.at?] at hchild
    cases hnode : Node.child? name entries with
    | none => rw [hnode] at hchild; cases hchild
    | some node =>
      rw [hnode] at hchild
      cases node <;> exact hchild

/-- In a directory where no name stands twice, the files are the entries that hold a content. -/
theorem content?_child (hentries : fs.root.entriesAt? l = some entries)
    (hnodup : (entries.map Prod.fst).Nodup) :
    fs.content? (l ++ [name]) = some content ↔ (name, .file content) ∈ entries := by
  rw [← Node.child?_eq_some_iff hnodup]
  constructor
  · intro hcontent
    obtain ⟨others, hothers, hchild⟩ := exists_entriesAt? hcontent
    rw [hentries] at hothers
    cases hothers
    exact hchild
  · intro hchild
    rw [content?, seen_child hentries, hchild]
    rfl

/-- Nothing is in a directory that is empty or not there. -/
theorem content?_of_empty (h : ∀ names, fs.seen l = some (.directory names) → names = [])
    (name : FileName) : fs.content? (l ++ [name]) = none := by
  cases hcontent : fs.content? (l ++ [name]) with
  | none => rfl
  | some content =>
    obtain ⟨entries, hentries, hchild⟩ := exists_entriesAt? hcontent
    have hnil := List.map_eq_nil_iff.mp (h _ (seen_of_entriesAt? hentries))
    rw [hnil] at hchild
    cases hchild

/-- A name that is put into a directory stands there once. -/
theorem nodup_place {name : FileName} (h : (entries.map Prod.fst).Nodup) :
    ((Node.place name node entries).map Prod.fst).Nodup := by
  cases hchild : Node.child? name entries with
  | some old =>
    rw [Node.map_fst_place node (by rw [hchild]; rfl)]
    exact h
  | none =>
    rw [Node.place_of_none node hchild, List.map_append]
    refine List.nodup_append.mpr ⟨h, by simp, ?_⟩
    rintro a ha b hb rfl
    rw [List.mem_singleton.mp hb] at ha
    exact Node.child?_eq_none_iff.mp hchild ha

theorem nodup_withoutEntry {name : FileName} (h : (entries.map Prod.fst).Nodup) :
    ((Node.withoutEntry name entries).map Prod.fst).Nodup :=
  h.sublist (List.filter_sublist.map _)

/-- What becomes of the files when something else is seen at one place, and with it the names around
    it. -/
theorem becomes_of_seen {names names' : List FileName} {now : Option Sight} {made : List Location}
    (hseen : fs'.seen = Function.update (Function.update fs.seen e.directory
      (some (.directory names'))) e.place now)
    (hworkDir : fs'.workDir = fs.workDir)
    (hdirectory : fs.seen e.directory = some (.directory names))
    (hnames : names.Nodup → names'.Nodup)
    (hold : ¬ fs.IsDirectoryAt e.place)
    (hnow : ∀ below, now = some (.directory below) → below = [] ∧ e.place ∈ made) :
    fs.Becomes fs' (Function.update fs.content? e.place (now.bind Sight.content?)) made := by
  have hne : e.directory ≠ e.place := by simp [Entry.place]
  have hplace : fs'.seen e.place = now := by rw [hseen, Function.update_self]
  have haround : fs'.seen e.directory = some (.directory names') := by
    rw [hseen, Function.update_of_ne hne, Function.update_self]
  have helse : ∀ l, l ≠ e.place → l ≠ e.directory → fs'.seen l = fs.seen l := by
    intro l hl hl'
    rw [hseen, Function.update_of_ne hl, Function.update_of_ne hl']
  refine {
    workDir  := hworkDir
    contents := ?_
    stays    := ?_
    made     := ?_
    distinct := ?_ }
  · funext l
    unfold content?
    by_cases hl : l = e.place
    · rw [hl, hplace, Function.update_self]
    · rw [Function.update_of_ne hl]
      by_cases hl' : l = e.directory
      · rw [hl', haround, hdirectory]
        rfl
      · rw [helse l hl hl']
  · rintro l ⟨below, hl⟩
    have hnot : l ≠ e.place := by
      rintro rfl
      exact hold ⟨below, hl⟩
    by_cases hl' : l = e.directory
    · exact ⟨names', hl' ▸ haround⟩
    · exact ⟨below, (helse l hnot hl').trans hl⟩
  · rintro l ⟨below, hl⟩
    by_cases hplaced : l = e.place
    · rw [hplaced, hplace] at hl
      exact .inr (hplaced ▸ (hnow below hl).2)
    · by_cases hl' : l = e.directory
      · exact .inl ⟨names, hl' ▸ hdirectory⟩
      · exact .inl ⟨below, (helse l hplaced hl').symm.trans hl⟩
  · intro l hdistinct below hl
    by_cases hplaced : l = e.place
    · rw [hplaced, hplace] at hl
      rw [(hnow below hl).1]
      exact List.nodup_nil
    · by_cases hl' : l = e.directory
      · rw [hl', haround] at hl
        cases hl
        exact hnames (hdistinct names (hl' ▸ hdirectory))
      · exact hdistinct below ((helse l hplaced hl').symm.trans hl)

theorem not_isDirectoryAt_place (hentries : fs.root.entriesAt? e.directory = some entries)
    (hold : ∀ below, Node.child? e.name entries ≠ some (.directory below)) :
    ¬ fs.IsDirectoryAt e.place := by
  rintro ⟨names, hseen⟩
  rw [seen_place hentries] at hseen
  obtain ⟨node, hchild, hsight⟩ := Option.map_eq_some_iff.mp hseen
  cases node with
  | file content => cases hsight
  | directory below => exact hold below hchild

theorem bare_of_ne {node : Node} (h : ∀ below, node ≠ .directory below) : node.Bare := by
  cases node with
  | file content => trivial
  | directory below => exact absurd rfl (h below)

theorem seen_put (hentries : fs.root.entriesAt? e.directory = some entries)
    (hold : ∀ below, Node.child? e.name entries ≠ some (.directory below)) (hnew : node.Bare) :
    (fs.put e node).seen = Function.update (Function.update fs.seen e.directory
      (some (.directory ((Node.place e.name node entries).map Prod.fst)))) e.place
      (some node.sight) := by
  have hself := Node.child?_place_self e.name node entries
  have hseen : (fs.put e node).seen = Function.update (Function.update fs.seen e.directory
      (some (.directory ((Node.place e.name node entries).map Prod.fst)))) e.place
      ((Node.child? e.name (Node.place e.name node entries)).map Node.sight) :=
    Node.sight_changeAt hentries
    (fun other hother => Node.child?_place_of_ne node entries hother)
    (fun old hchild => bare_of_ne fun below heq => hold below (heq ▸ hchild))
    (fun new hchild => Option.some.inj (hself.symm.trans hchild) ▸ hnew)
  rw [hself] at hseen
  exact hseen

/-- A file is put in the place of a file, or of nothing. -/
theorem becomes_put_file (hentries : fs.root.entriesAt? e.directory = some entries)
    (hold : ∀ below, Node.child? e.name entries ≠ some (.directory below)) :
    fs.Becomes (fs.put e (.file content))
      (Function.update fs.content? e.place (some content)) [] :=
  becomes_of_seen (seen_put hentries hold (show (Node.file content).Bare from trivial)) rfl
    (seen_of_entriesAt? hentries) nodup_place (not_isDirectoryAt_place hentries hold)
    fun below hbelow => by cases hbelow

/-- A directory is put where nothing is. -/
theorem becomes_put_directory (hentries : fs.root.entriesAt? e.directory = some entries)
    (hold : Node.child? e.name entries = none) :
    fs.Becomes (fs.put e (.directory [])) fs.content? [e.place] := by
  have hnone : fs.content? e.place = none := by
    rw [content?, seen_place hentries, hold]
    rfl
  have hnot : ∀ below, Node.child? e.name entries ≠ some (.directory below) := by
    simp [hold]
  have hcontents : fs.content? = Function.update fs.content? e.place
      ((some (Node.directory []).sight).bind Sight.content?) := by
    rw [eq_comm, Function.update_eq_self_iff, hnone]
    rfl
  rw [hcontents]
  refine becomes_of_seen (seen_put hentries hnot rfl) rfl (seen_of_entriesAt? hentries) nodup_place
    (not_isDirectoryAt_place hentries hnot) ?_
  intro below hbelow
  cases hbelow
  exact ⟨rfl, List.mem_singleton_self _⟩

theorem becomes_remove (hentries : fs.root.entriesAt? e.directory = some entries)
    (hold : ∀ below, Node.child? e.name entries ≠ some (.directory below)) :
    fs.Becomes (fs.remove e) (Function.update fs.content? e.place none) [] := by
  have hself := Node.child?_withoutEntry_self e.name entries
  have hseen : (fs.remove e).seen = Function.update (Function.update fs.seen e.directory
      (some (.directory ((Node.withoutEntry e.name entries).map Prod.fst)))) e.place
      ((Node.child? e.name (Node.withoutEntry e.name entries)).map Node.sight) :=
    Node.sight_changeAt hentries
    (fun other hother => Node.child?_withoutEntry_of_ne entries hother)
    (fun old hchild => bare_of_ne fun below heq => hold below (heq ▸ hchild))
    (fun new hchild => by rw [hself] at hchild; cases hchild)
  rw [hself] at hseen
  exact becomes_of_seen hseen rfl (seen_of_entriesAt? hentries) nodup_withoutEntry
    (not_isDirectoryAt_place hentries hold) fun below hbelow => by cases hbelow

theorem Becomes.stays_only {contents : Location → Option ByteArray}
    (h : fs.Becomes fs' contents []) (hl : fs'.IsDirectoryAt l) : fs.IsDirectoryAt l :=
  (h.made hl).resolve_right List.not_mem_nil

theorem Becomes.trans {fs'' : FileSystem} {contents contents' : Location → Option ByteArray}
    (h : fs.Becomes fs' contents []) (h' : fs'.Becomes fs'' contents' []) :
    fs.Becomes fs'' contents' [] where
  workDir  := h'.workDir.trans h.workDir
  contents := h'.contents
  stays    := fun hl => h'.stays (h.stays hl)
  made     := fun hl => .inl (h.stays_only (h'.stays_only hl))
  distinct := fun hl => h'.distinct (h.distinct hl)

end FileSystem

end ChassisRegistry
