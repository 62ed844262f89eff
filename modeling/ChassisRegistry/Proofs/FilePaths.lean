import ChassisRegistry.Positional
import ChassisRegistry.Proofs.FileTree

/-! # Where paths lead, and what operations do there

    A path leads to a place that can be told from the path alone. Following it
    succeeds when there are directories all the way. An operation that
    succeeds changes the files at the places of its paths and nothing else.

    Main statements: `FileSystem.walk_cases`, `FileSystem.makeDirectory_ok`,
    `FileSystem.write_ok`, `FileSystem.rename_ok`. -/

namespace ChassisRegistry

namespace FileSystem

variable {fs fs' : FileSystem} {e : Entry} {node : Node} {content : ByteArray}
  {entries : DirectoryEntries} {l place : Location}

/-! ## Section 1: The way -/

/-- Where a name leads, as far as can be told from the name. -/
def onward (place : Location) (name : FileName) : Location :=
  if name = FileName.here then place
  else if name = FileName.above then place.dropLast
  else place ++ [name]

/-- Where names lead. -/
def lead (start : Location) (names : List FileName) : Location := names.foldl onward start

/-- The place is where names lead, or it is on the way. -/
def OnWay (start : Location) (names : List FileName) (l : Location) : Prop :=
  ∃ front, front <+: names ∧ l = lead start front

variable {start : Location} {name : FileName} {names : List FileName}

theorem onWay_lead : OnWay start names (lead start names) := ⟨names, List.prefix_rfl, rfl⟩

theorem onWay_start : OnWay start names start := ⟨[], List.nil_prefix, rfl⟩

theorem onWay_nil : OnWay start [] l ↔ l = start := by
  constructor
  · rintro ⟨front, hfront, rfl⟩
    rw [List.prefix_nil.mp hfront]
    rfl
  · rintro rfl
    exact onWay_start

theorem onWay_cons :
    OnWay start (name :: names) l ↔ l = start ∨ OnWay (onward start name) names l := by
  constructor
  · rintro ⟨front, hfront, rfl⟩
    cases front with
    | nil => exact .inl rfl
    | cons first front =>
      obtain ⟨rfl, hrest⟩ := List.cons_prefix_cons.mp hfront
      exact .inr ⟨front, hrest, rfl⟩
  · rintro (rfl | ⟨front, hfront, rfl⟩)
    · exact onWay_start
    · exact ⟨name :: front, List.cons_prefix_cons.mpr ⟨rfl, hfront⟩, rfl⟩

/-- Names of a directory itself lead nowhere else. -/
theorem OnWay.of_filter (h : OnWay start (names.filter (· ≠ FileName.here)) l) :
    OnWay start names l := by
  induction names generalizing start with
  | nil => exact h
  | cons name names ih =>
    rw [onWay_cons]
    by_cases hhere : name = FileName.here
    · rw [List.filter_cons_of_neg (by simpa using hhere)] at h
      right
      rw [onward, if_pos hhere]
      exact ih h
    · rw [List.filter_cons_of_pos (by simpa using hhere), onWay_cons] at h
      exact h.imp_right ih

/-- Without the name of the one above, the way leads only down. -/
theorem OnWay.isPrefix (habove : FileName.above ∉ names) (h : OnWay start names l) :
    start <+: l := by
  induction names generalizing start with
  | nil => rw [onWay_nil.mp h]
  | cons name names ih =>
    rw [List.mem_cons, not_or] at habove
    rcases onWay_cons.mp h with rfl | hon
    · exact List.prefix_rfl
    · have hnext : start <+: onward start name := by
        unfold onward
        rw [if_neg (Ne.symm habove.1)]
        split
        · exact List.prefix_rfl
        · exact List.prefix_append _ _
      exact hnext.trans (ih habove.2 hon)

/-! ## Section 2: Following names -/

/-- What a single step can do. -/
inductive Steps (fs : FileSystem) (place : Location) (name : FileName) :
    Except FileError Location → Prop where
  | outside (hplace : ¬ fs.IsDirectoryAt place) : Steps fs place name (.error .notDirectory)
  | long (hlong : FileName.longest < name.length) : Steps fs place name (.error .nameTooLong)
  | there (hplace : fs.IsDirectoryAt place) (hshort : name.length ≤ FileName.longest)
      (hthere : fs.seen (onward place name) ≠ none) : Steps fs place name (.ok (onward place name))
  | missing (hplace : fs.IsDirectoryAt place) (hshort : name.length ≤ FileName.longest)
      (hnone : fs.seen (onward place name) = none) : Steps fs place name (.error .missing)

theorem steps (fs : FileSystem) (place : Location) (name : FileName) :
    Steps fs place name (fs.step place name) := by
  unfold step
  cases hentries : fs.root.entriesAt? place with
  | none =>
    refine .outside ?_
    rw [isDirectoryAt_iff, hentries]
    rintro ⟨entries, hsome⟩
    cases hsome
  | some entries =>
    have hplace : fs.IsDirectoryAt place := isDirectoryAt_iff.mpr ⟨entries, hentries⟩
    simp only
    split_ifs with hhere habove hlong
    · have hnext : onward place name = place := if_pos hhere
      have hthere : Steps fs place name (.ok (onward place name)) :=
        .there hplace (by rw [hhere]; decide) (by rw [hnext]; exact hplace.seen_ne_none)
      rwa [hnext] at hthere
    · have hnext : onward place name = place.dropLast := (if_neg hhere).trans (if_pos habove)
      have hthere : Steps fs place name (.ok (onward place name)) :=
        .there hplace (by rw [habove]; decide)
          (by rw [hnext]; exact hplace.dropLast.seen_ne_none)
      rwa [hnext] at hthere
    · exact .long hlong
    · have hnext : onward place name = place ++ [name] := (if_neg hhere).trans (if_neg habove)
      have hseen := seen_child hentries name
      cases hchild : Node.child? name entries with
      | none => exact .missing hplace (Nat.le_of_not_lt hlong) (by rw [hnext, hseen, hchild]; rfl)
      | some node =>
        have hthere : Steps fs place name (.ok (onward place name)) :=
          .there hplace (Nat.le_of_not_lt hlong)
            (by rw [hnext, hseen, hchild]; exact Option.some_ne_none _)
        rwa [hnext] at hthere

theorem walk_cons (fs : FileSystem) (start : Location) (name : FileName) (names : List FileName) :
    fs.walk start (name :: names) = (fs.step start name).bind fun next => fs.walk next names :=
  List.foldlM_cons

/-- Names that can be followed lead where they say. When that is a directory, there are directories
    all the way. -/
theorem walk_ok (h : fs.walk start names = .ok l) :
    l = lead start names ∧ (∀ name ∈ names, name.length ≤ FileName.longest) ∧
      (names ≠ [] → fs.seen l ≠ none) ∧
      (fs.IsDirectoryAt l → ∀ place, OnWay start names place → fs.IsDirectoryAt place) := by
  induction names generalizing start with
  | nil =>
    obtain rfl : start = l := Except.ok.inj h
    refine ⟨rfl, fun _ hmem => absurd hmem List.not_mem_nil, fun hne => absurd rfl hne, ?_⟩
    intro hl place hplace
    rw [onWay_nil.mp hplace]
    exact hl
  | cons name names ih =>
    rw [walk_cons] at h
    obtain ⟨next, hstep, hrest⟩ := exists_of_bind h
    have hsteps := fs.steps start name
    rw [hstep] at hsteps
    cases hsteps with
    | there hstart hlength hthere =>
      obtain ⟨hlead, hshort, hlast, hway⟩ := ih hrest
      refine ⟨hlead, List.forall_mem_cons.mpr ⟨hlength, hshort⟩, ?_, ?_⟩
      · intro _
        by_cases hnil : names = []
        · rw [hlead, hnil]
          exact hthere
        · exact hlast hnil
      · intro hl place hplace
        rcases onWay_cons.mp hplace with rfl | hon
        · exact hstart
        · exact hway hl place hon

/-- Where the way only leads down and something is missing on it, there are directories up to there
    and nothing behind. -/
theorem walk_missing (habove : FileName.above ∉ names)
    (h : fs.walk start names = .error .missing) :
    fs.IsDirectoryAt start ∧ (∀ l, OnWay start names l → fs.content? l = none) ∧
      fs.seen (lead start names) = none := by
  induction names generalizing start with
  | nil => cases h
  | cons name names ih =>
    rw [List.mem_cons, not_or] at habove
    rw [walk_cons] at h
    have hsteps := fs.steps start name
    -- Either the rest of the way lacks something, or the next place does.
    obtain ⟨hstart, hclear, hnone⟩ : fs.IsDirectoryAt start ∧
        (∀ l, OnWay (onward start name) names l → fs.content? l = none) ∧
        fs.seen (lead (onward start name) names) = none := by
      cases hstep : fs.step start name with
      | ok next =>
        rw [hstep] at h hsteps
        cases hsteps with
        | there hstart _ _ => exact ⟨hstart, (ih habove.2 h).2⟩
      | error x =>
        rw [hstep] at h hsteps
        obtain rfl : x = .missing := Except.error.inj h
        cases hsteps with
        | missing hstart _ hnone =>
          have hbehind : ∀ l, OnWay (onward start name) names l → fs.seen l = none :=
            fun l hl => seen_eq_none_below hnone (hl.isPrefix habove.2)
          refine ⟨hstart, ?_, hbehind _ onWay_lead⟩
          intro l hl
          rw [content?, hbehind l hl, Option.bind_none]
    refine ⟨hstart, ?_, hnone⟩
    intro l hl
    rcases onWay_cons.mp hl with rfl | hon
    · exact hstart.content?_eq_none
    · exact hclear l hon

/-- Where no file is on the way, names can be followed exactly when there are directories all the
    way, and else something is missing. -/
theorem walk_cases (hstart : fs.IsDirectoryAt start)
    (hclear : ∀ l, OnWay start names l → fs.content? l = none)
    (hshort : ∀ name ∈ names, name.length ≤ FileName.longest) :
    fs.walk start names = .ok (lead start names) ∧
        (∀ l, OnWay start names l → fs.IsDirectoryAt l) ∨
      fs.walk start names = .error .missing ∧
        ¬ ∀ l, OnWay start names l → fs.IsDirectoryAt l := by
  induction names generalizing start with
  | nil =>
    left
    refine ⟨rfl, ?_⟩
    intro l hl
    rw [onWay_nil.mp hl]
    exact hstart
  | cons name names ih =>
    have hnext : OnWay start (name :: names) (onward start name) :=
      onWay_cons.mpr (.inr onWay_start)
    have hsteps := fs.steps start name
    rw [walk_cons]
    cases hstep : fs.step start name with
    | error x =>
      rw [hstep] at hsteps
      right
      cases hsteps with
      | outside hplace => exact absurd hstart hplace
      | long hlong => exact absurd (hshort name List.mem_cons_self) (Nat.not_le.mpr hlong)
      | missing _ _ hnone => exact ⟨rfl, fun hall => (hall _ hnext).seen_ne_none hnone⟩
    | ok next =>
      rw [hstep] at hsteps
      cases hsteps with
      | there _ _ hthere =>
        have hdirectory := isDirectoryAt_of_clear hthere (hclear _ hnext)
        refine (ih hdirectory (fun l hl => hclear l (onWay_cons.mpr (.inr hl)))
          (List.forall_mem_cons.mp hshort).2).imp (And.imp_right ?_) (And.imp_right ?_)
        · intro hway l hl
          rcases onWay_cons.mp hl with rfl | hon
          · exact hstart
          · exact hway l hon
        · intro hnot hall
          exact hnot fun l hl => hall l (onWay_cons.mpr (.inr hl))

/-! ## Section 3: What a path means -/

variable {p : Path}

/-- The place that a path means, as far as can be told from the path. -/
def placeOf (fs : FileSystem) (p : Path) : Location := lead (fs.origin p) p.names

theorem Becomes.origin {contents : Location → Option ByteArray} {made : List Location}
    (h : fs.Becomes fs' contents made) : fs'.origin p = fs.origin p := by
  rw [FileSystem.origin, FileSystem.origin, h.workDir]

theorem find_ok (h : fs.find p = .ok node) :
    screen p = .ok () ∧ fs.walk (fs.origin p) p.names = .ok (fs.placeOf p) ∧
      fs.root.at? (fs.placeOf p) = some node := by
  unfold find at h
  obtain ⟨_, hscreen, hfollow⟩ := exists_of_bind h
  obtain ⟨l, hwalk, hfound⟩ := exists_of_bind hfollow
  obtain rfl : l = fs.placeOf p := (walk_ok hwalk).1
  refine ⟨hscreen, hwalk, ?_⟩
  split at hfound
  · next hat => exact hat.trans (congrArg some (Except.ok.inj hfound))
  · next hat =>
    split_ifs at hfound
    exact hat.trans (congrArg some (Except.ok.inj hfound))
  · cases hfound

theorem readFile_ok (h : fs.readFile p = .ok content) :
    fs.content? (fs.placeOf p) = some content := by
  unfold readFile at h
  obtain ⟨node, hfind, hcontent⟩ := exists_of_bind h
  cases node with
  | directory entries => cases hcontent
  | file own =>
    cases hcontent
    exact content?_eq_some_iff.mpr (find_ok hfind).2.2

theorem listDirectory_ok (h : fs.listDirectory p = .ok entries) :
    fs.find p = .ok (.directory entries) := by
  unfold listDirectory at h
  obtain ⟨node, hfind, hentries⟩ := exists_of_bind h
  cases node with
  | directory own =>
    cases hentries
    exact hfind
  | file content => cases hentries

theorem screen_missing (h : screen p = .error .missing) : p.bytes = [] := by
  unfold screen at h
  split_ifs at h with _ hnil
  · cases h
  · exact hnil
  · cases h

/-- A path that can be followed leads to something. -/
theorem seen_of_walk (hpath : p.bytes ≠ []) (h : fs.walk (fs.origin p) p.names = .ok l) :
    fs.seen l ≠ none := by
  by_cases hnames : p.names = []
  · have hroot : fs.origin p = [] := if_pos (Path.isAbsolute_of_names_eq_nil hpath hnames)
    rw [hnames, hroot] at h
    obtain rfl : [] = l := Except.ok.inj h
    cases hnode : fs.root <;> simp [seen, Node.at?, hnode]
  · exact (walk_ok h).2.2.1 hnames

/-- A directory is missing where something on the way is. -/
theorem listDirectory_missing (hpath : p.bytes ≠ []) (h : fs.listDirectory p = .error .missing) :
    screen p = .ok () ∧ fs.walk (fs.origin p) p.names = .error .missing := by
  unfold listDirectory find at h
  cases hscreen : screen p with
  | error x =>
    rw [hscreen] at h
    obtain rfl : x = .missing := Except.error.inj h
    exact absurd (screen_missing hscreen) hpath
  | ok _ =>
    refine ⟨rfl, ?_⟩
    cases hwalk : fs.walk (fs.origin p) p.names with
    | error x =>
      rw [hscreen, hwalk] at h
      rw [show x = .missing from Except.error.inj h]
    | ok l =>
      rw [hscreen, hwalk] at h
      simp only [bind, Except.bind, pure, Except.pure] at h
      cases hat : fs.root.at? l with
      | none => exact absurd (by rw [seen, hat, Option.map_none]) (seen_of_walk hpath hwalk)
      | some node =>
        rw [hat] at h
        cases node with
        | directory entries => cases h
        | file content =>
          simp only at h
          split_ifs at h
          · cases h
          · cases h

/-- An entry that a path means is at its place, in a directory that is there. -/
theorem entry_ok (h : fs.entry p = .ok (some e)) :
    e.place = fs.placeOf p ∧ fs.root.entriesAt? e.directory = some e.entries ∧
      ∀ l, OnWay (fs.origin p) p.names.dropLast l → fs.IsDirectoryAt l := by
  unfold entry at h
  obtain ⟨_, _, hfollow⟩ := exists_of_bind h
  obtain ⟨directory, hwalk, hfound⟩ := exists_of_bind hfollow
  obtain ⟨hlead, _, _, hway⟩ := walk_ok hwalk
  split at hfound
  · cases hfound
  · cases hfound
  · next entries name hentries hlast =>
    split_ifs at hfound with hspecial
    · cases hfound
    · cases hfound
      rw [not_or] at hspecial
      have hnames : p.names = p.names.dropLast ++ [name] :=
        (List.dropLast_append_getLast? _ hlast).symm
      have hplace : fs.placeOf p = directory ++ [name] := by
        rw [hlead, placeOf, hnames, lead, List.foldl_append, List.dropLast_concat]
        simp [onward, hspecial, lead]
      exact ⟨hplace.symm, hentries, hway (isDirectoryAt_iff.mpr ⟨entries, hentries⟩)⟩

/-- Of such a path only the last name may be too long. -/
theorem screen_of_entry (h : fs.entry p = .ok (some e)) :
    screen p = .ok () ∧ ∀ name ∈ p.names.dropLast, name.length ≤ FileName.longest := by
  unfold entry at h
  obtain ⟨_, hscreen, hfollow⟩ := exists_of_bind h
  obtain ⟨_, hwalk, _⟩ := exists_of_bind hfollow
  exact ⟨hscreen, (walk_ok hwalk).2.1⟩

/-- A path that can be followed in part can be followed so far. -/
theorem screen_of_child (hname : name.Plain) (hpath : p.bytes ≠ [])
    (h : screen (p.child name) = .ok ()) : screen p = .ok () := by
  have hfront : p.bytes <+: (p.child name).bytes := by
    rw [Path.bytes_child hname]
    split
    · exact List.prefix_append _ _
    · exact List.prefix_append _ _
  unfold screen at h ⊢
  split_ifs at h with hzero _ hlong
  rw [if_neg, if_neg hpath, if_neg]
  · exact fun hlonger => hlong (Nat.lt_of_lt_of_le hlonger hfront.length_le)
  · rw [List.contains_iff_mem] at hzero ⊢
    exact fun hmem => hzero (hfront.subset hmem)

/-! ## Section 4: Operations -/

theorem Entry.ne_of_not_isTaken (h : ¬ e.isTaken) (below : DirectoryEntries) :
    Node.child? e.name e.entries ≠ some (.directory below) := by
  intro hchild
  have hnode : e.node? = some (.directory below) := hchild
  exact h (by rw [isTaken, hnode])

/-- A directory that is made is at the place of its path, and no file changes. -/
theorem makeDirectory_ok (h : fs.makeDirectory p = .ok fs') :
    fs.Becomes fs' fs.content? [fs.placeOf p] := by
  unfold makeDirectory at h
  obtain ⟨found, hentry, hresult⟩ := exists_of_bind h
  cases found with
  | none => cases hresult
  | some e =>
    obtain ⟨hplace, hentries, _⟩ := entry_ok hentry
    cases hnode : e.node? with
    | some node =>
      simp only [hnode] at hresult
      cases hresult
    | none =>
      simp only [hnode] at hresult
      cases hresult
      rw [← hplace]
      exact becomes_put_directory hentries hnode

/-- A file that is written is at the place of its path. -/
theorem write_ok (h : fs.write p content = .ok fs') :
    fs.Becomes fs' (Function.update fs.content? (fs.placeOf p) (some content)) [] ∧
      ∀ l, OnWay (fs.origin p) p.names.dropLast l → fs.IsDirectoryAt l := by
  unfold write at h
  obtain ⟨found, hentry, hresult⟩ := exists_of_bind h
  cases found with
  | none => cases hresult
  | some e =>
    obtain ⟨hplace, hentries, hway⟩ := entry_ok hentry
    simp only at hresult
    split_ifs at hresult with htaken
    cases hresult
    rw [not_or] at htaken
    rw [← hplace]
    exact ⟨becomes_put_file hentries (Entry.ne_of_not_isTaken htaken.2), hway⟩

theorem exists_of_rename {source target : Path} (h : fs.rename source target = .ok fs') :
    ∃ content old new, fs.readFile source = .ok content ∧ fs.entry source = .ok (some old) ∧
      fs.entry target = .ok (some new) ∧ ¬ new.isTaken ∧
      (old.place = new.place ∨ fs' = (fs.put new (.file content)).remove old) := by
  unfold rename at h
  obtain ⟨content, hread, hentries⟩ := exists_of_bind h
  obtain ⟨_, hsource, hentry⟩ := exists_of_bind hentries
  obtain ⟨_, htarget, hresult⟩ := exists_of_bind hentry
  split at hresult
  · next old new =>
    split_ifs at hresult with _ htaken hsame
    · refine ⟨content, old, new, hread, hsource, htarget, htaken, .inl ?_⟩
      rw [Entry.place, Entry.place, hsame.1, hsame.2]
    · cases hresult
      exact ⟨content, old, new, hread, hsource, htarget, htaken, .inr rfl⟩
  · cases hresult

/-- A file that gets another name has it then, and no more the old one. -/
theorem rename_ok {source target : Path} (h : fs.rename source target = .ok fs')
    (hne : fs.placeOf source ≠ fs.placeOf target) :
    ∃ content, fs.content? (fs.placeOf source) = some content ∧
      fs.Becomes fs' (Function.update (Function.update fs.content? (fs.placeOf target)
        (some content)) (fs.placeOf source) none) [] ∧
      ∀ l, OnWay (fs.origin target) target.names.dropLast l → fs.IsDirectoryAt l := by
  obtain ⟨content, old, new, hread, hsource, htarget, htaken, hresult⟩ := exists_of_rename h
  obtain ⟨hold, _, _⟩ := entry_ok hsource
  obtain ⟨hnew, hentries, hway⟩ := entry_ok htarget
  have hcontent := readFile_ok hread
  rw [← hold] at hcontent
  rw [← hold, ← hnew] at hne ⊢
  have hput : fs.Becomes (fs.put new (.file content)) _ [] :=
    becomes_put_file hentries (Entry.ne_of_not_isTaken htaken)
  -- The file is still under its old name then.
  have hthere : (fs.put new (.file content)).content? old.place = some content := by
    rw [hput.contents, Function.update_of_ne hne, hcontent]
  obtain ⟨others, hothers, hchild⟩ := exists_entriesAt? hthere
  have hremove := becomes_remove hothers (by rw [hchild]; simp)
  rw [hput.contents] at hremove
  rw [hresult.resolve_left hne]
  exact ⟨content, hcontent, hput.trans hremove, hway⟩

end FileSystem

end ChassisRegistry
