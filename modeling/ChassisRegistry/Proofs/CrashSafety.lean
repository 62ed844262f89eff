import ChassisRegistry.Proofs.SiteFiles
import Mathlib.Logic.Relation

/-! # The directory is a map that survives crashes

    A store is a few changes to files, and each of them may fail or be the
    last one before the machine stops; what is written may be there in part.
    Whatever happens, loading gives for every site the blob whose rename came
    last, and gives it whole: a blob is written under a name that is not
    loaded, and gets the name of its site only at the end.

    Main statement: `DirectorySink.Disk.crash_safe`. -/

namespace ChassisRegistry

/-! ## Section 1: Storing step by step -/

/-- What a change may leave when it fails or the machine stops. A file gets another name as a
    whole or not at all. -/
inductive FileSystem.Part : FileSystem.Action → FileSystem → FileSystem → Prop where
  | directory {p q : Path} {fs fs' : FileSystem} (hq : q ∈ p :: p.ancestors)
      (hmade : fs.makeDirectory q = .ok fs') : Part (.makeDirectory p) fs fs'
  | file {p : Path} {content : ByteArray} {fs fs' : FileSystem} (n : Nat)
      (hwritten : fs.write p (content.extract 0 n) = .ok fs') : Part (.write p content) fs fs'

namespace DirectorySink

open FileSystem (Action OnWay lead onward Becomes Part)

/-- A store on the way, and the changes that it has not made yet. -/
structure Job where
  site : Site
  blob : ByteArray
  left : List Action

/-- The files, the store on the way, and the blobs that were renamed, in order. -/
structure Disk where
  files   : FileSystem
  job     : Option Job
  renamed : List (Site × ByteArray)

namespace Disk

/-- No blob was renamed yet. -/
def start (fs : FileSystem) : Disk := ⟨fs, none, []⟩

/-- The blob of a site that was renamed last. -/
def lastRenamed (w : Disk) (site : Site) : Option ByteArray :=
  SiteMap.lookup site w.renamed.reverse

end Disk

variable (d : DirectorySink)

/-- What may happen next. -/
inductive Moves : Disk → Disk → Prop where
  | begin {w : Disk} {site : Site} (blob : ByteArray) (hidle : w.job = none)
      (hkey : isKey site) : Moves w { w with job := some ⟨site, blob, d.storing site blob⟩ }
  | part {w : Disk} {job : Job} {action : Action} {rest : List Action} {fs : FileSystem}
      (hjob : w.job = some job) (hleft : job.left = action :: rest)
      (hpart : Part action w.files fs) : Moves w { w with files := fs }
  | whole {w : Disk} {job : Job} {action next : Action} {rest : List Action} {fs : FileSystem}
      (hjob : w.job = some job) (hleft : job.left = action :: next :: rest)
      (hdone : w.files.perform action = (.ok (), fs)) :
      Moves w { w with files := fs, job := some { job with left := next :: rest } }
  /-- The last change is made: the rename. -/
  | renamed {w : Disk} {job : Job} {action : Action} {fs : FileSystem}
      (hjob : w.job = some job) (hleft : job.left = [action])
      (hdone : w.files.perform action = (.ok (), fs)) :
      Moves w ⟨fs, none, w.renamed ++ [(job.site, job.blob)]⟩
  /-- The store fails, or the machine stops. -/
  | stop {w : Disk} : Moves w { w with job := none }

/-- The path can be that of a directory, which is not there or is empty. -/
structure Blank (fs : FileSystem) : Prop where
  path  : FileSystem.screen d.path = .ok ()
  short : ∀ name ∈ d.path.names, name.length ≤ FileName.longest
  start : fs.IsDirectoryAt (fs.origin d.path)
  clear : ∀ l, OnWay (fs.origin d.path) d.path.names l → fs.content? l = none
  empty : ∀ names, fs.seen (fs.placeOf d.path) = some (.directory names) → names = []

variable {d} {site : Site} {fs fs' : FileSystem}

/-- So it is where an empty directory is listed. -/
theorem blank_of_empty (h : fs.listDirectory d.path = .ok []) : d.Blank fs := by
  obtain ⟨hscreen, hwalk, hat⟩ := FileSystem.find_ok (FileSystem.listDirectory_ok h)
  obtain ⟨_, hshort, _, hway⟩ := FileSystem.walk_ok hwalk
  have hentries := Node.entriesAt?_eq_some_iff.mpr hat
  have hdirectories := hway (FileSystem.isDirectoryAt_iff.mpr ⟨[], hentries⟩)
  refine {
    path  := hscreen
    short := hshort
    start := hdirectories _ FileSystem.onWay_start
    clear := fun l hl => (hdirectories l hl).content?_eq_none
    empty := ?_ }
  intro names hnames
  rw [FileSystem.seen_of_entriesAt? hentries] at hnames
  cases hnames
  rfl

/-- So it is where the directory is missing, if its names are not too long and lead only down. The
    path of no bytes is that of no directory. -/
theorem blank_of_missing (hpath : d.path.bytes ≠ []) (habove : FileName.above ∉ d.path.names)
    (hshort : ∀ name ∈ d.path.names, name.length ≤ FileName.longest)
    (h : fs.listDirectory d.path = .error .missing) : d.Blank fs := by
  obtain ⟨hscreen, hwalk⟩ := FileSystem.listDirectory_missing hpath h
  obtain ⟨hstart, hclear, hnone⟩ := FileSystem.walk_missing habove hwalk
  refine {
    path  := hscreen
    short := hshort
    start := hstart
    clear := hclear
    empty := ?_ }
  intro names hnames
  cases hnone.symm.trans hnames

/-! ## Section 2: The invariant -/

/-- Of the files only those two of the site may have changed, and new directories are on the way to
    the one of the sink. -/
structure Spares (d : DirectorySink) (start : Location) (site : Site) (fs fs' : FileSystem) :
    Prop where
  files : ∀ l, fs'.content? l ≠ fs.content? l →
    l = lead start d.path.names ++ [whole site] ∨ l = lead start d.path.names ++ [begun site]
  stays : ∀ l, fs.IsDirectoryAt l → fs'.IsDirectoryAt l
  made  : ∀ l, fs'.IsDirectoryAt l → fs.IsDirectoryAt l ∨ OnWay start d.path.names l

/-- The files under the names of sites are the blobs that were renamed last, each whole, and there
    are no others but those that are not renamed yet. -/
structure Shelf (d : DirectorySink) (start : Location) (fs : FileSystem)
    (renamed : List (Site × ByteArray)) : Prop where
  origin   : fs.origin d.path = start
  ground   : fs.IsDirectoryAt start
  clear    : ∀ l, OnWay start d.path.names l → fs.content? l = none
  ready    : renamed ≠ [] → ∀ l, OnWay start d.path.names l → fs.IsDirectoryAt l
  distinct : fs.DistinctAt (lead start d.path.names)
  held     : ∀ site, Key site → fs.content? (lead start d.path.names ++ [whole site]) =
    SiteMap.lookup site renamed.reverse
  own      : ∀ name content, fs.content? (lead start d.path.names ++ [name]) = some content →
    ∃ site, Key site ∧ (name = whole site ∨ name = begun site)
  keys     : ∀ site blob, (site, blob) ∈ renamed → Key site

variable {start : Location} {renamed : List (Site × ByteArray)} {blob : ByteArray}

theorem shelf_of_blank (h : d.Blank fs) : Shelf d (fs.origin d.path) fs [] where
  origin   := rfl
  ground   := h.start
  clear    := h.clear
  ready    := fun hne => absurd rfl hne
  distinct := by
    intro names hseen
    rw [h.empty names hseen]
    exact List.nodup_nil
  held     := fun site _ => FileSystem.content?_of_empty h.empty (whole site)
  own      := by
    intro name content hcontent
    cases (FileSystem.content?_of_empty h.empty name).symm.trans hcontent
  keys     := fun _ _ hmem => absurd hmem List.not_mem_nil

theorem spares_refl : Spares d start site fs fs where
  files := fun _ hne => absurd rfl hne
  stays := fun _ hl => hl
  made  := fun _ hl => .inl hl

theorem Spares.trans {fs'' : FileSystem} (h : Spares d start site fs fs')
    (h' : Spares d start site fs' fs'') : Spares d start site fs fs'' where
  files := by
    intro l hne
    by_cases heq : fs'.content? l = fs.content? l
    · exact h'.files l (heq ▸ hne)
    · exact h.files l heq
  stays := fun l hl => h'.stays l (h.stays l hl)
  made  := fun l hl => (h'.made l hl).elim (h.made l) .inr

/-- Making directories on the way changes nothing that counts. -/
theorem Shelf.makeDirectory (h : Shelf d start fs renamed) {q : Path}
    (hq : q ∈ d.path :: d.path.ancestors) (hmade : fs.makeDirectory q = .ok fs') :
    Shelf d start fs' renamed ∧ Spares d start site fs fs' := by
  have hbecomes := FileSystem.makeDirectory_ok hmade
  have hway : OnWay (fs.origin d.path) d.path.names (fs.placeOf q) := onWay_of_mem hq
  rw [h.origin] at hway
  refine ⟨{
    origin   := hbecomes.origin.trans h.origin
    ground   := hbecomes.stays h.ground
    clear    := ?_
    ready    := fun hne l hl => hbecomes.stays (h.ready hne l hl)
    distinct := hbecomes.distinct h.distinct
    held     := ?_
    own      := ?_
    keys     := h.keys }, ?_, fun l => hbecomes.stays, ?_⟩
  · rw [hbecomes.contents]
    exact h.clear
  · rw [hbecomes.contents]
    exact h.held
  · rw [hbecomes.contents]
    exact h.own
  · intro l hne
    rw [hbecomes.contents] at hne
    exact absurd rfl hne
  · intro l hl
    refine (hbecomes.made hl).imp_right ?_
    intro hmem
    rw [List.mem_singleton.mp hmem]
    exact hway

/-- Once there are directories all the way, they stay, and no file comes in their place. -/
theorem Shelf.of_becomes (h : Shelf d start fs renamed) {contents : Location → Option ByteArray}
    {renamed' : List (Site × ByteArray)} (hbecomes : fs.Becomes fs' contents [])
    (hway : ∀ l, OnWay start d.path.names l → fs.IsDirectoryAt l)
    (hheld : ∀ site, Key site → contents (lead start d.path.names ++ [whole site]) =
      SiteMap.lookup site renamed'.reverse)
    (hown : ∀ name content, contents (lead start d.path.names ++ [name]) = some content →
      ∃ site, Key site ∧ (name = whole site ∨ name = begun site))
    (hkeys : ∀ site blob, (site, blob) ∈ renamed' → Key site) : Shelf d start fs' renamed' where
  origin   := hbecomes.origin.trans h.origin
  ground   := hbecomes.stays h.ground
  clear    := fun l hl => (hbecomes.stays (hway l hl)).content?_eq_none
  ready    := fun _ l hl => hbecomes.stays (hway l hl)
  distinct := hbecomes.distinct h.distinct
  held     := hbecomes.contents ▸ hheld
  own      := hbecomes.contents ▸ hown
  keys     := hkeys

theorem Shelf.write (h : Shelf d start fs renamed) (hkey : Key site)
    (hwritten : fs.write (d.path.child (begun site)) blob = .ok fs') :
    Shelf d start fs' renamed ∧ Spares d start site fs fs' := by
  obtain ⟨hbecomes, hway⟩ := FileSystem.write_ok hwritten
  rw [onWay_child (plain_begun hkey), h.origin] at hway
  rw [placeOf_begun hkey, FileSystem.placeOf, h.origin] at hbecomes
  refine ⟨?_, ?_, fun l => hbecomes.stays, fun l hl => .inl (hbecomes.stays_only hl)⟩
  · refine h.of_becomes hbecomes hway ?_ ?_ h.keys
    · intro other hother
      rw [Function.update_of_ne (by simpa using (begun_ne_whole hother).symm), h.held other hother]
    · intro name content hcontent
      by_cases heq : name = begun site
      · exact ⟨site, hkey, .inr heq⟩
      · rw [Function.update_of_ne (by simpa using heq)] at hcontent
        exact h.own name content hcontent
  · intro l hne
    apply Or.inr
    apply Decidable.byContradiction
    intro hother
    rw [hbecomes.contents, Function.update_of_ne hother] at hne
    exact hne rfl

theorem Shelf.rename (h : Shelf d start fs renamed) (hkey : Key site)
    (hblob : fs.content? (lead start d.path.names ++ [begun site]) = some blob)
    (hrenamed : fs.rename (d.path.child (begun site)) (d.path.child (whole site)) = .ok fs') :
    Shelf d start fs' (renamed ++ [(site, blob)]) ∧ Spares d start site fs fs' := by
  have hplace : fs.placeOf d.path = lead start d.path.names := by
    rw [FileSystem.placeOf, h.origin]
  have hne : begun site ≠ whole site := begun_ne_whole hkey
  obtain ⟨content, hcontent, hbecomes, hway⟩ := FileSystem.rename_ok hrenamed (by
    rw [placeOf_begun hkey, placeOf_whole hkey]
    simpa using hne)
  rw [placeOf_begun hkey, hplace, hblob] at hcontent
  obtain rfl : blob = content := Option.some.inj hcontent
  rw [placeOf_begun hkey, placeOf_whole hkey, hplace] at hbecomes
  rw [onWay_child (plain_whole hkey), h.origin] at hway
  refine ⟨h.of_becomes hbecomes hway ?_ ?_ ?_, ?_, fun l => hbecomes.stays,
    fun l hl => .inl (hbecomes.stays_only hl)⟩
  · intro other hother
    rw [Function.update_of_ne (by simpa using (begun_ne_whole hother).symm)]
    have hlast := congrFun (SiteMap.lookup_reverse_concat renamed site blob) other
    rw [hlast]
    by_cases heq : other = site
    · rw [heq, Function.update_self, Function.update_self]
    · rw [Function.update_of_ne heq, Function.update_of_ne, h.held other hother]
      simpa using fun hsame => heq (whole_injective hsame)
  · intro name content hcontent
    by_cases hbegun : name = begun site
    · exact ⟨site, hkey, .inr hbegun⟩
    · rw [Function.update_of_ne (by simpa using hbegun)] at hcontent
      by_cases hwhole : name = whole site
      · exact ⟨site, hkey, .inl hwhole⟩
      · rw [Function.update_of_ne (by simpa using hwhole)] at hcontent
        exact h.own name content hcontent
  · intro other content hmem
    rcases List.mem_append.mp hmem with hmem | hmem
    · exact h.keys other content hmem
    · cases List.mem_singleton.mp hmem
      exact hkey
  · intro l hne
    by_cases hbegun : l = lead start d.path.names ++ [begun site]
    · exact .inr hbegun
    · left
      apply Decidable.byContradiction
      intro hwhole
      rw [hbecomes.contents, Function.update_of_ne hbegun, Function.update_of_ne hwhole] at hne
      exact hne rfl

/-! ## Section 3: Loading -/

/-- The directory is listed when there are directories all the way, and else it is missing. -/
theorem Shelf.listDirectory (h : Shelf d start fs renamed)
    (hpath : FileSystem.screen d.path = .ok ())
    (hshort : ∀ name ∈ d.path.names, name.length ≤ FileName.longest) :
    (∃ entries, fs.root.entriesAt? (lead start d.path.names) = some entries ∧
        fs.listDirectory d.path = .ok entries) ∨
      renamed = [] ∧ fs.listDirectory d.path = .error .missing := by
  unfold FileSystem.listDirectory FileSystem.find
  rw [hpath, h.origin]
  rcases FileSystem.walk_cases h.ground h.clear hshort with ⟨hwalk, hway⟩ | ⟨hwalk, hnot⟩
  · obtain ⟨entries, hentries⟩ :=
      FileSystem.isDirectoryAt_iff.mp (hway _ FileSystem.onWay_lead)
    left
    refine ⟨entries, hentries, ?_⟩
    rw [hwalk]
    simp only [bind, Except.bind, Node.entriesAt?_eq_some_iff.mp hentries]
    rfl
  · right
    rw [hwalk]
    refine ⟨?_, rfl⟩
    apply Decidable.byContradiction
    intro hne
    exact hnot (h.ready hne)

/-- Loading gives the blobs that were renamed last. -/
theorem Shelf.load (h : Shelf d start fs renamed) (hpath : FileSystem.screen d.path = .ok ())
    (hshort : ∀ name ∈ d.path.names, name.length ≤ FileName.longest) :
    ∃ blobs, d.load fs = .ok blobs ∧
      (blobs.map Prod.fst).Pairwise (fun a b => a.text < b.text) ∧
      ∀ site blob, (site, blob) ∈ blobs ↔ SiteMap.lookup site renamed.reverse = some blob := by
  unfold DirectorySink.load
  rcases h.listDirectory hpath hshort with ⟨entries, hentries, hlist⟩ | ⟨hnone, hlist⟩
  · rw [hlist]
    have hnodup := h.distinct _ (FileSystem.seen_of_entriesAt? hentries)
    have hcontent : ∀ name content, fs.content? (lead start d.path.names ++ [name]) =
        some content ↔ (name, .file content) ∈ entries :=
      fun _ _ => FileSystem.content?_child hentries hnodup
    refine ⟨(blobsOf entries).entries, rfl, (blobsOf entries).sorted, ?_⟩
    intro site blob
    rw [mem_blobsOf hnodup fun name content hmem => h.own name content ((hcontent ..).mpr hmem),
      ← hcontent]
    constructor
    · rintro ⟨hkey, hfile⟩
      rw [← h.held site hkey, hfile]
    · intro hlast
      have hkey := h.keys site blob (List.mem_reverse.mp (SiteMap.mem_of_lookup hlast))
      rw [h.held site hkey]
      exact ⟨hkey, hlast⟩
  · rw [hlist, hnone]
    exact ⟨[], rfl, List.Pairwise.nil, fun site blob => by simp [SiteMap.lookup]⟩

/-! ## Section 4: Making all directories -/

open Relation (ReflTransGen)

/-- One of the directories is made. -/
def MakesOne (paths : List Path) (fs fs' : FileSystem) : Prop :=
  ∃ q ∈ paths, fs.makeDirectory q = .ok fs'

theorem makes_of_ensureDirectory {p : Path} {paths : List Path} (hp : p ∈ paths)
    (h : fs.ensureDirectory p = .ok fs') : ReflTransGen (MakesOne paths) fs fs' := by
  unfold FileSystem.ensureDirectory at h
  split at h
  · split_ifs at h
    cases h
    exact .refl
  · exact .single ⟨p, hp, h⟩

/-- Directories are made one by one, also when one of them cannot be made. -/
theorem makes_ensureEach (paths : List Path) (fs : FileSystem) :
    ReflTransGen (MakesOne paths) fs (fs.ensureEach paths).2 := by
  induction paths generalizing fs with
  | nil => exact .refl
  | cons p above ih =>
    have hfirst : p ∈ p :: above := List.mem_cons_self
    have habove : ∀ fs' : FileSystem,
        ReflTransGen (MakesOne (p :: above)) fs' (fs'.ensureEach above).2 := by
      intro fs'
      refine ReflTransGen.mono ?_ _ _ (ih fs')
      rintro _ _ ⟨q, hq, hmade⟩
      exact ⟨q, List.mem_cons_of_mem _ hq, hmade⟩
    unfold FileSystem.ensureEach
    split
    · next hensure => exact makes_of_ensureDirectory hfirst hensure
    · have hrest := habove fs
      split
      · next hsome => rwa [hsome] at hrest
      · next hsome =>
        rw [hsome] at hrest
        split
        · next hensure => exact hrest.trans (makes_of_ensureDirectory hfirst hensure)
        · exact hrest
    · exact .refl

theorem makes_makeDirectories (p : Path) (fs : FileSystem) :
    ReflTransGen (MakesOne (p :: p.ancestors)) fs (fs.makeDirectories p).2 := by
  unfold FileSystem.makeDirectories
  split
  · exact .refl
  · exact makes_ensureEach _ _

theorem Shelf.makeDirectories (h : Shelf d start fs renamed)
    (hmakes : ReflTransGen (MakesOne (d.path :: d.path.ancestors)) fs fs') :
    Shelf d start fs' renamed ∧ Spares d start site fs fs' := by
  induction hmakes with
  | refl => exact ⟨h, spares_refl⟩
  | tail _ hone ih =>
    obtain ⟨q, hq, hmade⟩ := hone
    obtain ⟨hshelf, hspares⟩ := ih
    obtain ⟨hshelf', hspares'⟩ := hshelf.makeDirectory hq hmade
    exact ⟨hshelf', hspares.trans hspares'⟩

/-! ## Section 5: Steps -/

/-- How far a store on the way has come. Before the rename, the whole blob is under the first
    name. -/
inductive Due (d : DirectorySink) (start : Location) (fs : FileSystem) : Job → Prop where
  | making {site : Site} {blob : ByteArray} (hkey : Key site) :
      Due d start fs ⟨site, blob, d.storing site blob⟩
  | writing {site : Site} {blob : ByteArray} (hkey : Key site) :
      Due d start fs ⟨site, blob, (d.storing site blob).drop 1⟩
  | naming {site : Site} {blob : ByteArray} (hkey : Key site)
      (hwritten : fs.content? (lead start d.path.names ++ [begun site]) = some blob) :
      Due d start fs ⟨site, blob, (d.storing site blob).drop 2⟩

structure Disk.Sound (d : DirectorySink) (start : Location) (w : Disk) : Prop where
  shelf : Shelf d start w.files w.renamed
  due   : ∀ job, w.job = some job → Due d start w.files job

variable {w w' : Disk}

theorem attempt_ok {result : Except FileError FileSystem}
    (h : fs.attempt result = (.ok (), fs')) : result = .ok fs' := by
  cases result with
  | ok made =>
    cases h
    rfl
  | error x => cases h

/-- A file that was begun is there, under the name for it. -/
theorem content?_begun (horigin : fs.origin d.path = start) (hkey : Key site)
    (hwritten : fs.write (d.path.child (begun site)) blob = .ok fs') :
    fs'.content? (lead start d.path.names ++ [begun site]) = some blob := by
  have hplace : fs.placeOf (d.path.child (begun site)) = fs.placeOf d.path ++ [begun site] :=
    placeOf_begun hkey
  rw [FileSystem.placeOf, FileSystem.placeOf, horigin] at hplace
  rw [(FileSystem.write_ok hwritten).1.contents, FileSystem.placeOf, hplace, Function.update_self]

/-- What a move does to a disk: it takes up a store or gives it up, or it makes directories, writes
    a file under the first name, or renames it, for the store on the way. -/
inductive Does (d : DirectorySink) (start : Location) (w : Disk) : Disk → Prop where
  | turns {next : Option Job} (hdue : ∀ job, next = some job → Due d start w.files job) :
      Does d start w { w with job := next }
  | makes {job : Job} {fs : FileSystem} {next : Option Job} (hjob : w.job = some job)
      (hmakes : ReflTransGen (MakesOne (d.path :: d.path.ancestors)) w.files fs)
      (hdue : ∀ job, next = some job → Due d start fs job) : Does d start w ⟨fs, next, w.renamed⟩
  | writes {job : Job} {blob : ByteArray} {fs : FileSystem} {next : Option Job}
      (hjob : w.job = some job) (hkey : Key job.site)
      (hwritten : w.files.write (d.path.child (begun job.site)) blob = .ok fs)
      (hdue : ∀ job, next = some job → Due d start fs job) : Does d start w ⟨fs, next, w.renamed⟩
  | renames {job : Job} {fs : FileSystem} (hjob : w.job = some job) (hkey : Key job.site)
      (hblob : w.files.content? (lead start d.path.names ++ [begun job.site]) = some job.blob)
      (hrenamed : w.files.rename (d.path.child (begun job.site))
        (d.path.child (whole job.site)) = .ok fs) :
      Does d start w ⟨fs, none, w.renamed ++ [(job.site, job.blob)]⟩

theorem not_due : ∀ job, none = some job → Due d start fs job := by
  intro job hjob
  cases hjob

theorem due_of_some {job : Job} (hdue : Due d start fs job) :
    ∀ other, some job = some other → Due d start fs other := by
  intro other hother
  cases hother
  exact hdue

theorem Moves.does (horigin : w.files.origin d.path = start)
    (hdue : ∀ job, w.job = some job → Due d start w.files job) (hmoves : d.Moves w w') :
    Does d start w w' := by
  cases hmoves with
  | begin blob hidle hkey => exact .turns (due_of_some (.making ((isKey_iff _).mp hkey)))
  | stop => exact .turns not_due
  | part hjob hleft hpart =>
    cases hdue _ hjob with
    | making hkey =>
      obtain ⟨rfl, _⟩ := List.cons.inj hleft
      cases hpart with
      | directory hq hmade =>
        exact .makes hjob (.single ⟨_, hq, hmade⟩) (hjob ▸ due_of_some (.making hkey))
    | writing hkey =>
      obtain ⟨rfl, _⟩ := List.cons.inj hleft
      cases hpart with
      | file n hwritten =>
        exact .writes hjob hkey hwritten (hjob ▸ due_of_some (.writing hkey))
    | naming hkey hwritten =>
      obtain ⟨rfl, _⟩ := List.cons.inj hleft
      cases hpart
  | whole hjob hleft hdone =>
    cases hdue _ hjob with
    | making hkey =>
      obtain ⟨rfl, hrest⟩ := List.cons.inj hleft
      have hmakes := makes_makeDirectories d.path w.files
      rw [show w.files.makeDirectories d.path = _ from hdone] at hmakes
      exact .makes hjob hmakes (due_of_some (hrest ▸ .writing hkey))
    | writing hkey =>
      obtain ⟨rfl, hrest⟩ := List.cons.inj hleft
      have hwritten := attempt_ok hdone
      exact .writes hjob hkey hwritten
        (due_of_some (hrest ▸ .naming hkey (content?_begun horigin hkey hwritten)))
    | naming hkey hwritten => cases hleft
  | renamed hjob hleft hdone =>
    cases hdue _ hjob with
    | making hkey => cases hleft
    | writing hkey => cases hleft
    | naming hkey hwritten =>
      obtain ⟨rfl, _⟩ := List.cons.inj hleft
      exact .renames hjob hkey hwritten (attempt_ok hdone)

theorem Disk.Sound.moves (h : w.Sound d start) (hmoves : d.Moves w w') :
    w'.Sound d start ∧ (w'.files = w.files ∨
      ∃ job, w.job = some job ∧ Spares d start job.site w.files w'.files) := by
  cases hmoves.does h.shelf.origin h.due with
  | turns hdue => exact ⟨⟨h.shelf, hdue⟩, .inl rfl⟩
  | makes hjob hmakes hdue =>
    obtain ⟨hshelf, hspares⟩ := h.shelf.makeDirectories hmakes
    exact ⟨⟨hshelf, hdue⟩, .inr ⟨_, hjob, hspares⟩⟩
  | writes hjob hkey hwritten hdue =>
    obtain ⟨hshelf, hspares⟩ := h.shelf.write hkey hwritten
    exact ⟨⟨hshelf, hdue⟩, .inr ⟨_, hjob, hspares⟩⟩
  | renames hjob hkey hblob hrenamed =>
    obtain ⟨hshelf, hspares⟩ := h.shelf.rename hkey hblob hrenamed
    exact ⟨⟨hshelf, not_due⟩, .inr ⟨_, hjob, hspares⟩⟩

theorem Disk.Sound.run (h : w.Sound d start) (hrun : ReflTransGen d.Moves w w') :
    w'.Sound d start := by
  induction hrun with
  | refl => exact h
  | tail _ hmoves ih => exact (ih.moves hmoves).1

/-- So it is with every disk that is reached from a blank directory. -/
theorem Disk.sound_of_run (hblank : d.Blank fs) (hrun : ReflTransGen d.Moves (.start fs) w) :
    w.Sound d (fs.origin d.path) :=
  have hstart : (Disk.start fs).Sound d (fs.origin d.path) := ⟨shelf_of_blank hblank, not_due⟩
  hstart.run hrun

/-! ## Section 6: A store is a run -/

/-- The disk after a store that was not cut off. -/
def Disk.stored (d : DirectorySink) (w : Disk) (site : Site) (blob : ByteArray) : Disk :=
  match d.store site blob w.files with
  | (.ok (), fs) => ⟨fs, none, w.renamed ++ [(site, blob)]⟩
  | (.error _, fs) => ⟨fs, none, w.renamed⟩

/-- Directories that are made one by one are parts of one change. -/
theorem run_of_makes {job : Job} {rest : List Action} {p : Path}
    (hjob : w.job = some job) (hleft : job.left = .makeDirectory p :: rest)
    (hmakes : ReflTransGen (MakesOne (p :: p.ancestors)) w.files fs) :
    ReflTransGen d.Moves w { w with files := fs } := by
  induction hmakes with
  | refl => exact .refl
  | tail _ hone ih =>
    obtain ⟨q, hq, hmade⟩ := hone
    exact ih.tail (.part hjob hleft (.directory hq hmade))

theorem attempt_error {result : Except FileError FileSystem} {x : FileError}
    (h : fs.attempt result = (.error x, fs')) : fs' = fs := by
  cases result with
  | ok made => cases h
  | error y =>
    cases h
    rfl

/-- A change that fails leaves a part of it. -/
theorem run_of_failed {job : Job} {action : Action} {rest : List Action} {x : FileError}
    (hjob : w.job = some job) (hleft : job.left = action :: rest)
    (hfailed : w.files.perform action = (.error x, fs)) :
    ReflTransGen d.Moves w ⟨fs, none, w.renamed⟩ := by
  have hparts : ReflTransGen d.Moves w { w with files := fs } := by
    cases action with
    | makeDirectory p =>
      have hmakes := makes_makeDirectories p w.files
      rw [show w.files.makeDirectories p = _ from hfailed] at hmakes
      exact run_of_makes hjob hleft hmakes
    | write p content =>
      rw [attempt_error hfailed]
    | rename source target =>
      rw [attempt_error hfailed]
  exact hparts.tail .stop

/-- The disk after changes were made up to the first that failed. -/
def Disk.performed (w : Disk) (site : Site) (blob : ByteArray) :
    Except FileError Unit × FileSystem → Disk
  | (.ok (), fs) => ⟨fs, none, w.renamed ++ [(site, blob)]⟩
  | (.error _, fs) => ⟨fs, none, w.renamed⟩

theorem run_performEach {actions : List Action} (hne : actions ≠ [])
    (hjob : w.job = some ⟨site, blob, actions⟩) :
    ReflTransGen d.Moves w (w.performed site blob (w.files.performEach actions)) := by
  induction actions generalizing w with
  | nil => exact absurd rfl hne
  | cons action rest ih =>
    unfold FileSystem.performEach
    split
    · next hfailed => exact run_of_failed hjob rfl hfailed
    · next fs hdone =>
      cases rest with
      | nil => exact .single (.renamed hjob rfl hdone)
      | cons next rest =>
        have hmove : d.Moves w { w with files := fs, job := some ⟨site, blob, next :: rest⟩ } :=
          .whole hjob rfl hdone
        exact (ih (List.cons_ne_nil _ _) rfl).head hmove

theorem run_store (hidle : w.job = none) (site : Site) (blob : ByteArray) :
    ReflTransGen d.Moves w (w.stored d site blob) := by
  unfold Disk.stored store
  split_ifs with hkey
  · have hbegin : d.Moves w { w with job := some ⟨site, blob, d.storing site blob⟩ } :=
      .begin blob hidle hkey
    have hrun := (run_performEach (by simp [storing]) rfl).head hbegin
    cases hresult : w.files.performEach (d.storing site blob) with
    | mk result fs =>
      rw [hresult] at hrun
      cases result with
      | ok _ => exact hrun
      | error x => exact hrun
  · exact .single .stop

/-! ## Section 7: Crash safety -/

/-- What holds of a disk whose directory was blank at the start, whatever was stored and wherever it
    was cut off. -/
structure Disk.CrashSafe (d : DirectorySink) (start : Location) (w : Disk) : Prop where
  /-- Loading gives the blobs that were renamed last, whole, in order and each site once. -/
  loads   : ∃ blobs, d.load w.files = .ok blobs ∧
    (blobs.map Prod.fst).Pairwise (fun a b => a.text < b.text) ∧
    ∀ site blob, (site, blob) ∈ blobs ↔ w.lastRenamed site = some blob
  /-- What happens next changes nothing but the two files of the site on the way. -/
  spares  : ∀ {w'}, d.Moves w w' → w'.files = w.files ∨
    ∃ job, w.job = some job ∧ Spares d start job.site w.files w'.files
  /-- The files of two sites are apart. -/
  apart   : ∀ {a b}, Key a → Key b → a ≠ b → [whole a, begun a].Disjoint [whole b, begun b]
  /-- What is loaded for the other sites stays. -/
  others  : ∀ {w'}, d.Moves w w' → ∃ blobs blobs', d.load w.files = .ok blobs ∧
    d.load w'.files = .ok blobs' ∧ ∀ site, (∀ job, w.job = some job → job.site ≠ site) →
      ∀ blob, (site, blob) ∈ blobs' ↔ (site, blob) ∈ blobs
  /-- A store that is not cut off is such a run, and its rename has happened when it succeeds. -/
  stores  : w.job = none → ∀ site blob, ReflTransGen d.Moves w (w.stored d site blob)
  /-- A site that cannot be the name of a file is refused, and nothing is touched. -/
  refuses : ∀ site blob, ¬ Key site →
    d.store site blob w.files = (.error (.badKey site.text), w.files)

/-- Only the site on the way may get another last blob. -/
theorem Moves.lastRenamed (hmoves : d.Moves w w') {site : Site}
    (hother : ∀ job, w.job = some job → job.site ≠ site) :
    w'.lastRenamed site = w.lastRenamed site := by
  cases hmoves with
  | @renamed job _ _ hjob hleft hdone =>
    have hlast := congrFun (SiteMap.lookup_reverse_concat w.renamed job.site job.blob) site
    exact hlast.trans (Function.update_of_ne (hother job hjob).symm _ _)
  | _ => rfl

/-- **The directory is a map that survives crashes.** -/
theorem Disk.crash_safe (hblank : d.Blank fs) (hrun : ReflTransGen d.Moves (.start fs) w) :
    w.CrashSafe d (fs.origin d.path) := by
  have hsound := Disk.sound_of_run hblank hrun
  have hload := hsound.shelf.load hblank.path hblank.short
  refine {
    loads   := hload
    spares  := fun hmoves => (hsound.moves hmoves).2
    apart   := disjoint_names
    others  := ?_
    stores  := run_store
    refuses := ?_ }
  · intro w' hmoves
    obtain ⟨blobs, hblobs, _, hmem⟩ := hload
    obtain ⟨blobs', hblobs', _, hmem'⟩ :=
      (hsound.moves hmoves).1.shelf.load hblank.path hblank.short
    refine ⟨blobs, blobs', hblobs, hblobs', ?_⟩
    intro site hother blob
    rw [hmem, hmem']
    have hsame := hmoves.lastRenamed hother
    unfold Disk.lastRenamed at hsame
    rw [hsame]
  · intro site blob hnot
    rw [store, if_neg (by rwa [isKey_iff])]

/-! ## Section 8: A store that is cut off -/

/-- The disk after a store that was cut off when so many bytes were written. -/
def Disk.cutOff (d : DirectorySink) (w : Disk) (site : Site) (blob : ByteArray) (n : Nat) : Disk :=
  let made := (w.files.makeDirectories d.path).2
  ⟨(made.attempt (made.write (d.path.child (begun site)) (blob.extract 0 n))).2, none, w.renamed⟩

theorem stored_job (w : Disk) (site : Site) (blob : ByteArray) :
    (w.stored d site blob).job = none := by
  unfold Disk.stored
  split
  · rfl
  · rfl

theorem run_cutOff (hidle : w.job = none) (hkey : isKey site) (n : Nat)
    (hmade : (w.files.makeDirectories d.path).1 = .ok ()) :
    ReflTransGen d.Moves w (w.cutOff d site blob n) := by
  have hbegin : d.Moves w _ := .begin blob hidle hkey
  have hwhole := ReflTransGen.tail (.single hbegin) (.whole rfl rfl (Prod.ext hmade rfl))
  refine ReflTransGen.trans hwhole ?_
  unfold Disk.cutOff
  cases hwritten : (w.files.makeDirectories d.path).2.write (d.path.child (begun site))
    (blob.extract 0 n) with
  | error x =>
    simp only [hwritten]
    exact .single .stop
  | ok fs =>
    simp only [hwritten]
    exact ReflTransGen.tail (.single (.part rfl rfl (.file n hwritten))) .stop

/-- Of the second blob one byte is written when the machine stops; the first one is still whole. -/
theorem crash_safe_torn :
    let site : Site := ⟨"yard", by decide, by decide⟩
    let d : DirectorySink := ⟨.ofText "/sites", "/sites"⟩
    let w := ((Disk.start .empty).stored d site ⟨#[1, 2]⟩).cutOff d site ⟨#[3, 4]⟩ 1
    d.Blank .empty ∧ ReflTransGen d.Moves (.start .empty) w ∧ w.CrashSafe d [] ∧
      w.lastRenamed site = some ⟨#[1, 2]⟩ ∧
      w.files.content? [FileName.ofText "sites", begun site] = some ⟨#[3]⟩ := by
  intro site d w
  have horigin : FileSystem.empty.origin d.path = [] := by decide +kernel
  have hblank : d.Blank .empty := by
    have hscreen : FileSystem.screen d.path = .ok () := by decide +kernel
    have hwalk : FileSystem.empty.walk [] d.path.names = .error .missing := by decide +kernel
    refine blank_of_missing (by decide +kernel) (by decide +kernel) (by decide +kernel) ?_
    unfold FileSystem.listDirectory FileSystem.find
    rw [hscreen, horigin, hwalk]
    rfl
  have hrun : ReflTransGen d.Moves (.start .empty) w :=
    (run_store rfl site ⟨#[1, 2]⟩).trans
      (run_cutOff (stored_job _ _ _) (by decide +kernel) 1 (by decide +kernel))
  refine ⟨hblank, hrun, ?_, by decide +kernel, by decide +kernel⟩
  rw [← horigin]
  exact Disk.crash_safe hblank hrun

end DirectorySink

end ChassisRegistry
