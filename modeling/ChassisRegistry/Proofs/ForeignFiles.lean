import ChassisRegistry.Proofs.CrashSafety

/-! # Files that the sink did not write

    The directory of a sink may hold anything before the first store. Files
    that are hidden or not yet whole, and directories, are not loaded. But the
    blanks around a name are taken off before it is read as a site, so a file
    with such a name is loaded for a site whose own file is another one, and
    of the two the one that the system lists later counts. What was stored is
    loaded in every order exactly when all such files hold the same blob.

    Main statement: `DirectorySink.Disk.loads_stored`. -/

namespace ChassisRegistry.DirectorySink

open FileSystem (OnWay lead)
open Relation (ReflTransGen)

/-! ## Section 1: Namesakes -/

/-- A name that is not the sink's own for the site, and under which a file is loaded for it all the
    same: the text of the site with blanks around it. -/
structure Namesake (site : Site) (name : FileName) : Prop where
  other : name ≠ whole site
  text  : ∃ text, FileName.text? name = some text ∧ isBlobName text = true ∧
    Text.trim text = site.text

/-- A name that the sink never writes. -/
def Foreign (name : FileName) : Prop :=
  ∀ site, Key site → name ≠ whole site ∧ name ≠ begun site

variable {site : Site} {name : FileName} {content blob : ByteArray}

theorem parse_eq_ok_iff {text : String} : Site.parse text = .ok site ↔ Text.trim text = site.text := by
  unfold Site.parse
  constructor
  · intro h
    split_ifs at h
    cases h
    rfl
  · intro h
    rw [dif_neg (by rw [h]; exact site.not_blank), Except.ok.injEq]
    exact Site.ext h

/-- A file is loaded for a site under its own name and those of its namesakes. -/
theorem blobOf?_eq_some_iff (hkey : Key site) {node : Node} :
    blobOf? (name, node) = some (site, blob) ↔
      node = .file blob ∧ (name = whole site ∨ Namesake site name) := by
  constructor
  · intro h
    cases node with
    | directory below => cases h
    | file own =>
      unfold blobOf? at h
      split at h
      · next content text hnode htext =>
        obtain rfl : own = content := by cases hnode; rfl
        split_ifs at h with hname
        rw [Option.map_eq_some_iff] at h
        obtain ⟨parsed, hparsed, hpair⟩ := h
        cases hpair
        have hparse : Site.parse text = .ok site := by
          cases hresult : Site.parse text with
          | error e =>
            rw [hresult] at hparsed
            cases hparsed
          | ok found =>
            rw [hresult] at hparsed
            cases hparsed
            rfl
        refine ⟨rfl, ?_⟩
        by_cases hown : name = whole site
        · exact .inl hown
        · exact .inr ⟨hown, text, htext, hname, parse_eq_ok_iff.mp hparse⟩
      · cases h
  · rintro ⟨rfl, rfl | hnamesake⟩
    · exact blobOf?_whole hkey
    · obtain ⟨text, htext, hname, htrim⟩ := hnamesake.text
      simp only [blobOf?, htext, hname, if_true, parse_eq_ok_iff.mpr htrim]
      rfl

/-- The sink writes no file under the name of a namesake, not for another site either. -/
theorem Namesake.foreign (h : Namesake site name) : Foreign name := by
  obtain ⟨text, htext, hname, htrim⟩ := h.text
  intro other hkey
  constructor
  · rintro rfl
    rw [whole, FileName.text?_ofText, Option.some.injEq] at htext
    rw [← htext, other.trimmed] at htrim
    exact h.other (by rw [Site.ext htrim])
  · rintro rfl
    have hloaded : blobOf? (begun other, .file .empty) = some (site, .empty) := by
      simp only [blobOf?, htext, hname, if_true, parse_eq_ok_iff.mpr htrim]
      rfl
    rw [blobOf?_begun] at hloaded
    cases hloaded

/-! ## Section 2: The directory is there -/

variable {d : DirectorySink} {fs fs' initial : FileSystem}

/-- The path of the sink leads to a directory. -/
structure Reached (d : DirectorySink) (fs : FileSystem) : Prop where
  path  : d.path.bytes ≠ [] → FileSystem.screen d.path = .ok ()
  short : ∀ name ∈ d.path.names, name.length ≤ FileName.longest
  way   : ∀ l, OnWay (fs.origin d.path) d.path.names l → fs.IsDirectoryAt l

/-- So it does where a file got the name of a site. -/
theorem reached_of_rename (hkey : Key site)
    (h : fs.rename (d.path.child (begun site)) (d.path.child (whole site)) = .ok fs') :
    Reached d fs := by
  obtain ⟨_, _, new, _, _, hentry, _, _⟩ := FileSystem.exists_of_rename h
  obtain ⟨_, _, hway⟩ := FileSystem.entry_ok hentry
  obtain ⟨hscreen, hshort⟩ := FileSystem.screen_of_entry hentry
  rw [onWay_child (plain_whole hkey)] at hway
  rw [Path.names_child (plain_whole hkey), List.dropLast_concat] at hshort
  exact ⟨fun hpath => FileSystem.screen_of_child (plain_whole hkey) hpath hscreen, hshort, hway⟩

theorem Reached.becomes (h : Reached d fs) {contents : Location → Option ByteArray}
    {made : List Location} (hbecomes : fs.Becomes fs' contents made) : Reached d fs' where
  path  := h.path
  short := h.short
  way   := by
    rw [hbecomes.origin]
    exact fun l hl => hbecomes.stays (h.way l hl)

theorem Reached.exists_listed (h : Reached d fs) (hpath : d.path.bytes ≠ []) :
    ∃ listed, fs.listDirectory d.path = .ok listed := by
  have hstart := h.way _ FileSystem.onWay_start
  have hclear : ∀ l, OnWay (fs.origin d.path) d.path.names l → fs.content? l = none :=
    fun l hl => (h.way l hl).content?_eq_none
  obtain ⟨listed, hlisted⟩ := FileSystem.isDirectoryAt_iff.mp (h.way _ FileSystem.onWay_lead)
  unfold FileSystem.listDirectory FileSystem.find
  rcases FileSystem.walk_cases hstart hclear h.short with ⟨hwalk, _⟩ | ⟨_, hnot⟩
  · refine ⟨listed, ?_⟩
    rw [h.path hpath, hwalk]
    simp only [bind, Except.bind, Node.entriesAt?_eq_some_iff.mp hlisted]
    rfl
  · exact absurd h.way hnot

theorem load_of_listed {listed : DirectoryEntries} (h : fs.listDirectory d.path = .ok listed) :
    d.load fs = .ok (blobsOf listed).entries := by
  rw [load, h]

/-- The path of no bytes is that of no directory. -/
theorem load_of_no_path (h : d.path.bytes = []) (fs : FileSystem) : d.load fs = .ok [] := by
  have hscreen : FileSystem.screen d.path = .error .missing := by
    rw [FileSystem.screen, h]
    rfl
  have hlist : fs.listDirectory d.path = .error .missing := by
    unfold FileSystem.listDirectory FileSystem.find
    rw [hscreen]
    rfl
  rw [load, hlist]

/-! ## Section 3: The invariant -/

/-- What was stored is under the names of its sites, and what the sink never writes is as it was. -/
structure Bench (d : DirectorySink) (initial fs : FileSystem) (renamed : List (Site × ByteArray)) :
    Prop where
  origin   : fs.origin d.path = initial.origin d.path
  distinct : fs.DistinctAt (initial.placeOf d.path)
  reached  : renamed ≠ [] → Reached d fs
  held     : ∀ site blob, SiteMap.lookup site renamed.reverse = some blob →
    Key site ∧ fs.content? (initial.placeOf d.path ++ [whole site]) = some blob
  foreign  : ∀ name, Foreign name →
    fs.content? (initial.placeOf d.path ++ [name]) =
      initial.content? (initial.placeOf d.path ++ [name])

variable {renamed : List (Site × ByteArray)}

theorem bench_initial (h : initial.DistinctAt (initial.placeOf d.path)) :
    Bench d initial initial [] where
  origin   := rfl
  distinct := h
  reached  := fun hne => absurd rfl hne
  held     := nofun
  foreign  := fun _ _ => rfl

theorem Bench.placeOf_eq (h : Bench d initial fs renamed) :
    fs.placeOf d.path = initial.placeOf d.path := by
  rw [FileSystem.placeOf, FileSystem.placeOf, h.origin]

/-- Directories that are made touch no file. -/
theorem Bench.makeDirectory (h : Bench d initial fs renamed) {q : Path}
    (hmade : fs.makeDirectory q = .ok fs') : Bench d initial fs' renamed := by
  have hbecomes := FileSystem.makeDirectory_ok hmade
  refine ⟨hbecomes.origin.trans h.origin, hbecomes.distinct h.distinct,
    fun hne => (h.reached hne).becomes hbecomes, ?_, ?_⟩
  · rw [hbecomes.contents]
    exact h.held
  · rw [hbecomes.contents]
    exact h.foreign

theorem Bench.makeDirectories (h : Bench d initial fs renamed) {paths : List Path}
    (hmakes : ReflTransGen (MakesOne paths) fs fs') : Bench d initial fs' renamed := by
  induction hmakes with
  | refl => exact h
  | tail _ hone ih =>
    obtain ⟨_, _, hmade⟩ := hone
    exact ih.makeDirectory hmade

theorem Bench.write (h : Bench d initial fs renamed) (hkey : Key site)
    (hwritten : fs.write (d.path.child (begun site)) blob = .ok fs') :
    Bench d initial fs' renamed := by
  obtain ⟨hbecomes, _⟩ := FileSystem.write_ok hwritten
  rw [placeOf_begun hkey, h.placeOf_eq] at hbecomes
  refine ⟨hbecomes.origin.trans h.origin, hbecomes.distinct h.distinct,
    fun hne => (h.reached hne).becomes hbecomes, ?_, ?_⟩
  · intro other stored hlast
    obtain ⟨hother, hheld⟩ := h.held other stored hlast
    refine ⟨hother, ?_⟩
    rw [hbecomes.contents, Function.update_of_ne (by simpa using (begun_ne_whole hother).symm)]
    exact hheld
  · intro name hforeign
    rw [hbecomes.contents, Function.update_of_ne (by simpa using (hforeign site hkey).2)]
    exact h.foreign name hforeign

theorem Bench.rename (h : Bench d initial fs renamed) (hkey : Key site)
    (hblob : fs.content? (initial.placeOf d.path ++ [begun site]) = some blob)
    (hrenamed : fs.rename (d.path.child (begun site)) (d.path.child (whole site)) = .ok fs') :
    Bench d initial fs' (renamed ++ [(site, blob)]) := by
  have hne : begun site ≠ whole site := begun_ne_whole hkey
  obtain ⟨content, hcontent, hbecomes, _⟩ := FileSystem.rename_ok hrenamed (by
    rw [placeOf_begun hkey, placeOf_whole hkey]
    simpa using hne)
  rw [placeOf_begun hkey, h.placeOf_eq, hblob] at hcontent
  obtain rfl : blob = content := Option.some.inj hcontent
  rw [placeOf_begun hkey, placeOf_whole hkey, h.placeOf_eq] at hbecomes
  refine ⟨hbecomes.origin.trans h.origin, hbecomes.distinct h.distinct,
    fun _ => (reached_of_rename hkey hrenamed).becomes hbecomes, ?_, ?_⟩
  · intro other stored hlast
    rw [congrFun (SiteMap.lookup_reverse_concat renamed site blob) other] at hlast
    rw [hbecomes.contents]
    by_cases heq : other = site
    · rw [heq, Function.update_self, Option.some.injEq] at hlast
      rw [heq, ← hlast, Function.update_of_ne (by simpa using hne.symm), Function.update_self]
      exact ⟨hkey, rfl⟩
    · rw [Function.update_of_ne heq] at hlast
      obtain ⟨hother, hheld⟩ := h.held other stored hlast
      refine ⟨hother, ?_⟩
      rw [Function.update_of_ne (by simpa using (begun_ne_whole hother).symm),
        Function.update_of_ne (by simpa using fun hsame => heq (whole_injective hsame))]
      exact hheld
  · intro name hforeign
    rw [hbecomes.contents, Function.update_of_ne (by simpa using (hforeign site hkey).2),
      Function.update_of_ne (by simpa using (hforeign site hkey).1)]
    exact h.foreign name hforeign

/-- The invariant, and the store on the way is as far as it seems. -/
structure Disk.Tended (d : DirectorySink) (initial : FileSystem) (w : Disk) : Prop where
  bench : Bench d initial w.files w.renamed
  due   : ∀ job, w.job = some job → Due d (initial.origin d.path) w.files job

variable {w w' : Disk}

theorem Disk.Tended.moves (h : w.Tended d initial) (hmoves : d.Moves w w') :
    w'.Tended d initial := by
  cases hmoves.does h.bench.origin h.due with
  | turns hdue => exact ⟨h.bench, hdue⟩
  | makes _ hmakes hdue => exact ⟨h.bench.makeDirectories hmakes, hdue⟩
  | writes _ hkey hwritten hdue => exact ⟨h.bench.write hkey hwritten, hdue⟩
  | renames _ hkey hblob hrenamed => exact ⟨h.bench.rename hkey hblob hrenamed, not_due⟩

theorem Disk.Tended.run (h : w.Tended d initial) (hrun : ReflTransGen d.Moves w w') :
    w'.Tended d initial := by
  induction hrun with
  | refl => exact h
  | tail _ hmoves ih => exact ih.moves hmoves

/-! ## Section 4: What is loaded for a site -/

/-- What is loaded of entries for a site is the blob of the last one that is loaded for it. -/
theorem find?_blobsOf (entries : DirectoryEntries) (site : Site) :
    (blobsOf entries).find? site = SiteMap.lookup site (entries.filterMap blobOf?).reverse := by
  rw [blobsOf, SiteMap.find?_foldl_insert, SiteMap.find?_empty, Option.or_none]

theorem find?_blobsOf_concat (entries : DirectoryEntries) {entry : FileName × Node}
    (h : blobOf? entry = some (site, blob)) :
    (blobsOf (entries ++ [entry])).find? site = some blob := by
  rw [find?_blobsOf, List.filterMap_append, List.filterMap_cons_some h, List.filterMap_nil,
    List.reverse_append, List.reverse_singleton, List.singleton_append, SiteMap.lookup, if_pos rfl]

/-- Where every entry of a site holds one blob, it is loaded. -/
theorem find?_blobsOf_of_unique {entries : DirectoryEntries} {entry : FileName × Node}
    (hmem : entry ∈ entries) (h : blobOf? entry = some (site, blob))
    (hunique : ∀ other ∈ entries, ∀ found, blobOf? other = some (site, found) → found = blob) :
    (blobsOf entries).find? site = some blob := by
  rw [find?_blobsOf]
  apply SiteMap.lookup_of_unique
  · exact List.mem_reverse.mpr (List.mem_filterMap.mpr ⟨entry, hmem, h⟩)
  · intro found hfound
    obtain ⟨other, hother, hloaded⟩ := List.mem_filterMap.mp (List.mem_reverse.mp hfound)
    exact hunique other hother found hloaded

theorem Bench.content?_iff (h : Bench d initial fs renamed) {listed : DirectoryEntries}
    (hlist : fs.listDirectory d.path = .ok listed) :
    fs.content? (initial.placeOf d.path ++ [name]) = some content ↔
      (name, .file content) ∈ listed := by
  obtain ⟨_, _, hat⟩ := FileSystem.find_ok (FileSystem.listDirectory_ok hlist)
  rw [h.placeOf_eq] at hat
  have hentries := Node.entriesAt?_eq_some_iff.mpr hat
  exact FileSystem.content?_child hentries
    (h.distinct _ (FileSystem.seen_of_entriesAt? hentries))

/-- In every order the stored blob is loaded, exactly when no namesake has another. -/
theorem Bench.loads_iff (h : Bench d initial fs renamed) {listed : DirectoryEntries}
    (hlist : fs.listDirectory d.path = .ok listed)
    (hlast : SiteMap.lookup site renamed.reverse = some blob) :
    (∀ entries, entries.Perm listed → (blobsOf entries).find? site = some blob) ↔
      ∀ name content, Namesake site name →
        initial.content? (initial.placeOf d.path ++ [name]) = some content → content = blob := by
  obtain ⟨hkey, hheld⟩ := h.held site blob hlast
  constructor
  · intro hall name content hnamesake hcontent
    rw [← h.foreign name hnamesake.foreign, h.content?_iff hlist] at hcontent
    have hloaded : blobOf? (name, .file content) = some (site, content) :=
      (blobOf?_eq_some_iff hkey).mpr ⟨rfl, .inr hnamesake⟩
    -- The system may list the file of the namesake last.
    obtain ⟨before, behind, hsplit⟩ := List.append_of_mem hcontent
    have hperm : ((before ++ behind) ++ [(name, Node.file content)]).Perm listed := by
      rw [hsplit]
      exact (List.perm_append_singleton _ _).trans List.perm_middle.symm
    have hlater := hall _ hperm
    rw [find?_blobsOf_concat _ hloaded] at hlater
    exact Option.some.inj hlater
  · intro hagree entries hperm
    have hown : (whole site, Node.file blob) ∈ entries :=
      hperm.mem_iff.mpr ((h.content?_iff hlist).mp hheld)
    refine find?_blobsOf_of_unique hown (blobOf?_whole hkey) ?_
    rintro ⟨name, node⟩ hmem found hloaded
    obtain ⟨rfl, rfl | hnamesake⟩ := (blobOf?_eq_some_iff hkey).mp hloaded
    · have hsame := (h.content?_iff hlist).mpr (hperm.mem_iff.mp hmem)
      exact Option.some.inj (hsame.symm.trans hheld)
    · have hcontent := (h.content?_iff hlist).mpr (hperm.mem_iff.mp hmem)
      rw [h.foreign name hnamesake.foreign] at hcontent
      exact hagree name found hnamesake hcontent

/-! ## Section 5: Loading what was stored -/

/-- What is known of loading, whatever was in the directory before. -/
structure Disk.LoadsStored (d : DirectorySink) (initial : FileSystem) (w : Disk) : Prop where
  /-- A store that succeeds gives the site a last blob. -/
  stores  : w.job = none → ∀ site blob fs, d.store site blob w.files = (.ok (), fs) →
    ReflTransGen d.Moves w ⟨fs, none, w.renamed ++ [(site, blob)]⟩
  /-- It stays the last one until there is another store for the site. -/
  stays   : ∀ {w'} site, d.Moves w w' → (∀ job, w.job = some job → job.site ≠ site) →
    w'.lastRenamed site = w.lastRenamed site
  /-- From the first store on the directory is listed, -/
  listed  : w.renamed ≠ [] → d.path.bytes ≠ [] →
    ∃ listed, w.files.listDirectory d.path = .ok listed
  /-- and what is listed is loaded. -/
  loads   : ∀ listed, w.files.listDirectory d.path = .ok listed →
    d.load w.files = .ok (blobsOf listed).entries
  /-- Nothing is loaded where the path has no bytes. -/
  nowhere : d.path.bytes = [] → d.load w.files = .ok []
  /-- The last blob of a site is loaded in every order of the listing, exactly when every file that
      a namesake of the site had at the start holds that blob. -/
  last    : ∀ site blob listed, w.lastRenamed site = some blob →
    w.files.listDirectory d.path = .ok listed →
    ((∀ entries, entries.Perm listed → (blobsOf entries).find? site = some blob) ↔
      ∀ name content, Namesake site name →
        initial.content? (initial.placeOf d.path ++ [name]) = some content → content = blob)

/-- **What was stored is loaded** in every order of the listing, unless a file that was there before
    has the name of the site with blanks around it and holds another blob. -/
theorem Disk.loads_stored (hdistinct : initial.DistinctAt (initial.placeOf d.path))
    (hrun : ReflTransGen d.Moves (.start initial) w) : w.LoadsStored d initial := by
  have hstart : (Disk.start initial).Tended d initial := ⟨bench_initial hdistinct, not_due⟩
  have htended := hstart.run hrun
  refine {
    stores  := ?_
    stays   := fun _ hmoves hother => hmoves.lastRenamed hother
    listed  := fun hne hpath => (htended.bench.reached hne).exists_listed hpath
    loads   := fun _ => load_of_listed
    nowhere := fun hpath => load_of_no_path hpath w.files
    last    := fun _ _ _ hlast hlist => htended.bench.loads_iff hlist hlast }
  intro hidle site blob fs hstore
  have hrun := run_store (d := d) hidle site blob
  rw [Disk.stored, hstore] at hrun
  exact hrun

/-! ## Section 6: A namesake -/

/-- A site. -/
def dock : Site := ⟨"dock", by decide, by decide⟩

/-- A sink. -/
def docks : DirectorySink := ⟨.ofText "/sites", "/sites"⟩

/-- Its directory before the first store: there is a blob of the site already, and a file whose name
    has a blank before that of the site. -/
def crowded : FileSystem where
  root := .directory [(.ofText "sites", .directory
    [(whole dock, .file ⟨#[7]⟩), (.ofText " dock", .file ⟨#[9]⟩)])]

theorem distinct_crowded : crowded.DistinctAt (crowded.placeOf docks.path) := by
  have hplace : crowded.placeOf docks.path = [.ofText "sites"] := by decide +kernel
  have hentries : crowded.root.entriesAt? [.ofText "sites"] =
      some [(whole dock, .file ⟨#[7]⟩), (.ofText " dock", .file ⟨#[9]⟩)] := by
    simp [crowded, Node.entriesAt?, Node.at?, Node.child?]
  intro names hseen
  rw [hplace, FileSystem.seen_of_entriesAt? hentries] at hseen
  cases hseen
  decide +kernel

theorem namesake_dock : Namesake dock (.ofText " dock") where
  other := by decide +kernel
  text  := ⟨" dock", FileName.text?_ofText _, by decide, by decide⟩

/-- After a store into that directory, what is loaded depends on the order of the listing, as the
    other file holds another blob. -/
theorem loads_stored_crowded :
    let w := (Disk.start crowded).stored docks dock ⟨#[1, 2]⟩
    crowded.DistinctAt (crowded.placeOf docks.path) ∧
      ReflTransGen docks.Moves (.start crowded) w ∧ w.LoadsStored docks crowded ∧
      w.lastRenamed dock = some ⟨#[1, 2]⟩ ∧ Namesake dock (.ofText " dock") ∧
      crowded.content? (crowded.placeOf docks.path ++ [.ofText " dock"]) = some ⟨#[9]⟩ := by
  intro w
  have hrun : ReflTransGen docks.Moves (.start crowded) w := run_store rfl dock ⟨#[1, 2]⟩
  exact ⟨distinct_crowded, hrun, Disk.loads_stored distinct_crowded hrun, by decide +kernel,
    namesake_dock, by decide +kernel⟩

/-- A store into that directory succeeds, and the blob that is loaded then is that of the other
    file. -/
theorem namesake_shadows_stored :
    (docks.store dock ⟨#[1, 2]⟩ crowded).1 = .ok () ∧
      docks.load (docks.store dock ⟨#[1, 2]⟩ crowded).2 = .ok [(dock, ⟨#[9]⟩)] := by
  decide +kernel

end ChassisRegistry.DirectorySink
