import ChassisRegistry.Proofs.FilePaths
import ChassisRegistry.Proofs.SiteMap
import ChassisRegistry.Sink.Directory

/-! # The files of a site

    A site that can be the name of a file has two names in the directory: the
    one of its blob, and the one under which a blob is written first. No two
    sites share a name, and of the two kinds only the first is loaded.

    Main statements: `DirectorySink.isKey_iff`, `DirectorySink.disjoint_names`,
    `DirectorySink.mem_blobsOf`. -/

namespace ChassisRegistry

/-! ## Section 1: The names of a site -/

namespace DirectorySink

open FileName (ofText)

/-- The name of the file that holds the blob of a site. -/
def whole (site : Site) : FileName := ofText site.text

/-- The name of the file that is written first. -/
def begun (site : Site) : FileName := ofText (site.text ++ unfinished)

theorem ends_iff (chars : List Char) :
    (chars.reverse.take 4 == unfinished.toList.reverse) = true ↔ unfinished.toList <:+ chars := by
  rw [beq_iff_eq, ← List.reverse_prefix, List.prefix_iff_eq_take, eq_comm]
  rfl

/-- What a site that is a key has not. -/
structure Key (site : Site) : Prop where
  dot       : site.text.toList.head? ≠ some '.'
  slash     : '/' ∉ site.text.toList
  backslash : '\\' ∉ site.text.toList
  zero      : Char.ofNat 0 ∉ site.text.toList
  ending    : ¬ unfinished.toList <:+ site.text.toList

theorem isKey_iff (site : Site) : isKey site = true ↔ Key site := by
  have hzero : ∀ c : Char, c.toNat = 0 ↔ c = Char.ofNat 0 := by
    intro c
    rw [← Char.toNat_inj]
    rfl
  have hmarks : (site.text.toList.any fun c => c == '/' || c == '\\' || c.toNat == 0) = true ↔
      '/' ∈ site.text.toList ∨ '\\' ∈ site.text.toList ∨ Char.ofNat 0 ∈ site.text.toList := by
    simp only [List.any_eq_true, Bool.or_eq_true, beq_iff_eq, hzero, and_or_left, exists_or,
      exists_eq_right, or_assoc]
  unfold isKey
  rw [Bool.and_eq_true, Bool.and_eq_true, Bool.not_eq_true', Bool.not_eq_true', Bool.not_eq_true',
    ← Bool.not_eq_true, ← Bool.not_eq_true, ← Bool.not_eq_true, hmarks, ends_iff, beq_iff_eq,
    not_or, not_or]
  constructor
  · rintro ⟨⟨hdot, hslash, hbackslash, hzero⟩, hending⟩
    exact ⟨hdot, hslash, hbackslash, hzero, hending⟩
  · intro h
    exact ⟨⟨h.dot, h.slash, h.backslash, h.zero⟩, h.ending⟩

variable {site other : Site}

theorem begun_ne_whole (h : Key site) : begun other ≠ whole site := by
  intro heq
  have htext := FileName.ofText_injective heq
  apply h.ending
  rw [← htext, String.toList_append]
  exact List.suffix_append _ _

theorem begun_injective (h : begun site = begun other) : site = other := by
  have htext := congrArg String.toList (FileName.ofText_injective h)
  rw [String.toList_append, String.toList_append, List.append_cancel_right_eq] at htext
  exact Site.ext (String.toList_inj.mp htext)

theorem whole_injective (h : whole site = whole other) : site = other :=
  Site.ext (FileName.ofText_injective h)

theorem plain_whole (h : Key site) : (whole site).Plain :=
  ⟨FileName.ofText_ne_nil site.not_blank, FileName.slash_not_mem_ofText h.slash⟩

theorem plain_begun (h : Key site) : (begun site).Plain := by
  refine ⟨FileName.ofText_ne_nil ?_, FileName.slash_not_mem_ofText ?_⟩
  · intro hblank
    have hlist := congrArg String.toList hblank
    rw [String.toList_append] at hlist
    exact site.not_blank (String.toList_inj.mp (List.append_eq_nil_iff.mp hlist).1)
  · rw [String.toList_append, List.mem_append, not_or]
    exact ⟨h.slash, by decide⟩

theorem head?_begun (site : Site) :
    (site.text ++ unfinished).toList.head? = site.text.toList.head? := by
  have hne : site.text.toList ≠ [] := fun hnil => site.not_blank (String.toList_inj.mp hnil)
  obtain ⟨c, rest, hchars⟩ := List.exists_cons_of_ne_nil hne
  rw [String.toList_append, hchars]
  rfl

/-- Neither name begins with a point. -/
theorem ne_of_head? {text : String} (h : text.toList.head? = some '.') (hkey : Key site) :
    whole site ≠ ofText text ∧ begun site ≠ ofText text := by
  constructor
  · intro heq
    rw [← FileName.ofText_injective heq] at h
    exact hkey.dot h
  · intro heq
    rw [← FileName.ofText_injective heq, head?_begun] at h
    exact hkey.dot h

theorem here_eq : FileName.here = ofText "." := by
  rw [FileName.ofText_eq]
  decide

theorem above_eq : FileName.above = ofText ".." := by
  rw [FileName.ofText_eq]
  decide

/-- The files of two sites are apart. -/
theorem disjoint_names {a b : Site} (ha : Key a) (hb : Key b) (hne : a ≠ b) :
    [whole a, begun a].Disjoint [whole b, begun b] := by
  intro name hname hname'
  rw [List.mem_pair] at hname hname'
  rcases hname with rfl | rfl
  · rcases hname' with heq | heq
    · exact hne (whole_injective heq)
    · exact begun_ne_whole ha heq.symm
  · rcases hname' with heq | heq
    · exact begun_ne_whole hb heq
    · exact hne (begun_injective heq)

/-! ## Section 2: The paths of a site -/

open FileSystem (OnWay lead onward)

variable {d : DirectorySink} {fs : FileSystem}

theorem placeOf_child {name : FileName} (h : name.Plain) (hhere : name ≠ FileName.here)
    (habove : name ≠ FileName.above) :
    fs.placeOf (d.path.child name) = fs.placeOf d.path ++ [name] := by
  unfold FileSystem.placeOf FileSystem.origin
  rw [Path.isAbsolute_child h, Path.names_child h, lead, List.foldl_append]
  simp [onward, hhere, habove, lead]

theorem placeOf_whole (hkey : Key site) :
    fs.placeOf (d.path.child (whole site)) = fs.placeOf d.path ++ [whole site] :=
  placeOf_child (plain_whole hkey) (here_eq ▸ (ne_of_head? (by decide) hkey).1)
    (above_eq ▸ (ne_of_head? (by decide) hkey).1)

theorem placeOf_begun (hkey : Key site) :
    fs.placeOf (d.path.child (begun site)) = fs.placeOf d.path ++ [begun site] :=
  placeOf_child (plain_begun hkey) (here_eq ▸ (ne_of_head? (by decide) hkey).2)
    (above_eq ▸ (ne_of_head? (by decide) hkey).2)

/-- What is on the way to a path in the directory is on the way to the directory. -/
theorem onWay_child {name : FileName} (h : name.Plain) :
    OnWay (fs.origin (d.path.child name)) (d.path.child name).names.dropLast =
      OnWay (fs.origin d.path) d.path.names := by
  unfold FileSystem.origin
  rw [Path.isAbsolute_child h, Path.names_child h, List.dropLast_concat]

/-- Making a directory on the way to a path, or at it, is making one on the way. -/
theorem onWay_of_mem {p q : Path} (hq : q ∈ p :: p.ancestors) :
    OnWay (fs.origin p) p.names (fs.placeOf q) := by
  rcases List.mem_cons.mp hq with rfl | hq
  · exact FileSystem.onWay_lead
  · obtain ⟨habsolute, n, hnames⟩ := Path.exists_take_of_mem_ancestors hq
    unfold FileSystem.placeOf FileSystem.origin
    rw [habsolute, hnames]
    exact FileSystem.OnWay.of_filter ⟨_, List.take_prefix _ _, rfl⟩

/-! ## Section 3: The entries that are loaded -/

variable {blob : ByteArray}

theorem blobOf?_whole (hkey : Key site) : blobOf? (whole site, .file blob) = some (site, blob) := by
  have hname : isBlobName site.text = true := by
    rw [isBlobName, Bool.and_eq_true, Bool.not_eq_true', Bool.not_eq_true', ← Bool.not_eq_true,
      ← Bool.not_eq_true, ends_iff, beq_iff_eq]
    exact ⟨hkey.dot, hkey.ending⟩
  simp only [blobOf?, whole, FileName.text?_ofText, hname, if_true, Site.parse_text]
  rfl

theorem blobOf?_begun (site : Site) : blobOf? (begun site, .file blob) = none := by
  have hname : isBlobName (site.text ++ unfinished) = false := by
    have hends : unfinished.toList <:+ (site.text ++ unfinished).toList := by
      rw [String.toList_append]
      exact List.suffix_append _ _
    rw [isBlobName, (ends_iff _).mpr hends, Bool.not_true, Bool.and_false]
  simp only [blobOf?, begun, FileName.text?_ofText, hname, Bool.false_eq_true, if_false]

/-- Of entries that are the sink's own, those under the names of sites are taken. -/
theorem mem_filterMap_blobOf? {entries : DirectoryEntries}
    (hown : ∀ name content, (name, .file content) ∈ entries →
      ∃ site, Key site ∧ (name = whole site ∨ name = begun site)) :
    (site, blob) ∈ entries.filterMap blobOf? ↔ Key site ∧ (whole site, .file blob) ∈ entries := by
  rw [List.mem_filterMap]
  constructor
  · rintro ⟨⟨name, node⟩, hmem, htaken⟩
    cases node with
    | directory below => cases htaken
    | file content =>
      obtain ⟨own, hkey, rfl | rfl⟩ := hown name content hmem
      · rw [blobOf?_whole hkey] at htaken
        cases htaken
        exact ⟨hkey, hmem⟩
      · rw [blobOf?_begun] at htaken
        cases htaken
  · rintro ⟨hkey, hmem⟩
    exact ⟨_, hmem, blobOf?_whole hkey⟩

theorem mem_blobsOf {entries : DirectoryEntries} (hnodup : (entries.map Prod.fst).Nodup)
    (hown : ∀ name content, (name, .file content) ∈ entries →
      ∃ site, Key site ∧ (name = whole site ∨ name = begun site)) :
    (site, blob) ∈ (blobsOf entries).entries ↔ Key site ∧ (whole site, .file blob) ∈ entries := by
  have hfind : (blobsOf entries).find? site =
      SiteMap.lookup site (entries.filterMap blobOf?).reverse := by
    rw [blobsOf, SiteMap.find?_foldl_insert, SiteMap.find?_empty, Option.or_none]
  rw [← mem_filterMap_blobOf? hown]
  constructor
  · intro hmem
    have hfound := SiteMap.lookup_of_mem (blobsOf entries).nodup hmem
    rw [← SiteMap.find?, hfind] at hfound
    exact List.mem_reverse.mp (SiteMap.mem_of_lookup hfound)
  · intro hmem
    apply SiteMap.mem_of_find?
    rw [hfind]
    refine SiteMap.lookup_of_unique (List.mem_reverse.mpr hmem) ?_
    intro other hother
    -- No name stands twice in the directory.
    obtain ⟨_, hblob⟩ := (mem_filterMap_blobOf? hown).mp hmem
    obtain ⟨_, hother⟩ := (mem_filterMap_blobOf? hown).mp (List.mem_reverse.mp hother)
    have hsame := ((Node.child?_eq_some_iff hnodup).mpr hother).symm.trans
      ((Node.child?_eq_some_iff hnodup).mpr hblob)
    cases hsame
    rfl

end DirectorySink

end ChassisRegistry
