import ChassisRegistry.Proofs.SiteMap
import ChassisRegistry.Proofs.SnapshotRoundTrip
import ChassisRegistry.Registry.Flush
import ChassisRegistry.Sink.Memory

/-! # Restorations

    A restoration goes through the blobs of a sink one after the other, and
    looks at the registry as it is by then. Where no site is listed twice, it
    could as well look at the registry as it was before: what becomes of a
    blob is between the blob and its site. So neither the other blobs nor
    their order have a part in it, bytes that are no record stop nothing, and
    what is there stays.

    Main statement: `Registry.restoration`. -/

namespace ChassisRegistry

namespace Registry

variable {g g' : Registry} {site : Site} {e : Entry}

/-! ## Section 1: Registries that grow -/

/-- Entries that are there stay as they are; others may come. -/
def Extends (g g' : Registry) : Prop :=
  ∀ ⦃site e⦄, g.entries.find? site = some e → g'.entries.find? site = some e

theorem Extends.refl (g : Registry) : g.Extends g := fun _ _ hfound => hfound

theorem Extends.trans {g'' : Registry} (h : g.Extends g') (h' : g'.Extends g'') :
    g.Extends g'' := fun _ _ hfound => h' (h hfound)

theorem extends_put (hnone : g.entries.find? site = none) : g.Extends (g.put site e) := by
  intro other e' hfound
  have hne : other ≠ site := by
    rintro rfl
    rw [hnone] at hfound
    cases hfound
  rw [Registry.put, SiteMap.find?_insert_of_ne hne, hfound]

/-- A blob is of use if it holds a record of its site, and the site is not there. -/
theorem restorable_eq_some {blob : ByteArray} {r : Record} :
    g.restorable site blob = some r ↔
      Snapshot.read blob = .ok r ∧ r.site = site ∧ g.entries.find? site = none := by
  unfold restorable
  cases hread : Snapshot.read blob with
  | error x => simp
  | ok r' =>
    simp only [SiteMap.contains, Bool.not_eq_true', Option.isSome_eq_false_iff,
      Option.isNone_iff_eq_none, Option.ite_none_right_eq_some, Option.some.injEq, Except.ok.injEq]
    constructor
    · rintro ⟨⟨hsite, hnone⟩, rfl⟩
      exact ⟨rfl, hsite, hnone⟩
    · rintro ⟨rfl, hsite, hnone⟩
      exact ⟨⟨hsite, hnone⟩, rfl⟩

theorem extends_restoreEach (blobs : List (Site × ByteArray)) (report : RestoreReport)
    (g : Registry) : g.Extends (restoreEach blobs report g).2 := by
  induction blobs generalizing report g with
  | nil => exact .refl g
  | cons head rest ih =>
    obtain ⟨site, blob⟩ := head
    unfold restoreEach
    split
    · next r hrestorable =>
      exact (extends_put (restorable_eq_some.mp hrestorable).2.2).trans (ih _ _)
    · exact ih _ _

/-! ## Section 2: One pass over sites that differ -/

/-- Only the entry of its own site decides about a blob. -/
theorem restorable_congr (hsame : g'.entries.find? site = g.entries.find? site)
    (blob : ByteArray) : g'.restorable site blob = g.restorable site blob := by
  rw [restorable, restorable, SiteMap.contains, SiteMap.contains, hsame]

theorem restorable_put_of_ne {other : Site} (hne : other ≠ site) (blob : ByteArray) :
    (g.put site e).restorable other blob = g.restorable other blob :=
  restorable_congr (SiteMap.find?_insert_of_ne hne _ _) blob

variable {blobs : List (Site × ByteArray)}

/-- What is there after a pass: what was there, or what the blob of the site is good for. -/
theorem find?_restoreEach_of_nodup (hnodup : (blobs.map Prod.fst).Nodup) (report : RestoreReport)
    (g : Registry) (site : Site) :
    (restoreEach blobs report g).2.entries.find? site =
      (g.entries.find? site).or ((SiteMap.lookup site blobs).bind fun blob =>
        (g.restorable site blob).map fun r => ⟨r, false⟩) := by
  induction blobs generalizing report g with
  | nil => simp [restoreEach, SiteMap.lookup]
  | cons head rest ih =>
    obtain ⟨first, blob⟩ := head
    obtain ⟨hnew, hrest⟩ := List.nodup_cons.mp hnodup
    have hbehind : SiteMap.lookup first rest = none := SiteMap.lookup_eq_none_iff.mpr hnew
    rw [SiteMap.lookup]
    cases hrestorable : g.restorable first blob with
    | none =>
      simp only [restoreEach, hrestorable, ih hrest]
      by_cases heq : first = site
      · rw [if_pos heq, ← heq, hbehind, Option.bind_some, hrestorable, Option.bind_none,
          Option.map_none]
      · rw [if_neg heq]
    | some r =>
      obtain ⟨_, _, hnone⟩ := restorable_eq_some.mp hrestorable
      simp only [restoreEach, hrestorable, ih hrest]
      by_cases heq : first = site
      · rw [if_pos heq, ← heq, hbehind, Option.bind_some, hrestorable, hnone, put,
          SiteMap.find?_insert_self]
        rfl
      · have hother : (g.put first ⟨r, false⟩).entries.find? site = g.entries.find? site :=
          SiteMap.find?_insert_of_ne (Ne.symm heq) _ _
        rw [if_neg heq, hother]
        simp only [restorable_put_of_ne (Ne.symm heq)]

/-- The blobs that are of use are counted apart from the others. -/
theorem restored_restoreEach_of_nodup (hnodup : (blobs.map Prod.fst).Nodup)
    (report : RestoreReport) (g : Registry) :
    (restoreEach blobs report g).1.restored =
      report.restored + blobs.countP fun x => (g.restorable x.1 x.2).isSome := by
  induction blobs generalizing report g with
  | nil => rfl
  | cons head rest ih =>
    obtain ⟨first, blob⟩ := head
    obtain ⟨hnew, hrest⟩ := List.nodup_cons.mp hnodup
    rw [List.countP_cons]
    cases hrestorable : g.restorable first blob with
    | none =>
      simp only [restoreEach, hrestorable, ih hrest, Option.isSome_none]
      rfl
    | some r =>
      -- The sites of the other blobs are as they were.
      have hothers : (rest.countP fun x => ((g.put first ⟨r, false⟩).restorable x.1 x.2).isSome) =
          rest.countP fun x => (g.restorable x.1 x.2).isSome := by
        apply List.countP_congr
        intro x hx
        rw [restorable_put_of_ne (SiteMap.ne_of_mem hx hnew)]
      simp only [restoreEach, hrestorable, ih hrest, hothers, Option.isSome_some, if_true]
      omega

theorem counted_restoreEach (blobs : List (Site × ByteArray)) (report : RestoreReport)
    (g : Registry) :
    (restoreEach blobs report g).1.restored + (restoreEach blobs report g).1.skipped =
      report.restored + report.skipped + blobs.length := by
  induction blobs generalizing report g with
  | nil => rfl
  | cons head rest ih =>
    unfold restoreEach
    split
    · simp only [ih, List.length_cons]
      omega
    · simp only [ih, List.length_cons]
      omega

/-- As many as were restored are there and were not there before. -/
theorem length_new_of_nodup (hnodup : (blobs.map Prod.fst).Nodup) (report : RestoreReport)
    (g : Registry) :
    ((restoreEach blobs report g).2.entries.sites.filter
      fun site => !g.entries.contains site).length =
        blobs.countP fun x => (g.restorable x.1 x.2).isSome := by
  rw [List.countP_eq_length_filter, ← List.length_map Prod.fst]
  apply List.Perm.length_eq
  have hfind := find?_restoreEach_of_nodup hnodup report g
  have hsites : (restoreEach blobs report g).2.entries.sites.Nodup := SiteMap.nodup _
  rw [List.perm_ext_iff_of_nodup (hsites.filter _)
    (hnodup.sublist (List.filter_sublist.map Prod.fst))]
  intro site
  rw [List.mem_filter, ← SiteMap.contains_iff, SiteMap.contains, SiteMap.contains, hfind]
  constructor
  · rintro ⟨hthere, hnew⟩
    have hnone : g.entries.find? site = none := by simpa using hnew
    rw [hnone, Option.none_or] at hthere
    cases hlookup : SiteMap.lookup site blobs with
    | none => simp [hlookup] at hthere
    | some blob =>
      have huse : (g.restorable site blob).isSome := by simpa [hlookup] using hthere
      exact List.mem_map.mpr ⟨(site, blob), List.mem_filter.mpr
        ⟨SiteMap.mem_of_lookup hlookup, huse⟩, rfl⟩
  · intro hmem
    obtain ⟨⟨site, blob⟩, hx, rfl⟩ := List.mem_map.mp hmem
    obtain ⟨hlisted, huse⟩ := List.mem_filter.mp hx
    obtain ⟨r, hr⟩ := Option.isSome_iff_exists.mp huse
    obtain ⟨_, _, hnone⟩ := restorable_eq_some.mp hr
    simp [hnone, SiteMap.lookup_of_mem hnodup hlisted, hr]

/-- The order of the blobs is not seen. -/
theorem restoreEach_perm (hnodup : (blobs.map Prod.fst).Nodup) {blobs' : List (Site × ByteArray)}
    (hperm : blobs'.Perm blobs) (g : Registry) :
    restoreEach blobs' {} g = restoreEach blobs {} g := by
  have hnodup' : (blobs'.map Prod.fst).Nodup := (hperm.map Prod.fst).nodup_iff.mpr hnodup
  have hrestored : (restoreEach blobs' {} g).1.restored = (restoreEach blobs {} g).1.restored := by
    rw [restored_restoreEach_of_nodup hnodup', restored_restoreEach_of_nodup hnodup,
      hperm.countP_eq]
  have hskipped : (restoreEach blobs' {} g).1.skipped = (restoreEach blobs {} g).1.skipped := by
    have hcounted := counted_restoreEach blobs' {} g
    rw [hperm.length_eq, ← counted_restoreEach blobs {} g, hrestored] at hcounted
    exact Nat.add_left_cancel hcounted
  have hentries : (restoreEach blobs' {} g).2.entries = (restoreEach blobs {} g).2.entries := by
    apply SiteMap.ext_find?
    intro site
    rw [find?_restoreEach_of_nodup hnodup', find?_restoreEach_of_nodup hnodup,
      SiteMap.lookup_perm hperm hnodup']
  exact Prod.ext (congrArg₂ RestoreReport.mk hrestored hskipped) (congrArg Registry.mk hentries)

/-- Nothing of blobs that were taken in is of use again. -/
theorem restorable_restoreEach (hnodup : (blobs.map Prod.fst).Nodup) {x : Site × ByteArray}
    (hlisted : x ∈ blobs) (report : RestoreReport) (g : Registry) :
    (restoreEach blobs report g).2.restorable x.1 x.2 = none := by
  rw [Option.eq_none_iff_forall_ne_some]
  intro r hr
  obtain ⟨hread, hsite, hnone⟩ := restorable_eq_some.mp hr
  rw [find?_restoreEach_of_nodup hnodup, Option.or_eq_none_iff] at hnone
  have huse : g.restorable x.1 x.2 = some r := restorable_eq_some.mpr ⟨hread, hsite, hnone.1⟩
  have hlookup : SiteMap.lookup x.1 blobs = some x.2 := SiteMap.lookup_of_mem hnodup hlisted
  simp [hlookup, huse] at hnone

theorem restoreEach_of_useless (huseless : ∀ x ∈ blobs, g.restorable x.1 x.2 = none)
    (report : RestoreReport) :
    restoreEach blobs report g =
      ({ report with skipped := report.skipped + blobs.length }, g) := by
  induction blobs generalizing report with
  | nil => rfl
  | cons head rest ih =>
    obtain ⟨hhead, hrest⟩ := List.forall_mem_cons.mp huseless
    simp only [restoreEach, hhead, ih hrest, List.length_cons, Nat.add_assoc, Nat.add_comm 1]

/-! ## Section 3: Whole restorations -/

/-- What becomes of blobs that a registry takes in. -/
structure Restored (g : Registry) (blobs : List (Site × ByteArray)) (report : RestoreReport)
    (after : Registry) : Prop where
  /-- A site that was there keeps its record and its mark. -/
  kept    : ∀ {site e}, g.entries.find? site = some e → after.entries.find? site = some e
  /-- A site that was not there gets the record of its blob, if the blob is read as one of this
      site, and no mark. -/
  taken   : ∀ {site blob}, (site, blob) ∈ blobs → g.entries.find? site = none → ∀ e,
    after.entries.find? site = some e ↔
      Snapshot.read blob = .ok e.record ∧ e.record.site = site ∧ e.dirty = false
  /-- No site comes in that is not listed. -/
  others  : ∀ {site}, site ∉ blobs.map Prod.fst →
    after.entries.find? site = g.entries.find? site
  counted : report.restored + report.skipped = blobs.length
  new     : report.restored =
    (after.entries.sites.filter fun site => !g.entries.contains site).length
  /-- Wherever else a blob is listed for a site, with whatever other blobs, the site comes out the
      same if it went in the same. -/
  alone   : ∀ {τ : Type} {sink : Sink τ} {t blobs'} {g' : Registry} {result} {after' : Registry}
      {site blob}, sink.load t = .ok blobs' → (blobs'.map Prod.fst).Nodup →
    g'.restore sink t = (result, after') → (site, blob) ∈ blobs → (site, blob) ∈ blobs' →
    g'.entries.find? site = g.entries.find? site →
    after'.entries.find? site = after.entries.find? site
  /-- The blobs could be listed in any order. -/
  ordered : ∀ {τ : Type} {sink : Sink τ} {t blobs'}, sink.load t = .ok blobs' →
    blobs'.Perm blobs → g.restore sink t = (.ok report, after)
  /-- The same blobs change nothing a second time. -/
  again   : ∀ {τ : Type} {sink : Sink τ} {t}, sink.load t = .ok blobs →
    after.restore sink t = (.ok ⟨0, blobs.length⟩, after)

theorem restore_of_load {σ : Type} {sink : Sink σ} {s : σ} (hload : sink.load s = .ok blobs)
    (g : Registry) :
    g.restore sink s = (.ok (restoreEach blobs {} g).1, (restoreEach blobs {} g).2) := by
  rw [restore, hload]

theorem restored_of_nodup (hnodup : (blobs.map Prod.fst).Nodup) (g : Registry) :
    g.Restored blobs (restoreEach blobs {} g).1 (restoreEach blobs {} g).2 := by
  have hfind := find?_restoreEach_of_nodup hnodup {} g
  refine {
    kept    := fun hfound => extends_restoreEach blobs {} g hfound
    taken   := ?_
    others  := ?_
    counted := (counted_restoreEach blobs {} g).trans (Nat.zero_add _)
    new     := by rw [restored_restoreEach_of_nodup hnodup, length_new_of_nodup hnodup, Nat.zero_add]
    alone   := ?_
    ordered := ?_
    again   := ?_ }
  · intro site blob hlisted hnone e
    rw [hfind, hnone, Option.none_or, SiteMap.lookup_of_mem hnodup hlisted, Option.bind_some,
      Option.map_eq_some_iff]
    constructor
    · rintro ⟨r, hr, rfl⟩
      obtain ⟨hread, hsite, _⟩ := restorable_eq_some.mp hr
      exact ⟨hread, hsite, rfl⟩
    · rintro ⟨hread, hsite, hclean⟩
      refine ⟨e.record, restorable_eq_some.mpr ⟨hread, hsite, hnone⟩, ?_⟩
      rw [← hclean]
  · intro site hunlisted
    rw [hfind, SiteMap.lookup_eq_none_iff.mpr hunlisted, Option.bind_none, Option.or_none]
  · intro τ sink t blobs' g' result after' site blob hload hnodup' hrestore hlisted hlisted' hsame
    rw [restore_of_load hload, Prod.mk.injEq] at hrestore
    rw [← hrestore.2, find?_restoreEach_of_nodup hnodup', hfind, hsame,
      SiteMap.lookup_of_mem hnodup hlisted, SiteMap.lookup_of_mem hnodup' hlisted']
    simp only [Option.bind_some, restorable_congr hsame]
  · intro τ sink t blobs' hload hperm
    rw [restore_of_load hload, restoreEach_perm hnodup hperm]
  · intro τ sink t hload
    rw [restore_of_load hload, restoreEach_of_useless fun x hx =>
      restorable_restoreEach hnodup hx {} g, Nat.zero_add]

/-- **Restorations take in the good blobs** and nothing else. -/
theorem restoration {σ : Type} (sink : Sink σ) (s : σ) (g : Registry) :
    (∀ e, sink.load s = .error e → g.restore sink s = (.error (.persistence "*" e.message), g)) ∧
      ∀ blobs, sink.load s = .ok blobs → (blobs.map Prod.fst).Nodup →
        ∃ report after, g.restore sink s = (.ok report, after) ∧
          g.Restored blobs report after := by
  constructor
  · intro e hload
    rw [restore, hload]
  · intro blobs hload hnodup
    exact ⟨_, _, restore_of_load hload g, restored_of_nodup hnodup g⟩

/-- A site without cards. -/
def bare : Record :=
  .create ⟨"depot", by decide +kernel, by decide⟩ ⟨.v4 ⟨10, 0, 0, 1⟩ 8080, "olt", "secret"⟩ 1 2

/-- Another site. -/
def elsewhere : Site := ⟨"field", by decide +kernel, by decide⟩

/-- A sink in memory with the first site as it is, and with bytes for the other that are no
    record. -/
def mixed : MemorySink :=
  ⟨(SiteMap.empty.insert bare.site (Snapshot.write bare).toUTF8).insert elsewhere
    "garbage".toUTF8, false⟩

/-- The first site is restored, and the other one is not. -/
theorem restoration_mixed : ∃ report after,
    Registry.empty.restore MemorySink.sink mixed = (.ok report, after) ∧
      Registry.empty.Restored mixed.load report after ∧
      after.entries.find? bare.site = some ⟨bare, false⟩ ∧
      after.entries.find? elsewhere = none := by
  obtain ⟨report, after, hrestore, hrestored⟩ :=
    (restoration MemorySink.sink mixed .empty).2 mixed.load rfl mixed.blobs.nodup
  have hdepot : (bare.site, (Snapshot.write bare).toUTF8) ∈ mixed.load :=
    SiteMap.mem_of_find? ((SiteMap.find?_insert_of_ne (by decide) _ _).trans
      (SiteMap.find?_insert_self _ _ _))
  have hfield : (elsewhere, "garbage".toUTF8) ∈ mixed.load :=
    SiteMap.mem_of_find? (SiteMap.find?_insert_self _ _ _)
  refine ⟨report, after, hrestore, hrestored, ?_, ?_⟩
  · rw [hrestored.taken hdepot rfl]
    exact ⟨(Record.coherent_create ..).read_written, rfl, rfl⟩
  · rw [Option.eq_none_iff_forall_ne_some]
    intro e he
    have hread := ((hrestored.taken hfield rfl e).mp he).1
    have hgarbage : (Snapshot.read "garbage".toUTF8).toOption = none := by decide +kernel
    rw [hread] at hgarbage
    cases hgarbage

end Registry

end ChassisRegistry
