import ChassisRegistry.Proofs.Durability

/-! # Passes of a flush

    A pass offers the sites with changes to a sink, one after the other. What
    becomes of a site is between the site and the sink: a store that fails
    leaves the site and the blob as they are, and the pass goes on with the
    next site. So after passes of which the last one had no failure, every site
    is clean, and the sites that had changes when the first one began are
    stored. A site that had none is never offered, and is stored only if it was
    so before (`Registry.clean_site_not_stored`).

    Main statement: `Registry.flushing`. -/

namespace ChassisRegistry

variable {σ : Type}

/-! ## Section 1: Offers -/

/-- A blob that was offered to a sink for a site. -/
structure Offer where
  site  : Site
  bytes : ByteArray
  /-- Did the sink take it? -/
  taken : Bool

/-- A sink that notes down what it is offered. -/
def Sink.logged (sink : Sink σ) : Sink (σ × List Offer) where
  store site bytes s :=
    let (result, inner) := sink.store site bytes s.1
    (result, inner, s.2 ++ [⟨site, bytes, result.isOk⟩])
  load s := sink.load s.1

theorem Sink.logged_store {sink : Sink σ} {site : Site} {bytes : ByteArray} {s s' : σ}
    {result : Except SinkError Unit} (hstore : sink.store site bytes s = (result, s'))
    (offers : List Offer) : sink.logged.store site bytes (s, offers) =
      (result, s', offers ++ [⟨site, bytes, result.isOk⟩]) := by
  simp only [logged, hstore]

/-- A store puts the blob in place of the one of its site, or it fails and changes nothing. -/
structure Sink.Replaces (sink : Sink σ) (blobs : σ → Site → Option ByteArray) : Prop where
  stored : ∀ {site bytes s s'}, sink.store site bytes s = (.ok (), s') →
    blobs s' = Function.update (blobs s) site (some bytes)
  failed : ∀ {site bytes s x s'}, sink.store site bytes s = (.error x, s') → blobs s' = blobs s

theorem Sink.Keeps.replaces {sink : Sink σ} {blobs : σ → Site → Option ByteArray}
    (h : sink.Keeps blobs) : sink.Replaces blobs :=
  ⟨h.stored, h.failed⟩

/-- What was offered for a site. -/
def offersFor (site : Site) (offers : List Offer) : List Offer :=
  offers.filter fun o => o.site = site

theorem offersFor_cons_self (site : Site) (bytes : ByteArray) (taken : Bool)
    (offers : List Offer) : offersFor site (⟨site, bytes, taken⟩ :: offers) =
      ⟨site, bytes, taken⟩ :: offersFor site offers :=
  List.filter_cons_of_pos (decide_eq_true rfl)

theorem offersFor_cons_of_ne {site : Site} {o : Offer} (hne : site ≠ o.site)
    (offers : List Offer) : offersFor site (o :: offers) = offersFor site offers :=
  List.filter_cons_of_neg (by simpa using Ne.symm hne)

theorem mem_offersFor {site : Site} {o : Offer} {offers : List Offer} :
    o ∈ offersFor site offers ↔ o ∈ offers ∧ o.site = site := by
  rw [offersFor, List.mem_filter, decide_eq_true_eq]

/-- How an entry is written. -/
def Entry.written (e : Entry) : ByteArray := (Snapshot.write e.record).toUTF8

namespace Registry

/-! ## Section 2: One pass -/

/-- A pass over entries: what is offered on the way, and what the registry and the sink are then. -/
inductive Pass (sink : Sink σ) :
    List (Site × Entry) → Registry → σ → List Offer → Registry → σ → Prop where
  | done {g : Registry} {s : σ} : Pass sink [] g s [] g s
  | clean {site : Site} {e : Entry} {rest : List (Site × Entry)} {g g' : Registry} {s s' : σ}
      {offers : List Offer} (hclean : e.dirty = false) (hrest : Pass sink rest g s offers g' s') :
      Pass sink ((site, e) :: rest) g s offers g' s'
  | stored {site : Site} {e : Entry} {rest : List (Site × Entry)} {g g' : Registry} {s s₁ s' : σ}
      {offers : List Offer} (hdirty : e.dirty = true)
      (hstore : sink.store site e.written s = (.ok (), s₁))
      (hrest : Pass sink rest (g.put site { e with dirty := false }) s₁ offers g' s') :
      Pass sink ((site, e) :: rest) g s (⟨site, e.written, true⟩ :: offers) g' s'
  | failed {site : Site} {e : Entry} {rest : List (Site × Entry)} {g g' : Registry} {s s₁ s' : σ}
      {x : SinkError} {offers : List Offer} (hdirty : e.dirty = true)
      (hstore : sink.store site e.written s = (.error x, s₁))
      (hrest : Pass sink rest g s₁ offers g' s') :
      Pass sink ((site, e) :: rest) g s (⟨site, e.written, false⟩ :: offers) g' s'

/-- A pass can always be made. -/
theorem exists_pass (sink : Sink σ) (xs : List (Site × Entry)) (g : Registry) (s : σ) :
    ∃ offers g' s', Pass sink xs g s offers g' s' := by
  induction xs generalizing g s with
  | nil => exact ⟨[], g, s, .done⟩
  | cons head rest ih =>
    obtain ⟨site, e⟩ := head
    rcases offer_cases sink site e s with hclean | ⟨s₁, hdirty, hstore⟩ | ⟨x, s₁, hdirty, hstore⟩
    · obtain ⟨offers, g', s', hrest⟩ := ih g s
      exact ⟨offers, g', s', .clean hclean hrest⟩
    · obtain ⟨offers, g', s', hrest⟩ := ih (g.put site { e with dirty := false }) s₁
      exact ⟨_, g', s', .stored hdirty hstore hrest⟩
    · obtain ⟨offers, g', s', hrest⟩ := ih g s₁
      exact ⟨_, g', s', .failed hdirty hstore hrest⟩

namespace Pass

variable {sink : Sink σ} {xs : List (Site × Entry)} {g g' : Registry} {s s' : σ}
  {offers : List Offer}

/-- Flushing entries is a pass, and counts every one of them. -/
theorem flushEach_eq (h : Pass sink xs g s offers g' s') (report : FlushReport) :
    flushEach sink xs report g s =
      (⟨report.stored + offers.countP (·.taken), report.clean + xs.countP (!·.2.dirty),
        report.failed + offers.countP (!·.taken)⟩, g', s') := by
  induction h generalizing report with
  | done => rfl
  | clean hclean _ ih =>
    rw [flushEach, flushEntry_clean hclean]
    simp only [ih, List.countP_cons, hclean, Bool.not_false, if_true, Nat.add_assoc,
      Nat.add_comm 1]
  | stored hdirty hstore _ ih =>
    rw [flushEach, flushEntry_stored hdirty hstore]
    simp only [ih, List.countP_cons, hdirty, Bool.not_true, Bool.false_eq_true, if_true, if_false,
      Nat.add_zero, Nat.add_assoc, Nat.add_comm 1]
  | failed hdirty hstore _ ih =>
    rw [flushEach, flushEntry_failed hdirty hstore]
    simp only [ih, List.countP_cons, hdirty, Bool.not_true, Bool.not_false, Bool.false_eq_true,
      if_true, if_false, Nat.add_zero, Nat.add_assoc, Nat.add_comm 1]

theorem counted (h : Pass sink xs g s offers g' s') :
    offers.countP (·.taken) + xs.countP (!·.2.dirty) + offers.countP (!·.taken) = xs.length := by
  induction h with
  | done => rfl
  | clean hclean _ ih => simp [hclean, ← ih, Nat.add_assoc, Nat.add_comm 1]
  | stored hdirty _ _ ih => simp [hdirty, ← ih, Nat.add_assoc, Nat.add_comm 1]
  | failed hdirty _ _ ih => simp [hdirty, ← ih, Nat.add_assoc]

/-- It does not matter whether a pass is noted down. -/
theorem logged (h : Pass sink xs g s offers g' s') (before : List Offer) :
    Pass sink.logged xs g (s, before) offers g' (s', before ++ offers) := by
  induction h generalizing before with
  | done =>
    rw [List.append_nil]
    exact .done
  | clean hclean _ ih => exact .clean hclean (ih before)
  | stored hdirty hstore _ ih =>
    rw [List.append_cons]
    exact .stored hdirty (Sink.logged_store hstore before) (ih _)
  | failed hdirty hstore _ ih =>
    rw [List.append_cons]
    exact .failed hdirty (Sink.logged_store hstore before) (ih _)

/-- The entries with changes are offered, in their order. -/
theorem offered (h : Pass sink xs g s offers g' s') :
    offers.map (fun o => (o.site, o.bytes)) =
      (xs.filter (·.2.dirty)).map fun x => (x.1, x.2.written) := by
  induction h with
  | done => rfl
  | clean hclean _ ih => simp [hclean, ih]
  | stored hdirty _ _ ih => simp [hdirty, ih]
  | failed hdirty _ _ ih => simp [hdirty, ih]

theorem site_mem (h : Pass sink xs g s offers g' s') {o : Offer} (ho : o ∈ offers) :
    o.site ∈ xs.map Prod.fst := by
  have hmem : (o.site, o.bytes) ∈ offers.map fun o => (o.site, o.bytes) :=
    List.mem_map.mpr ⟨o, ho, rfl⟩
  rw [h.offered] at hmem
  obtain ⟨x, hx, hsite⟩ := List.mem_map.mp hmem
  exact List.mem_map.mpr ⟨x, (List.mem_filter.mp hx).1, congrArg Prod.fst hsite⟩

/-- What is offered for a site. -/
theorem offers_of_not_mem (h : Pass sink xs g s offers g' s') {site : Site}
    (hnot : site ∉ xs.map Prod.fst) : offersFor site offers = [] := by
  rw [offersFor, List.filter_eq_nil_iff]
  rintro o ho hsite
  exact hnot (of_decide_eq_true hsite ▸ h.site_mem ho)

/-- A site that has no part in a pass is as it was, in the registry and in the sink. -/
theorem untouched (h : Pass sink xs g s offers g' s') {blobs : σ → Site → Option ByteArray}
    (hreplaces : sink.Replaces blobs) {site : Site} (hnot : site ∉ xs.map Prod.fst) :
    g'.entries.find? site = g.entries.find? site ∧ blobs s' site = blobs s site := by
  induction h with
  | done => exact ⟨rfl, rfl⟩
  | clean _ _ ih => exact ih (List.not_mem_of_not_mem_cons hnot)
  | stored _ hstore _ ih =>
    obtain ⟨hentry, hblob⟩ := ih (List.not_mem_of_not_mem_cons hnot)
    have hne : site ≠ _ := List.ne_of_not_mem_cons hnot
    rw [hentry, hblob, hreplaces.stored hstore, Function.update_of_ne hne]
    exact ⟨SiteMap.find?_insert_of_ne hne _ _, rfl⟩
  | failed _ hstore _ ih =>
    obtain ⟨hentry, hblob⟩ := ih (List.not_mem_of_not_mem_cons hnot)
    rw [hentry, hblob, hreplaces.failed hstore]
    exact ⟨rfl, rfl⟩

end Pass

/-- All that can become of an entry and its blob in a pass: what is offered for the site, and the
    entry and the blob after it. -/
inductive Fate (site : Site) (e : Entry) (blob : Option ByteArray) :
    List Offer → Entry → Option ByteArray → Prop where
  | clean (hclean : e.dirty = false) : Fate site e blob [] e blob
  | stored (hdirty : e.dirty = true) :
      Fate site e blob [⟨site, e.written, true⟩] { e with dirty := false } (some e.written)
  | failed (hdirty : e.dirty = true) : Fate site e blob [⟨site, e.written, false⟩] e blob

/-- An entry of a pass meets its fate, if the entries are those of the registry when the pass
    begins. -/
theorem Pass.fate {sink : Sink σ} {xs : List (Site × Entry)} {g g' : Registry} {s s' : σ}
    {offers : List Offer} (h : Pass sink xs g s offers g' s')
    {blobs : σ → Site → Option ByteArray} (hreplaces : sink.Replaces blobs)
    (hnodup : (xs.map Prod.fst).Nodup)
    (hfound : ∀ site e, (site, e) ∈ xs → g.entries.find? site = some e) {site : Site} {e : Entry}
    (hmem : (site, e) ∈ xs) :
    ∃ e', g'.entries.find? site = some e' ∧
      Fate site e (blobs s site) (offersFor site offers) e' (blobs s' site) := by
  -- No site comes twice: what is behind an entry leaves it alone, and it leaves alone what is
  -- behind it.
  induction h with
  | done => cases hmem
  | clean hclean hrest ih =>
    obtain ⟨hnew, hnodup⟩ := List.nodup_cons.mp hnodup
    rcases List.mem_cons.mp hmem with heq | hmem
    · cases heq
      obtain ⟨hentry, hblob⟩ := hrest.untouched hreplaces hnew
      rw [hentry, hblob, hrest.offers_of_not_mem hnew]
      exact ⟨e, hfound site e List.mem_cons_self, .clean hclean⟩
    · exact ih hnodup (fun t e' ht => hfound t e' (List.mem_cons_of_mem _ ht)) hmem
  | stored hdirty hstore hrest ih =>
    obtain ⟨hnew, hnodup⟩ := List.nodup_cons.mp hnodup
    rcases List.mem_cons.mp hmem with heq | hmem
    · cases heq
      obtain ⟨hentry, hblob⟩ := hrest.untouched hreplaces hnew
      rw [hentry, hblob, hreplaces.stored hstore, Function.update_self, offersFor_cons_self,
        hrest.offers_of_not_mem hnew]
      exact ⟨_, SiteMap.find?_insert_self _ _ _, .stored hdirty⟩
    · have hne := SiteMap.ne_of_mem hmem hnew
      have hfate := ih hnodup (fun t e' ht =>
        (SiteMap.find?_insert_of_ne (SiteMap.ne_of_mem ht hnew) _ _).trans
          (hfound t e' (List.mem_cons_of_mem _ ht))) hmem
      rw [hreplaces.stored hstore, Function.update_of_ne hne] at hfate
      rw [offersFor_cons_of_ne hne]
      exact hfate
  | failed hdirty hstore hrest ih =>
    obtain ⟨hnew, hnodup⟩ := List.nodup_cons.mp hnodup
    rcases List.mem_cons.mp hmem with heq | hmem
    · cases heq
      obtain ⟨hentry, hblob⟩ := hrest.untouched hreplaces hnew
      rw [hentry, hblob, hreplaces.failed hstore, offersFor_cons_self,
        hrest.offers_of_not_mem hnew]
      exact ⟨e, hfound site e List.mem_cons_self, .failed hdirty⟩
    · have hfate := ih hnodup (fun t e' ht => hfound t e' (List.mem_cons_of_mem _ ht)) hmem
      rw [hreplaces.failed hstore] at hfate
      rw [offersFor_cons_of_ne (SiteMap.ne_of_mem hmem hnew)]
      exact hfate

namespace Fate

variable {site : Site} {e e' e₁ e₂ : Entry} {blob blob' blob₁ blob₂ : Option ByteArray}
  {offers offers₁ offers₂ : List Offer}

theorem record (h : Fate site e blob offers e' blob') : e'.record = e.record := by
  cases h with
  | clean => rfl
  | stored => rfl
  | failed => rfl

theorem dirty_iff (h : Fate site e blob offers e' blob') :
    e'.dirty = true ↔ ∃ o ∈ offers, o.taken = false := by
  cases h with
  | clean hclean => simp [hclean]
  | stored => simp
  | failed hdirty => simp [hdirty]

theorem blob_of_taken (h : Fate site e blob offers e' blob') {o : Offer} (ho : o ∈ offers)
    (htaken : o.taken = true) : blob' = some o.bytes := by
  cases h with
  | clean => cases ho
  | stored =>
    cases List.mem_singleton.mp ho
    rfl
  | failed =>
    cases List.mem_singleton.mp ho
    cases htaken

theorem blob_of_not_taken (h : Fate site e blob offers e' blob')
    (hnot : ∀ o ∈ offers, o.taken = false) : blob' = blob := by
  cases h with
  | clean => rfl
  | stored => cases hnot _ List.mem_cons_self
  | failed => rfl

/-- With the same answers of the sink, the same becomes of the same entry. -/
theorem unique (h₁ : Fate site e blob offers₁ e₁ blob₁) (h₂ : Fate site e blob offers₂ e₂ blob₂)
    (htaken : offers₁.map (·.taken) = offers₂.map (·.taken)) :
    offers₁ = offers₂ ∧ e₁ = e₂ ∧ blob₁ = blob₂ := by
  cases h₁ with
  | clean =>
    cases h₂ with
    | clean => exact ⟨rfl, rfl, rfl⟩
    | stored => cases htaken
    | failed => cases htaken
  | stored =>
    cases h₂ with
    | clean => cases htaken
    | stored => exact ⟨rfl, rfl, rfl⟩
    | failed => cases htaken
  | failed =>
    cases h₂ with
    | clean => cases htaken
    | stored => cases htaken
    | failed => exact ⟨rfl, rfl, rfl⟩

end Fate

/-! ## Section 3: Whole flushes -/

/-- What a flush does. -/
structure Flushed (g : Registry) (blobs : σ → Site → Option ByteArray) (s : σ)
    (report : FlushReport) (after : Registry) (s' : σ) (offers : List Offer) : Prop where
  /-- The sites with changes are offered as their records are now, and no other site is. -/
  offered : offers.map (fun o => (o.site, o.bytes)) =
    (g.entries.entries.filter (·.2.dirty)).map fun x => (x.1, x.2.written)
  /-- They are offered once, in the order of the sites. -/
  ordered : (offers.map (·.site)).Pairwise fun a b => a.text < b.text
  /-- No record changes, and no site comes or goes. -/
  records : ∀ site, (after.entries.find? site).map (·.record) =
    (g.entries.find? site).map (·.record)
  /-- A site has a mark afterwards if it had one and its store failed. -/
  marked  : ∀ {site e}, after.entries.find? site = some e →
    (e.dirty = true ↔ ∃ o ∈ offers, o.site = site ∧ o.taken = false)
  /-- What the sink took is there. -/
  taken   : ∀ {o}, o ∈ offers → o.taken = true → blobs s' o.site = some o.bytes
  /-- Nothing else of the sink changes. -/
  others  : ∀ {site}, (∀ o ∈ offers, o.site = site → o.taken = false) →
    blobs s' site = blobs s site
  counted : report = ⟨offers.countP (·.taken), g.entries.entries.countP (!·.2.dirty),
    offers.countP (!·.taken)⟩
  total   : report.stored + report.clean + report.failed = g.entries.size
  /-- In any other flush the same becomes of a site, if the site and its blob are the same and the
      sink answers the same for this site. -/
  alone   : ∀ {τ : Type} {sink : Sink τ} {blobs' : τ → Site → Option ByteArray} {g' : Registry}
      {t t' report' after' offers'} {site}, sink.Replaces blobs' →
    g'.flush sink.logged (t, []) = (report', after', t', offers') →
    g'.entries.find? site = g.entries.find? site → blobs' t site = blobs s site →
    (offersFor site offers').map (·.taken) = (offersFor site offers).map (·.taken) →
    offersFor site offers' = offersFor site offers ∧
      after'.entries.find? site = after.entries.find? site ∧ blobs' t' site = blobs s' site

namespace Pass

variable {sink : Sink σ} {blobs : σ → Site → Option ByteArray} {g after : Registry} {s s' : σ}
  {offers : List Offer}

/-- A flush is a pass over all sites. -/
theorem flush_eq (h : Pass sink g.entries.entries g s offers after s') :
    g.flush sink s = (⟨offers.countP (·.taken), g.entries.entries.countP (!·.2.dirty),
      offers.countP (!·.taken)⟩, after, s') := by
  rw [flush, h.flushEach_eq]
  simp only [Nat.zero_add]

theorem of_flush {report : FlushReport}
    (hflush : g.flush sink.logged (s, []) = (report, after, s', offers)) :
    Pass sink g.entries.entries g s offers after s' := by
  obtain ⟨offers', after', t, h⟩ := exists_pass sink g.entries.entries g s
  rw [(h.logged []).flush_eq] at hflush
  cases hflush
  exact h

theorem fate_of_find? (h : Pass sink g.entries.entries g s offers after s')
    (hreplaces : sink.Replaces blobs) {site : Site} {e : Entry}
    (hfound : g.entries.find? site = some e) :
    ∃ e', after.entries.find? site = some e' ∧
      Fate site e (blobs s site) (offersFor site offers) e' (blobs s' site) :=
  h.fate hreplaces g.entries.nodup (fun _ _ hmem => SiteMap.lookup_of_mem g.entries.nodup hmem)
    (SiteMap.mem_of_find? hfound)

theorem absent (h : Pass sink g.entries.entries g s offers after s')
    (hreplaces : sink.Replaces blobs) {site : Site} (hnone : g.entries.find? site = none) :
    after.entries.find? site = none ∧ offersFor site offers = [] ∧
      blobs s' site = blobs s site := by
  have hnot : site ∉ g.entries.entries.map Prod.fst := SiteMap.lookup_eq_none_iff.mp hnone
  obtain ⟨hentry, hblob⟩ := h.untouched hreplaces hnot
  exact ⟨hentry.trans hnone, h.offers_of_not_mem hnot, hblob⟩

theorem flushed (h : Pass sink g.entries.entries g s offers after s')
    (hreplaces : sink.Replaces blobs) : g.Flushed blobs s (g.flush sink s).1 after s' offers := by
  rw [h.flush_eq]
  refine {
    offered := h.offered
    ordered := ?_
    records := ?_
    marked  := ?_
    taken   := ?_
    others  := ?_
    counted := rfl
    total   := h.counted
    alone   := ?_ }
  · have hsites : offers.map (·.site) = (g.entries.entries.filter (·.2.dirty)).map Prod.fst := by
      have hpairs := congrArg (List.map Prod.fst) h.offered
      rw [List.map_map, List.map_map] at hpairs
      exact hpairs
    rw [hsites]
    exact g.entries.sorted.sublist (List.filter_sublist.map Prod.fst)
  · intro site
    cases hfound : g.entries.find? site with
    | none => rw [(h.absent hreplaces hfound).1]
    | some e =>
      obtain ⟨e', hafter, hfate⟩ := h.fate_of_find? hreplaces hfound
      rw [hafter, Option.map_some, Option.map_some, hfate.record]
  · intro site e' hafter
    cases hfound : g.entries.find? site with
    | none =>
      rw [(h.absent hreplaces hfound).1] at hafter
      cases hafter
    | some e =>
      obtain ⟨e'', hafter', hfate⟩ := h.fate_of_find? hreplaces hfound
      cases hafter.symm.trans hafter'
      simpa only [mem_offersFor, and_assoc] using hfate.dirty_iff
  · intro o ho htaken
    have hown : o ∈ offersFor o.site offers := mem_offersFor.mpr ⟨ho, rfl⟩
    cases hfound : g.entries.find? o.site with
    | none =>
      rw [(h.absent hreplaces hfound).2.1] at hown
      cases hown
    | some e =>
      obtain ⟨e', _, hfate⟩ := h.fate_of_find? hreplaces hfound
      exact hfate.blob_of_taken hown htaken
  · intro site hnot
    cases hfound : g.entries.find? site with
    | none => exact (h.absent hreplaces hfound).2.2
    | some e =>
      obtain ⟨e', _, hfate⟩ := h.fate_of_find? hreplaces hfound
      exact hfate.blob_of_not_taken fun o ho =>
        hnot o (mem_offersFor.mp ho).1 (mem_offersFor.mp ho).2
  · intro τ sink' blobs' g' t t' report' after' offers' site hreplaces' hflush hentry hblob htaken
    have h' := of_flush hflush
    cases hfound : g.entries.find? site with
    | none =>
      obtain ⟨hafter, hoffers, hsame⟩ := h.absent hreplaces hfound
      obtain ⟨hafter', hoffers', hsame'⟩ := h'.absent hreplaces' (hentry.trans hfound)
      exact ⟨hoffers'.trans hoffers.symm, hafter'.trans hafter.symm,
        hsame'.trans (hblob.trans hsame.symm)⟩
    | some e =>
      obtain ⟨e₁, hafter, hfate⟩ := h.fate_of_find? hreplaces hfound
      obtain ⟨e₂, hafter', hfate'⟩ := h'.fate_of_find? hreplaces' (hentry.trans hfound)
      rw [hblob] at hfate'
      obtain ⟨hoffers, hentries, hblobs⟩ := hfate'.unique hfate htaken
      exact ⟨hoffers, by rw [hafter, hafter', hentries], hblobs⟩

end Pass

/-! ## Section 4: Flush after flush -/

/-- A registry and its sink come from others by flushes, each with a sink of its own, between which
    the sink may change in all but its blobs. -/
inductive Flushes (blobs : σ → Site → Option ByteArray) (g : Registry) (s : σ) :
    Registry → σ → Prop where
  | start : Flushes blobs g s g s
  | flush {sink : Sink σ} {g' : Registry} {s' : σ} (hreplaces : sink.Replaces blobs)
      (h : Flushes blobs g s g' s') :
      Flushes blobs g s (g'.flush sink s').2.1 (g'.flush sink s').2.2
  | between {g' : Registry} {s' s'' : σ} (hblobs : blobs s'' = blobs s')
      (h : Flushes blobs g s g' s') : Flushes blobs g s g' s''

/-- All that can become of an entry and its blob in many passes. -/
inductive Course (e : Entry) (blob : Option ByteArray) : Entry → Option ByteArray → Prop where
  | kept : Course e blob e blob
  | stored (hdirty : e.dirty = true) :
      Course e blob { e with dirty := false } (some e.written)

theorem Course.fate {site : Site} {e e' e'' : Entry} {blob blob' blob'' : Option ByteArray}
    {offers : List Offer} (h : Course e blob e' blob')
    (hfate : Fate site e' blob' offers e'' blob'') : Course e blob e'' blob'' := by
  cases hfate with
  | clean => exact h
  | failed => exact h
  | stored hdirty =>
    -- An entry that is offered has not been stored before.
    cases h with
    | kept => exact .stored hdirty
    | stored => cases hdirty

/-- What an entry without a mark has gone through. -/
theorem Course.of_clean {e e' : Entry} {blob blob' : Option ByteArray}
    (h : Course e blob e' blob') (hclean : e'.dirty = false) :
    e' = { e with dirty := false } ∧ (e.dirty = true → blob' = some e.written) ∧
      (e.dirty = false → blob' = blob) := by
  cases h with
  | kept =>
    rw [hclean]
    exact ⟨by rw [← hclean], nofun, fun _ => rfl⟩
  | stored hdirty =>
    rw [hdirty]
    exact ⟨rfl, fun _ => rfl, nofun⟩

section

variable {blobs : σ → Site → Option ByteArray} {sink : Sink σ} {g g' : Registry} {s s' : σ}

theorem Flushes.course (h : Flushes blobs g s g' s') (site : Site) :
    (g.entries.find? site = none ∧ g'.entries.find? site = none) ∨
      ∃ e e', g.entries.find? site = some e ∧ g'.entries.find? site = some e' ∧
        Course e (blobs s site) e' (blobs s' site) := by
  induction h with
  | start =>
    cases hfound : g.entries.find? site with
    | none => exact Or.inl ⟨rfl, rfl⟩
    | some e => exact Or.inr ⟨e, e, rfl, rfl, .kept⟩
  | @flush sink g' s' hreplaces _ ih =>
    obtain ⟨offers, after, t, hpass⟩ := exists_pass sink g'.entries.entries g' s'
    rw [hpass.flush_eq]
    rcases ih with ⟨hnone, hnone'⟩ | ⟨e, e', hfound, hfound', hcourse⟩
    · exact Or.inl ⟨hnone, (hpass.absent hreplaces hnone').1⟩
    · obtain ⟨e'', hafter, hfate⟩ := hpass.fate_of_find? hreplaces hfound'
      exact Or.inr ⟨e, e'', hfound, hafter, hcourse.fate hfate⟩
  | between hblobs _ ih =>
    rw [hblobs]
    exact ih

/-- Every site is without a mark, and those that had one are stored; the others have the blobs
    that they had. -/
structure Settled (g : Registry) (blobs : σ → Site → Option ByteArray) (s : σ) (after : Registry)
    (s' : σ) : Prop where
  clean  : ∀ site, after.entries.find? site =
    (g.entries.find? site).map fun e => { e with dirty := false }
  stored : ∀ {site e}, g.entries.find? site = some e → e.dirty = true →
    blobs s' site = some e.written
  kept   : ∀ {site e}, g.entries.find? site = some e → e.dirty = false →
    blobs s' site = blobs s site

/-- After a pass without a failure, nothing has a mark. -/
theorem Pass.clean_of_no_failure {after : Registry} {offers : List Offer}
    (h : Pass sink g.entries.entries g s offers after s') (hreplaces : sink.Replaces blobs)
    (hnone : offers.countP (!·.taken) = 0) {site : Site} {e : Entry}
    (hafter : after.entries.find? site = some e) : e.dirty = false := by
  rw [Bool.eq_false_iff]
  intro hdirty
  obtain ⟨o, ho, _, hfailed⟩ := ((h.flushed hreplaces).marked hafter).mp hdirty
  rw [List.countP_eq_zero] at hnone
  exact hnone o ho (by rw [hfailed]; rfl)

theorem Flushes.settled (h : Flushes blobs g s g' s')
    (hclean : ∀ {site e}, g'.entries.find? site = some e → e.dirty = false) :
    g.Settled blobs s g' s' := by
  -- What is found at the end was found at the start, and has come to have no mark.
  have hcourse : ∀ {site e}, g.entries.find? site = some e →
      g'.entries.find? site = some { e with dirty := false } ∧
        (e.dirty = true → blobs s' site = some e.written) ∧
        (e.dirty = false → blobs s' site = blobs s site) := by
    intro site e hfound
    rcases h.course site with ⟨hnone, _⟩ | ⟨e₁, e', hfound₁, hfound', hcourse⟩
    · rw [hnone] at hfound
      cases hfound
    · cases hfound.symm.trans hfound₁
      obtain ⟨rfl, hblobs⟩ := hcourse.of_clean (hclean hfound')
      exact ⟨hfound', hblobs⟩
  refine ⟨?_, fun hfound => (hcourse hfound).2.1, fun hfound => (hcourse hfound).2.2⟩
  intro site
  cases hfound : g.entries.find? site with
  | some e => exact (hcourse hfound).1
  | none =>
    rcases h.course site with ⟨_, hnone⟩ | ⟨e, _, hfound', _⟩
    · exact hnone
    · rw [hfound] at hfound'
      cases hfound'

end

/-- **Flushes keep the sites apart**: each one offers what has changed, and what becomes of a site
    is between the site and the sink. A flush without a failure, after any others, leaves nothing
    with a mark, and has stored what had one. -/
theorem flushing {sink : Sink σ} {blobs : σ → Site → Option ByteArray}
    (hreplaces : sink.Replaces blobs) (g : Registry) (s : σ) :
    ∃ report after s' offers,
      g.flush sink s = (report, after, s') ∧
      g.flush sink.logged (s, []) = (report, after, s', offers) ∧
      g.Flushed blobs s report after s' offers ∧
      ∀ first t, Flushes blobs first t g s → report.failed = 0 →
        first.Settled blobs t after s' := by
  obtain ⟨offers, after, s', h⟩ := exists_pass sink g.entries.entries g s
  refine ⟨_, after, s', offers, h.flush_eq, (h.logged []).flush_eq, ?_, ?_⟩
  · have hflushed := h.flushed hreplaces
    rwa [h.flush_eq] at hflushed
  · intro first t hbefore hfailed
    have hlast : Flushes blobs first t (g.flush sink s).2.1 (g.flush sink s).2.2 :=
      hbefore.flush hreplaces
    rw [h.flush_eq] at hlast
    exact hlast.settled fun hafter => h.clean_of_no_failure hreplaces hfailed hafter

open MemorySink (everyOther keeps_everyOther)

/-- Two sites with changes. -/
def changed : Registry :=
  (Registry.empty.put bare.site ⟨bare, true⟩).put elsewhere
    ⟨.create elsewhere bare.endpoint 3 4, true⟩

/-- The first of two flushes stores one site of two, and the second one stores the other. -/
theorem flushing_secondFlush :
    let (first, g, m) := changed.flush everyOther .empty
    let (second, after, m') := g.flush everyOther m
    first = ⟨1, 0, 1⟩ ∧ second = ⟨1, 1, 0⟩ ∧
      changed.Settled (·.blobs.find?) .empty after m' := by
  have hreplaces := keeps_everyOther.replaces
  have hbefore : Flushes (·.blobs.find?) changed .empty (changed.flush everyOther .empty).2.1
      (changed.flush everyOther .empty).2.2 := .flush hreplaces .start
  obtain ⟨second, after, m', offers, hflush, _, _, hsettled⟩ := flushing hreplaces
    (changed.flush everyOther .empty).2.1 (changed.flush everyOther .empty).2.2
  have hfirst : (changed.flush everyOther .empty).1 = ⟨1, 0, 1⟩ := by decide +kernel
  have hsecond : ((changed.flush everyOther .empty).2.1.flush everyOther
      (changed.flush everyOther .empty).2.2).1 = ⟨1, 1, 0⟩ := by decide +kernel
  simp only [hflush] at hsecond ⊢
  exact ⟨hfirst, hsecond, hsettled _ _ hbefore (congrArg FlushReport.failed hsecond)⟩

/-- A site that was stored in one sink is not offered to another, so a flush without a failure
    leaves it clean there and not stored. -/
theorem clean_site_not_stored :
    let g := ((Registry.empty.put bare.site ⟨bare, true⟩).flush MemorySink.sink .empty).2.1
    let last := g.flush MemorySink.sink .empty
    last.1 = ⟨0, 1, 0⟩ ∧ (last.2.1.entries.find? bare.site).map (·.dirty) = some false ∧
      last.2.2.blobs.contains bare.site = false :=
  ⟨by decide +kernel, by decide +kernel, by decide +kernel⟩

end Registry

end ChassisRegistry
