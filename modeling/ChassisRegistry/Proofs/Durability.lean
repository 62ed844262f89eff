import ChassisRegistry.Proofs.CrashSafety
import ChassisRegistry.Proofs.Restoration
import ChassisRegistry.Proofs.SnapshotRoundTrip
import ChassisRegistry.Proofs.Traffic
import ChassisRegistry.Sink.Memory

/-! # Durability

    What a sink has taken survives: a registry that is started anew and
    restored from the sink has the sites that were stored at least once, each
    with the record of its last store. A site without a mark is among them
    with its present record, so nothing but marked changes is lost.

    Of the sink it is asked that it keeps blobs: a store that succeeds puts
    one blob in place, one that fails puts none. Stores may fail at any time.
    The sink in memory is such a sink, and so is the one in a directory on the
    disks that it reaches from a blank directory.

    Main statement: `Traffic.Lived.durable`. -/

namespace ChassisRegistry

variable {σ : Type}

/-- A sink keeps blobs, one per site. The sink in memory does (`MemorySink.keeps_sink`), and so does
    the one in a directory on the disks that it reaches (`DirectorySink.keeps_sinkAtRest`). -/
structure Sink.Keeps (sink : Sink σ) (blobs : σ → Site → Option ByteArray) : Prop where
  /-- Every blob is loaded, and each only once. -/
  load   : ∀ s, ∃ xs, sink.load s = .ok xs ∧ (xs.map Prod.fst).Nodup ∧
    ∀ site, SiteMap.lookup site xs = blobs s site
  stored : ∀ {site bytes s s'}, sink.store site bytes s = (.ok (), s') →
    blobs s' = Function.update (blobs s) site (some bytes)
  failed : ∀ {site bytes s x s'}, sink.store site bytes s = (.error x, s') → blobs s' = blobs s

namespace Traffic

/-- The daemon is started anew: what was on the way is lost, and the sites are those that are
    restored. -/
def restart (sink : Sink σ) (w : Traffic σ) : Traffic σ :=
  { w with
    registry := (Registry.empty.restore sink w.sink).2
    flight   := fun _ => none }

/-- The traffic that comes about from nothing, by events and restarts. -/
inductive Lived (sink : Sink σ) (s : σ) : Traffic σ → Prop where
  | start : Lived sink s (.start s)
  | step {w : Traffic σ} (event : Event) (hw : Lived sink s w) : Lived sink s (w.step sink event)
  | restart {w : Traffic σ} (hw : Lived sink s w) : Lived sink s (w.restart sink)

/-- The record of a site that the sink took last. -/
def lastStored (w : Traffic σ) (site : Site) : Option Record :=
  SiteMap.lookup site w.stored.reverse

/-! ## Section 1: The invariant -/

/-- The sink has what it took, and a site without a mark is as the sink took it. -/
structure Safe (blobs : σ → Site → Option ByteArray) (w : Traffic σ) : Prop where
  sound : w.Sound
  blobs : ∀ site, blobs w.sink site =
    (w.lastStored site).map fun r => (Snapshot.write r).toUTF8
  taken : ∀ {site r}, w.lastStored site = some r → r.Coherent ∧ r.site = site
  clean : ∀ {site e}, w.registry.entries.find? site = some e → e.dirty = false →
    w.lastStored site = some e.record

variable {sink : Sink σ} {blobs : σ → Site → Option ByteArray} {w w' : Traffic σ}

/-- The last records that the sink took are restored, all of them. -/
theorem Safe.restore (h : w.Safe blobs) (hkeeps : sink.Keeps blobs) :
    ∃ report g, Registry.empty.restore sink w.sink = (.ok report, g) ∧ report.skipped = 0 ∧
      ∀ site, g.entries.find? site = (w.lastStored site).map fun r => ⟨r, false⟩ := by
  obtain ⟨xs, hload, hnodup, hlookup⟩ := hkeeps.load w.sink
  -- A blob that is loaded was written for the record of its site, and is read back.
  have huseful : ∀ {site r}, w.lastStored site = some r →
      Registry.empty.restorable site (Snapshot.write r).toUTF8 = some r := by
    intro site r hr
    obtain ⟨hcoherent, hsite⟩ := h.taken hr
    exact Registry.restorable_eq_some.mpr ⟨hcoherent.read_written, hsite, rfl⟩
  refine ⟨_, _, Registry.restore_of_load hload .empty, ?_, ?_⟩
  · have hall : (xs.countP fun x => (Registry.empty.restorable x.1 x.2).isSome) = xs.length := by
      rw [List.countP_eq_length]
      intro x hx
      have hfound := SiteMap.lookup_of_mem hnodup hx
      rw [hlookup, h.blobs, Option.map_eq_some_iff] at hfound
      obtain ⟨r, hr, hblob⟩ := hfound
      rw [← hblob, huseful hr]
      rfl
    have hrestored := Registry.restored_restoreEach_of_nodup hnodup {} .empty
    have hcounted := Registry.counted_restoreEach xs {} .empty
    rw [hrestored, hall] at hcounted
    exact Nat.add_left_cancel hcounted
  · intro site
    rw [Registry.find?_restoreEach_of_nodup hnodup, hlookup, h.blobs]
    cases hlast : w.lastStored site with
    | none => rfl
    | some r =>
      rw [Option.map_some, Option.bind_some, huseful hlast]
      rfl

theorem safe_start {s : σ} (hempty : ∀ site, blobs s site = none) : Safe blobs (start s) where
  sound := sound_start s
  blobs := hempty
  taken := nofun
  clean := nofun

/-- What a site has changed by is marked. -/
theorem Safe.clean_put (h : w.Safe blobs) {site : Site} {r : Record} {other : Site} {e : Entry}
    (hfound : (w.registry.put site ⟨r, true⟩).entries.find? other = some e)
    (hclean : e.dirty = false) : w.lastStored other = some e.record := by
  rw [find?_put] at hfound
  by_cases heq : other = site
  · rw [heq, Function.update_self, Option.some.injEq] at hfound
    rw [← hfound] at hclean
    cases hclean
  · rw [Function.update_of_ne heq] at hfound
    exact h.clean hfound hclean

theorem Safe.moves (h : w.Safe blobs) (hkeeps : sink.Keeps blobs) (hmoves : Moves sink w w') :
    w'.Safe blobs := by
  have hsound := hmoves.sound h.sound
  -- Only a store that succeeds concerns the sink, and only a change or a store a mark.
  cases hmoves with
  | idle => exact h
  | present endpoint => exact ⟨hsound, h.blobs, h.taken, h.clean⟩
  | created endpoint rack shelf hnone => exact ⟨hsound, h.blobs, h.taken, h.clean_put⟩
  | planned hfree hfound hplan hcall => exact ⟨hsound, h.blobs, h.taken, h.clean⟩
  | silent hfree hfound hplan hcall => exact ⟨hsound, h.blobs, h.taken, h.clean_put⟩
  | accepted hflight hwaits => exact ⟨hsound, h.blobs, h.taken, h.clean⟩
  | refused hflight hwaits => exact ⟨hsound, h.blobs, h.taken, h.clean⟩
  | finished hflight haccepted hfound hplan hrest =>
    exact ⟨hsound, h.blobs, h.taken, h.clean_put⟩
  | failed hfound hstore =>
    refine ⟨hsound, ?_, h.taken, h.clean⟩
    intro site
    rw [hkeeps.failed hstore]
    exact h.blobs site
  | @stored site e s hfree hfound hstore =>
    have hlast : lastStored ⟨w.registry.put site { e with dirty := false }, s, w.flight, w.log,
        w.stored ++ [(site, e.record)]⟩ =
          Function.update w.lastStored site (some e.record) :=
      SiteMap.lookup_reverse_concat _ _ _
    refine ⟨hsound, ?_, ?_, ?_⟩
    · intro other
      rw [hkeeps.stored hstore, hlast]
      by_cases heq : other = site
      · rw [heq, Function.update_self, Function.update_self]
        rfl
      · rw [Function.update_of_ne heq, Function.update_of_ne heq]
        exact h.blobs other
    · intro other r hr
      rw [hlast] at hr
      by_cases heq : other = site
      · rw [heq, Function.update_self, Option.some.injEq] at hr
        rw [heq, ← hr]
        exact ⟨h.sound.coherent hfound, h.sound.named hfound⟩
      · rw [Function.update_of_ne heq] at hr
        exact h.taken hr
    · intro other e' hfound' hclean
      rw [find?_put] at hfound'
      rw [hlast]
      by_cases heq : other = site
      · rw [heq, Function.update_self, Option.some.injEq] at hfound'
        rw [heq, Function.update_self, ← hfound']
      · rw [Function.update_of_ne heq] at hfound' ⊢
        exact h.clean hfound' hclean

theorem Safe.restart (h : w.Safe blobs) (hkeeps : sink.Keeps blobs) :
    (w.restart sink).Safe blobs := by
  obtain ⟨report, g, hrestore, _, hfind⟩ := h.restore hkeeps
  -- What is found after the restart was taken, and has no mark.
  have hentry : ∀ {site e}, (w.restart sink).registry.entries.find? site = some e →
      w.lastStored site = some e.record := by
    intro site e hfound
    simp only [Traffic.restart, hrestore, hfind, Option.map_eq_some_iff] at hfound
    obtain ⟨r, hr, rfl⟩ := hfound
    exact hr
  exact {
    sound := {
      coherent := fun hfound => (h.taken (hentry hfound)).1
      named    := fun hfound => (h.taken (hentry hfound)).2
      planned  := nofun }
    blobs := h.blobs
    taken := h.taken
    clean := fun hfound _ => hentry hfound }

/-! ## Section 2: Every run -/

theorem Lived.safe {s : σ} (hw : Lived sink s w) (hkeeps : sink.Keeps blobs)
    (hempty : ∀ site, blobs s site = none) : w.Safe blobs := by
  induction hw with
  | start => exact safe_start hempty
  | step event _ ih => exact ih.moves hkeeps (ih.sound.moves event)
  | restart _ ih => exact ih.restart hkeeps

/-- What the sink has is what was stored last, and nothing without a mark is missing there. -/
def Durable (sink : Sink σ) (w : Traffic σ) : Prop :=
  ∃ report g, Registry.empty.restore sink w.sink = (.ok report, g) ∧ report.skipped = 0 ∧
    (∀ site, g.entries.find? site = (w.lastStored site).map fun r => ⟨r, false⟩) ∧
    ∀ site e, w.registry.entries.find? site = some e → e.dirty = false →
      g.entries.find? site = some e

/-- **Durability**: at every point of every run on a sink that was empty and keeps blobs, a fresh
    registry that is restored has every site as it was stored last, and so every site without a
    mark as it is. -/
theorem Lived.durable {s : σ} (hw : Lived sink s w) (hkeeps : sink.Keeps blobs)
    (hempty : ∀ site, blobs s site = none) : Durable sink w := by
  have h := hw.safe hkeeps hempty
  obtain ⟨report, g, hrestore, hskipped, hfind⟩ := h.restore hkeeps
  refine ⟨report, g, hrestore, hskipped, hfind, ?_⟩
  intro site e hfound hclean
  rw [hfind, h.clean hfound hclean]
  obtain ⟨record, dirty⟩ := e
  cases hclean
  rfl

theorem Lived.run {s : σ} (hw : Lived sink s w) (events : List Event) :
    Lived sink s (events.foldl (Traffic.step sink) w) := by
  induction events generalizing w with
  | nil => exact hw
  | cons event rest ih => exact ih (hw.step event)

end Traffic

/-! ## Section 3: The sinks in memory and in a directory -/

namespace MemorySink

theorem keeps_sink : sink.Keeps fun m => m.blobs.find? where
  load m := ⟨m.blobs.entries, rfl, m.blobs.nodup, fun _ => rfl⟩
  stored := by
    intro site bytes m m' hstore
    simp only [sink, store] at hstore
    split at hstore
    · cases hstore
    · cases hstore
      funext other
      by_cases heq : other = site
      · rw [heq, Function.update_self]
        exact SiteMap.find?_insert_self _ _ _
      · rw [Function.update_of_ne heq]
        exact SiteMap.find?_insert_of_ne heq _ _
  failed := by
    intro site bytes m x m' hstore
    simp only [sink, store] at hstore
    split at hstore
    · cases hstore
      rfl
    · cases hstore

/-- The sink in memory, switched by every store, so that every other one fails. -/
def everyOther : Sink MemorySink where
  store site blob m :=
    let (result, m) := store site blob m
    (result, { m with failing := !m.failing })
  load m := .ok m.load

theorem keeps_everyOther : everyOther.Keeps fun m => m.blobs.find? where
  load   := keeps_sink.load
  stored := by
    intro site bytes m m' hstore
    -- The switch is not seen by those who look for blobs.
    rcases hresult : store site bytes m with ⟨result, m''⟩
    simp only [everyOther, hresult] at hstore
    cases hstore
    have hblobs := keeps_sink.stored hresult
    exact hblobs
  failed := by
    intro site bytes m x m' hstore
    rcases hresult : store site bytes m with ⟨result, m''⟩
    simp only [everyOther, hresult] at hstore
    cases hstore
    have hblobs := keeps_sink.failed hresult
    exact hblobs

end MemorySink

namespace DirectorySink

open Relation (ReflTransGen)

/-- A disk that was reached from these files, with no store on the way. -/
structure AtRest (d : DirectorySink) (fs : FileSystem) where
  disk : Disk
  run  : ReflTransGen d.Moves (.start fs) disk
  idle : disk.job = none

variable {d : DirectorySink} {fs : FileSystem}

/-- The sink in a directory, on the disks that it reaches. -/
def sinkAtRest (d : DirectorySink) (fs : FileSystem) : Sink (d.AtRest fs) where
  store site blob w := ((d.store site blob w.disk.files).1,
    ⟨w.disk.stored d site blob, w.run.trans (run_store w.idle site blob), stored_job ..⟩)
  load w := d.load w.disk.files

/-- It answers as the sink does, and does the same to the files. -/
theorem store_sinkAtRest (w : d.AtRest fs) (site : Site) (blob : ByteArray) :
    Prod.map id (·.disk.files) ((d.sinkAtRest fs).store site blob w) =
      d.sink.store site blob w.disk.files := by
  rcases hstore : d.store site blob w.disk.files with ⟨x | _, fs'⟩
  · simp only [sinkAtRest, sink, Prod.map, Disk.stored, hstore, id]
  · simp only [sinkAtRest, sink, Prod.map, Disk.stored, hstore, id]

theorem keeps_sinkAtRest (hblank : d.Blank fs) :
    (d.sinkAtRest fs).Keeps fun w => w.disk.lastRenamed where
  load w := by
    have hsound := Disk.sound_of_run hblank w.run
    obtain ⟨blobs, hload, hsorted, hmem⟩ := hsound.shelf.load hblank.path hblank.short
    have hnodup := SiteMap.nodup ⟨blobs, hsorted⟩
    refine ⟨blobs, hload, hnodup, fun site => Option.ext fun blob => ?_⟩
    exact ⟨fun hfound => (hmem site blob).mp (SiteMap.mem_of_lookup hfound),
      fun hfound => SiteMap.lookup_of_mem hnodup ((hmem site blob).mpr hfound)⟩
  stored := by
    intro site blob w w' hstore
    obtain ⟨htook, rfl⟩ := Prod.mk.inj hstore
    rcases hresult : d.store site blob w.disk.files with ⟨x | _, fs'⟩
    · rw [hresult] at htook
      cases htook
    · simp only [Disk.stored, hresult]
      exact SiteMap.lookup_reverse_concat w.disk.renamed site blob
  failed := by
    intro site blob w x w' hstore
    obtain ⟨hfailed, rfl⟩ := Prod.mk.inj hstore
    rcases hresult : d.store site blob w.disk.files with ⟨y | _, fs'⟩
    · simp only [Disk.stored, hresult]
      rfl
    · rw [hresult] at hfailed
      cases hfailed

end DirectorySink

namespace Traffic

open MemorySink (everyOther keeps_everyOther)

/-- A site is created and stored, and then gets another login, which the sink does not take. -/
def twoFlushes : List Event :=
  [.create Record.oneCard.site Record.oneCard.endpoint 1 2 (.ok ()), .flush Record.oneCard.site,
    .change Record.oneCard.site (.login "olt" "changed"), .reply Record.oneCard.site (.ok ()),
    .finish Record.oneCard.site, .flush Record.oneCard.site]

/-- After a restart the site is there with the login that was stored. -/
theorem durable_twoFlushes :
    let w := twoFlushes.foldl (step everyOther) (start .empty)
    Durable everyOther w ∧ Durable everyOther (w.restart everyOther) ∧
      (w.lastStored Record.oneCard.site).map (·.endpoint.password) = some "secret" ∧
      (w.registry.entries.find? Record.oneCard.site).map
        (fun e => (e.record.endpoint.password, e.dirty)) = some ("changed", true) := by
  have hlived : Lived everyOther .empty (twoFlushes.foldl (step everyOther) (start .empty)) :=
    Lived.start.run twoFlushes
  exact ⟨hlived.durable keeps_everyOther fun _ => rfl,
    hlived.restart.durable keeps_everyOther fun _ => rfl, by decide +kernel, by decide +kernel⟩

end Traffic

end ChassisRegistry
