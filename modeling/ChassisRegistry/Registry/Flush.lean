import ChassisRegistry.Registry.Basic
import ChassisRegistry.Sink
import ChassisRegistry.Snapshot

/-! # Flushing and restoring

    A flush offers every site with changes to a sink, in the order of the
    sites. A site that the sink takes has no changes any more; one that it
    does not take keeps its mark, and the pass goes on.

    Restoring takes in the stored snapshots of sites that are not there yet.
    A blob that holds no record, or the record of another site, is skipped. -/

namespace ChassisRegistry

/-- How the sites fared in a flush. -/
structure FlushReport where
  stored : Nat := 0
  clean  : Nat := 0
  failed : Nat := 0
  deriving DecidableEq, Repr

/-- How the blobs fared in a restoration. -/
structure RestoreReport where
  restored : Nat := 0
  skipped  : Nat := 0
  deriving DecidableEq, Repr

namespace Registry

variable {σ : Type}

/-! ## Flushing -/

/-- Offers an entry to a sink. -/
def flushEntry (sink : Sink σ) (report : FlushReport) (g : Registry) (s : σ) (site : Site)
    (e : Entry) : FlushReport × Registry × σ :=
  if e.dirty then
    match sink.store site (Snapshot.write e.record).toUTF8 s with
    | (.ok (), s) =>
        ({ report with stored := report.stored + 1 }, g.put site { e with dirty := false }, s)
    | (.error _, s) => ({ report with failed := report.failed + 1 }, g, s)
  else ({ report with clean := report.clean + 1 }, g, s)

section

variable {sink : Sink σ} {site : Site} {e : Entry} {g : Registry} {s s' : σ}

theorem flushEntry_clean (hclean : e.dirty = false) (report : FlushReport) :
    g.flushEntry sink report s site e = ({ report with clean := report.clean + 1 }, g, s) := by
  rw [flushEntry, hclean]
  rfl

theorem flushEntry_stored (hdirty : e.dirty = true)
    (hstore : sink.store site (Snapshot.write e.record).toUTF8 s = (.ok (), s'))
    (report : FlushReport) :
    g.flushEntry sink report s site e = ({ report with stored := report.stored + 1 },
      g.put site { e with dirty := false }, s') := by
  rw [flushEntry, if_pos hdirty, hstore]

theorem flushEntry_failed {x : SinkError} (hdirty : e.dirty = true)
    (hstore : sink.store site (Snapshot.write e.record).toUTF8 s = (.error x, s'))
    (report : FlushReport) :
    g.flushEntry sink report s site e = ({ report with failed := report.failed + 1 }, g, s') := by
  rw [flushEntry, if_pos hdirty, hstore]

variable (sink site e s) in
/-- An entry has no changes, or the sink takes it, or it does not. -/
theorem offer_cases : e.dirty = false ∨
    (∃ s', e.dirty = true ∧ sink.store site (Snapshot.write e.record).toUTF8 s = (.ok (), s')) ∨
      ∃ x s', e.dirty = true ∧
        sink.store site (Snapshot.write e.record).toUTF8 s = (.error x, s') := by
  cases hdirty : e.dirty with
  | false => exact Or.inl rfl
  | true =>
    rcases hstore : sink.store site (Snapshot.write e.record).toUTF8 s with ⟨x | _, s'⟩
    · exact Or.inr (Or.inr ⟨x, s', rfl, rfl⟩)
    · exact Or.inr (Or.inl ⟨s', rfl, rfl⟩)

end

/-- Offers entries to a sink, one after the other. -/
def flushEach (sink : Sink σ) :
    List (Site × Entry) → FlushReport → Registry → σ → FlushReport × Registry × σ
  | [], report, g, s => (report, g, s)
  | (site, e) :: rest, report, g, s =>
      let (report, g, s) := flushEntry sink report g s site e
      flushEach sink rest report g s

/-- Offers every site with changes to a sink. -/
def flush (g : Registry) (sink : Sink σ) (s : σ) : FlushReport × Registry × σ :=
  flushEach sink g.entries.entries {} g s

/-! ## Restoring -/

/-- The record that a blob stores for a site, if it is of use. -/
def restorable (g : Registry) (site : Site) (blob : ByteArray) : Option Record :=
  match Snapshot.read blob with
  | .error _ => none
  | .ok r => if r.site = site ∧ !g.entries.contains site then some r else none

/-- Takes in blobs, one after the other. -/
def restoreEach : List (Site × ByteArray) → RestoreReport → Registry → RestoreReport × Registry
  | [], report, g => (report, g)
  | (site, blob) :: rest, report, g =>
      match g.restorable site blob with
      | some r =>
          restoreEach rest { report with restored := report.restored + 1 } (g.put site ⟨r, false⟩)
      | none => restoreEach rest { report with skipped := report.skipped + 1 } g

/-- Takes in all blobs of a sink. -/
def restore (g : Registry) (sink : Sink σ) (s : σ) :
    Except RegistryError RestoreReport × Registry :=
  match sink.load s with
  | .error e => (.error (.persistence "*" e.message), g)
  | .ok blobs =>
      let (report, g) := restoreEach blobs {} g
      (.ok report, g)

end Registry

end ChassisRegistry
