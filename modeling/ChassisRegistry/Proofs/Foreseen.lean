import ChassisRegistry.Proofs.Traffic

/-! # What a move does to a site

    Between the accepted call of a change and its end a record is behind: the
    call is in the log already. What is foreseen of a site is its record once
    such a change has come to its end. Of a move a site sees what becomes of
    that, and the call that is logged, which is one of its own or of another
    site.

    Main statement: `Traffic.Moves.concerns`, all that a move can do to a
    site. -/

namespace ChassisRegistry.Traffic

variable {σ : Type} {sink : Sink σ} {w w' : Traffic σ} {site : Site}

/-! ## Section 1: What is foreseen -/

/-- The record of a site once the change whose call was accepted has come to its end. -/
def foreseen (w : Traffic σ) (site : Site) : Option Record :=
  (w.registry.entries.find? site).map fun e =>
    match w.flight site with
    | some ⟨_, .change _ plan, true⟩ => (e.record.carryOut plan).2
    | _ => e.record

/-- Before its call is accepted a change has nothing ahead. -/
theorem foreseen_of_waiting (hwaits : ∀ f, w.flight site = some f → f.accepted = false) :
    w.foreseen site = (w.registry.entries.find? site).map Entry.record := by
  unfold foreseen
  congr 1
  funext e
  split
  · next hflight => cases hwaits _ hflight
  · rfl

/-- After its call is accepted a change will do what was planned. -/
theorem foreseen_of_accepted {f : Flight} {e : Entry} {what : Change} {plan : Plan}
    (hflight : w.flight site = some f) (haccepted : f.accepted = true)
    (hrest : f.rest = .change site plan) (hfound : w.registry.entries.find? site = some e)
    (hcoherent : e.record.Coherent) (hplan : e.record.plan what = .ok plan) :
    w.foreseen site = some (e.record.after what) := by
  obtain ⟨answer, hcarry⟩ := hcoherent.carryOut_plan hplan
  obtain ⟨call, rest, accepted⟩ := f
  obtain rfl : accepted = true := haccepted
  obtain rfl : rest = .change site plan := hrest
  simp only [foreseen, hfound, hflight, Option.map_some, hcarry]

/-- A site without a change on the way is as its entry. -/
theorem foreseen_of_free (hfree : w.flight site = none) :
    w.foreseen site = (w.registry.entries.find? site).map Entry.record :=
  foreseen_of_waiting fun f hf => by
    rw [hfree] at hf
    cases hf

/-! ## Section 2: Moves as a site sees them -/

/-- What a site sees of a move. -/
inductive Concerns (w w' : Traffic σ) (site : Site) : Prop where
  | nothing (hlog : w'.log = w.log) (hsame : w'.foreseen site = w.foreseen site)
  /-- A login is asked about for some site that is there or is created. -/
  | login (endpoint : Endpoint) (hlog : w'.log = w.log ++ [.login endpoint])
      (hsame : w'.foreseen site = w.foreseen site)
  /-- The call of a change of another site is accepted. -/
  | elsewhere {r : Record} {what : Change} {plan : Plan} {call : Call} (hr : r.Coherent)
      (hne : r.site ≠ site) (hplan : r.plan what = .ok plan) (hcall : plan.call? = some call)
      (hlog : w'.log = w.log ++ [call]) (hsame : w'.foreseen site = w.foreseen site)
  | created (endpoint : Endpoint) (rack shelf : UInt32)
      (hlog : w'.log = w.log ++ [.login endpoint]) (hbefore : w.foreseen site = none)
      (hafter : w'.foreseen site = some (.create site endpoint rack shelf))
  /-- The call of a change of the site is accepted. -/
  | accepted {r : Record} {what : Change} {plan : Plan} {call : Call} (hr : r.Coherent)
      (hsite : r.site = site) (hplan : r.plan what = .ok plan) (hcall : plan.call? = some call)
      (hlog : w'.log = w.log ++ [call]) (hbefore : w.foreseen site = some r)
      (hafter : w'.foreseen site = some (r.after what))
  /-- A change of the site without a call is carried out. -/
  | silent {r : Record} {what : Change} {plan : Plan} (hr : r.Coherent) (hsite : r.site = site)
      (hplan : r.plan what = .ok plan) (hcall : plan.call? = none) (hlog : w'.log = w.log)
      (hbefore : w.foreseen site = some r) (hafter : w'.foreseen site = some (r.after what))

/-- The log only grows. -/
theorem Concerns.log_eq (h : Concerns w w' site) : w.log ++ w'.log.drop w.log.length = w'.log := by
  cases h with
  | nothing hlog => rw [hlog, List.drop_length, List.append_nil]
  | login endpoint hlog => rw [hlog, List.drop_left]
  | elsewhere hr hne hplan hcall hlog => rw [hlog, List.drop_left]
  | created endpoint rack shelf hlog => rw [hlog, List.drop_left]
  | accepted hr hsite hplan hcall hlog => rw [hlog, List.drop_left]
  | silent hr hsite hplan hcall hlog => rw [hlog, List.drop_length, List.append_nil]

/-- Whose entry and change are as they were, of that the same is foreseen. -/
theorem foreseen_congr (hfound : w'.registry.entries.find? site = w.registry.entries.find? site)
    (hflight : w'.flight site = w.flight site) : w'.foreseen site = w.foreseen site := by
  simp only [foreseen, hfound, hflight]

/-- An entry with the same record is put in place of a site that has no change on the way. -/
theorem foreseen_put {g : Registry} {e : Entry} {s : σ} {flight : Site → Option Flight}
    {log : List Call} {stored : List (Site × Record)} (hfree : flight site = none) :
    foreseen ⟨g.put site e, s, flight, log, stored⟩ site = some e.record := by
  rw [foreseen_of_free hfree, find?_put, Function.update_self, Option.map_some]

theorem Moves.concerns (hmoves : Moves sink w w') (h : w.Sound) (site : Site) :
    Concerns w w' site := by
  -- By move, and whether it is one of the site. A move of another site leaves entry and change.
  cases hmoves with
  | idle => exact .nothing rfl rfl
  | present endpoint => exact .login endpoint rfl rfl
  | @created own endpoint rack shelf hnone =>
    by_cases heq : site = own
    · subst heq
      have hfree := h.flight_eq_none hnone
      refine .created endpoint rack shelf rfl ?_ (foreseen_put hfree)
      rw [foreseen_of_free hfree, hnone, Option.map_none]
    · exact .login endpoint rfl (foreseen_congr (by simp [find?_put, heq]) rfl)
  | @planned own e what plan call hfree hfound hplan hcall =>
    refine .nothing rfl ?_
    by_cases heq : site = own
    · subst heq
      rw [foreseen_of_free hfree, foreseen_of_waiting]
      intro f hf
      simp only [Function.update_self, Option.some.injEq] at hf
      rw [← hf]
    · exact foreseen_congr rfl (by simp [heq])
  | @silent own e what plan hfree hfound hplan hcall =>
    by_cases heq : site = own
    · subst heq
      refine .silent (h.coherent hfound) (h.named hfound) hplan hcall rfl ?_ (foreseen_put hfree)
      rw [foreseen_of_free hfree, hfound, Option.map_some]
    · exact .nothing rfl (foreseen_congr (by simp [find?_put, heq]) rfl)
  | @accepted own f hflight hwaits =>
    obtain ⟨e, what, plan, hfound, hplan, hcall, hrest⟩ := h.planned hflight
    have hcoherent := h.coherent hfound
    have hnamed := h.named hfound
    by_cases heq : site = own
    · subst heq
      refine .accepted hcoherent hnamed hplan hcall rfl ?_ ?_
      · rw [foreseen_of_waiting (by simp [hflight, hwaits]), hfound, Option.map_some]
      · exact foreseen_of_accepted (f := { f with accepted := true }) (by simp) rfl hrest hfound
          hcoherent hplan
    · exact .elsewhere hcoherent (hnamed ▸ Ne.symm heq) hplan hcall rfl
        (foreseen_congr rfl (by simp [heq]))
  | @refused own f hflight hwaits =>
    refine .nothing rfl ?_
    by_cases heq : site = own
    · subst heq
      rw [foreseen_of_free (Function.update_self ..),
        foreseen_of_waiting (by simp [hflight, hwaits])]
    · exact foreseen_congr rfl (by simp [heq])
  | @finished own f e what plan hflight haccepted hfound hplan hrest =>
    refine .nothing rfl ?_
    by_cases heq : site = own
    · subst heq
      rw [foreseen_put (Function.update_self ..),
        foreseen_of_accepted hflight haccepted hrest hfound (h.coherent hfound) hplan]
    · exact foreseen_congr (by simp [find?_put, heq]) (by simp [heq])
  | @stored own e s hfree hfound hstore =>
    refine .nothing rfl ?_
    by_cases heq : site = own
    · subst heq
      rw [foreseen_put hfree, foreseen_of_free hfree, hfound, Option.map_some]
    · exact foreseen_congr (by simp [find?_put, heq]) rfl
  | failed hfound hstore => exact .nothing rfl rfl

end ChassisRegistry.Traffic
