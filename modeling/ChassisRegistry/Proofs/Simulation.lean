import ChassisRegistry.Proofs.Locking
import ChassisRegistry.Proofs.OneByOne

/-! # The world in step with the ledger

    The world, with visits in the middle of their turns, is compared to the
    ledger of the visits that have acquired their lock, each performed in one
    go at the moment at which it acquires it. The ledger is ahead of the world
    at a site that is held, by what the holder has still to do; at a site that
    is free both agree (`Workload.InStep`).

    `Workload.Serial` says this of all sites. It is preserved by every step
    (`Serial.moves`) and so by every run (`Serial.run`). As long as it holds,
    nobody is stuck (`Serial.exists_step`). -/

namespace ChassisRegistry

variable {ι : Type}

namespace Workload

/-! ## Section 1: A site in step -/

/-- A visit that is inside, and goes on from the present entry of its site, ends as the ledger
    has it. -/
def Halfway (load : Workload ι) (b : Ledger ι) (w : World ι) (s : Site) (t : ι) : Prop :=
  ∃ e result e' sent before,
    w.registry.entries.find? s = some e ∧
    (w.phase t).finish (load.script t) e = some (result, e', sent) ∧
    b.registry.entries.find? s = some e' ∧
    b.answer t = some result ∧
    w.sent s = before ++ (w.phase t).sent ∧
    b.sent s = before ++ sent

/-- The world and the ledger agree at a site, up to what its holder has still to do. -/
def InStep (load : Workload ι) (b : Ledger ι) (w : World ι) (s : Site) : Prop :=
  match w.holder s with
  | none => w.registry.entries.find? s = b.registry.entries.find? s ∧ w.sent s = b.sent s
  | some t => load.Halfway b w s t

variable {load : Workload ι} {g : Registry} {b b' : Ledger ι} {w w' : World ι} {s : Site} {t : ι}

/-- The site that is free is in step when world and ledger agree. -/
theorem inStep_of_free (hfree : w.holder s = none)
    (hentry : w.registry.entries.find? s = b.registry.entries.find? s)
    (hsent : w.sent s = b.sent s) : load.InStep b w s := by
  unfold InStep
  rw [hfree]
  exact ⟨hentry, hsent⟩

theorem inStep_of_held (hheld : w.holder s = some t) (hhalfway : load.Halfway b w s t) :
    load.InStep b w s := by
  unfold InStep
  rw [hheld]
  exact hhalfway

theorem InStep.free (h : load.InStep b w s) (hfree : w.holder s = none) :
    w.registry.entries.find? s = b.registry.entries.find? s ∧ w.sent s = b.sent s := by
  unfold InStep at h
  rw [hfree] at h
  exact h

theorem InStep.halfway (h : load.InStep b w s) (hheld : w.holder s = some t) :
    load.Halfway b w s t := by
  unfold InStep at h
  rw [hheld] at h
  exact h

/-- A site stays in step while nothing of it changes. -/
theorem InStep.frame (h : load.InStep b w s) (hholder : w'.holder s = w.holder s)
    (hentry : w'.registry.entries.find? s = w.registry.entries.find? s)
    (hsent : w'.sent s = w.sent s) (hphase : ∀ u, w.holder s = some u → w'.phase u = w.phase u)
    (hentry' : b'.registry.entries.find? s = b.registry.entries.find? s)
    (hsent' : b'.sent s = b.sent s)
    (hanswer : ∀ u, w.holder s = some u → b'.answer u = b.answer u) : load.InStep b' w' s := by
  cases hheld : w.holder s with
  | none =>
    obtain ⟨hagree, hsame⟩ := h.free hheld
    refine inStep_of_free (hholder.trans hheld) ?_ ?_
    · rw [hentry, hentry', hagree]
    · rw [hsent, hsent', hsame]
  | some u =>
    refine inStep_of_held (hholder.trans hheld) ?_
    unfold Halfway
    rw [hentry, hentry', hsent, hsent', hphase u hheld, hanswer u hheld]
    exact h.halfway hheld

/-! ## Section 2: The invariant -/

variable [DecidableEq ι]

/-- What holds of the world at any time. -/
structure Serial (load : Workload ι) (g : Registry) (w : World ι) : Prop where
  orderly : load.Orderly w
  /-- No site comes or goes. -/
  sites : ∀ s, (w.registry.entries.find? s).isSome = (g.entries.find? s).isSome
  /-- Only visits that pass the screening queue up. -/
  admitted : ∀ t, w.phase t = .found ∨ t ∈ w.queued → (load.visit t).screen g = .ok ()
  /-- Every site is in step with the ledger of the visits that have acquired their lock. -/
  inStep : ∀ s, load.InStep (load.oneByOne g w.acquired) w s
  /-- Who is over was refused, or has the answer that the ledger says. -/
  answered : ∀ t result, w.phase t = .done result →
    (∃ x, (load.visit t).screen g = .error x ∧ result = .error x) ∨
      (load.oneByOne g w.acquired).answer t = some result

theorem serial_start (load : Workload ι) (g : Registry) : load.Serial g (.start g) where
  orderly := orderly_start load g
  sites s := rfl
  admitted t h := by
    rcases h with hphase | hmem
    · cases hphase
    · cases hmem
  inStep s := ⟨rfl, rfl⟩
  answered t result hphase := by cases hphase

/-! ## Section 3: One step -/

namespace Serial

/-- The phase of one visit is replaced by one that is not over. -/
theorem answered_of_update (h : load.Serial g w) {p : Phase}
    (hphase : w'.phase = Function.update w.phase t p) (hover : ∀ result, p ≠ .done result)
    (hanswer : ∀ u, u ≠ t → b'.answer u = (load.oneByOne g w.acquired).answer u) :
    ∀ u result, w'.phase u = .done result →
      (∃ x, (load.visit u).screen g = .error x ∧ result = .error x) ∨
        b'.answer u = some result := by
  intro u result hdone
  rw [hphase] at hdone
  by_cases hut : u = t
  · rw [hut, Function.update_self] at hdone
    exact absurd hdone (hover result)
  · rw [Function.update_of_ne hut] at hdone
    rw [hanswer u hut]
    exact h.answered u result hdone

/-- The phase of one visit is replaced, and it is about to queue up only if it was. -/
theorem admitted_of_update (h : load.Serial g w) {p : Phase}
    (hphase : w'.phase = Function.update w.phase t p) (hqueued : w'.queued = w.queued)
    (hfound : p ≠ .found) :
    ∀ u, w'.phase u = .found ∨ u ∈ w'.queued → (load.visit u).screen g = .ok () := by
  intro u hu
  rw [hphase, hqueued] at hu
  by_cases hut : u = t
  · rw [hut, Function.update_self] at hu
    rcases hu with hu | hu
    · exact absurd hu hfound
    · exact h.admitted u (Or.inr (hut ▸ hu))
  · rw [Function.update_of_ne hut] at hu
    exact h.admitted u hu

/-- Whether a visit is admitted is the same at any time. -/
theorem screen_eq (h : load.Serial g w) (t : ι) :
    (load.visit t).screen w.registry = (load.visit t).screen g :=
  Visit.screen_congr (h.sites _)

theorem lookUp (h : load.Serial g w) (hphase : w.phase t = .outside) :
    load.Serial g (load.lookUp w t) := by
  have hscreen := h.screen_eq t
  have houtside : ¬ (w.phase t).Inside := by
    rw [hphase]
    exact id
  refine { orderly := h.orderly.lookUp hphase, sites := h.sites, admitted := ?_, inStep := ?_,
           answered := ?_ }
  · intro u hu
    by_cases hut : u = t
    · subst hut
      rcases hu with hu | hu
      · simp only [Workload.lookUp, Function.update_self] at hu
        rw [hscreen] at hu
        cases hresult : (load.visit u).screen g with
        | ok _ => rfl
        | error x =>
          rw [hresult] at hu
          cases hu
      · exact h.admitted u (Or.inr hu)
    · simp only [Workload.lookUp, Function.update_of_ne hut] at hu
      exact h.admitted u hu
  · intro s
    refine (h.inStep s).frame rfl rfl rfl ?_ rfl rfl fun _ _ => rfl
    intro u hheld
    exact Function.update_of_ne (h.orderly.ne_of_holder houtside hheld) _ _
  · intro u result hdone
    by_cases hut : u = t
    · subst hut
      simp only [Workload.lookUp, Function.update_self] at hdone
      rw [hscreen] at hdone
      cases hresult : (load.visit u).screen g with
      | ok _ =>
        rw [hresult] at hdone
        cases hdone
      | error x =>
        rw [hresult, Phase.done.injEq] at hdone
        exact Or.inl ⟨x, rfl, hdone.symm⟩
    · simp only [Workload.lookUp, Function.update_of_ne hut] at hdone
      exact h.answered u result hdone

theorem queueUp (h : load.Serial g w) (hphase : w.phase t = .found) :
    load.Serial g (load.queueUp w t) := by
  have houtside : ¬ (w.phase t).Inside := by
    rw [hphase]
    exact id
  refine { orderly := h.orderly.queueUp hphase, sites := h.sites, admitted := ?_, inStep := ?_,
           answered := h.answered_of_update rfl (by simp) fun _ _ => rfl }
  · intro u hu
    by_cases hut : u = t
    · rw [hut]
      exact h.admitted t (Or.inl hphase)
    · simp only [Workload.queueUp, Function.update_of_ne hut, List.mem_append,
        List.mem_singleton, hut, or_false] at hu
      exact h.admitted u hu
  · intro s
    refine (h.inStep s).frame rfl rfl rfl ?_ rfl rfl fun _ _ => rfl
    intro u hheld
    exact Function.update_of_ne (h.orderly.ne_of_holder houtside hheld) _ _

/-- At the moment at which a visit acquires its lock, the ledger performs it. -/
theorem acquire (h : load.Serial g w) {rest : List ι} (hphase : w.phase t = .queued)
    (hfree : w.holder (load.site t) = none) (hqueue : w.queue (load.site t) = t :: rest) :
    load.Serial g (load.acquire w t) := by
  have houtside : ¬ (w.phase t).Inside := by
    rw [hphase]
    exact id
  -- The site is free, so world and ledger agree on its entry; the ledger goes ahead by the whole
  -- turn, and what is left of it to the world is the whole turn as well.
  have hqueued : t ∈ w.queued := by
    have hmem : t ∈ load.ofSite (load.site t) w.queued := by
      rw [h.orderly.order, hqueue]
      exact List.mem_append_right _ List.mem_cons_self
    exact (mem_ofSite.mp hmem).1
  obtain ⟨hagree, hsent⟩ := (h.inStep (load.site t)).free hfree
  have hscreen : (load.visit t).screen (load.oneByOne g w.acquired).registry = .ok () := by
    rw [← h.admitted t (Or.inr hqueued)]
    refine Visit.screen_congr ?_
    show ((load.oneByOne g w.acquired).registry.entries.find? (load.site t)).isSome = _
    rw [← hagree]
    exact h.sites _
  obtain ⟨e, hfound⟩ := Visit.exists_entry hscreen
  rcases hrun : (load.visit t).turn.run (load.script t) e [] with ⟨result, e', sent⟩
  have hperform := perform_of_admitted hscreen hfound hrun
  have hacquired : (load.acquire w t).acquired = w.acquired ++ [t] := rfl
  refine { orderly := h.orderly.acquire hphase hfree hqueue, sites := h.sites,
           admitted := h.admitted_of_update rfl rfl (by simp), inStep := ?_, answered := ?_ }
  · intro s
    rw [hacquired, oneByOne_concat, hperform]
    by_cases hs : s = load.site t
    · subst hs
      refine inStep_of_held (t := t) (Function.update_self _ _ _)
        ⟨e, result, e', sent, w.sent (load.site t), hagree.trans hfound, ?_, ?_, ?_, ?_, ?_⟩
      · simp only [Workload.acquire, Function.update_self, Phase.finish, hrun]
      · exact SiteMap.find?_insert_self _ _ _
      · exact Function.update_self _ _ _
      · simp only [Workload.acquire, Function.update_self, Phase.sent, List.append_nil]
      · rw [hsent]
        exact Function.update_self _ _ _
    · refine (h.inStep s).frame (Function.update_of_ne hs _ _) rfl rfl ?_
        (SiteMap.find?_insert_of_ne hs _ _) (Function.update_of_ne hs _ _) ?_
      · intro u hheld
        exact Function.update_of_ne (h.orderly.ne_of_site hs hheld) _ _
      · intro u hheld
        exact Function.update_of_ne (h.orderly.ne_of_site hs hheld) _ _
  · rw [hacquired, oneByOne_concat, hperform]
    exact h.answered_of_update rfl (by simp) fun u hut => Function.update_of_ne hut _ _

/-- A step inside a turn: it concerns the site of the visit, and keeps it halfway to where the
    ledger already is. -/
theorem carryOn (h : load.Serial g w) (horderly : load.Orderly w') {p : Phase}
    (hinside : (w.phase t).Inside) (hphase : w'.phase = Function.update w.phase t p)
    (hp : p.Inside) (hholder : w'.holder = w.holder) (hqueued : w'.queued = w.queued)
    (hacquired : w'.acquired = w.acquired)
    (hothers : ∀ s, s ≠ load.site t →
      w'.registry.entries.find? s = w.registry.entries.find? s ∧ w'.sent s = w.sent s)
    (hhalfway : ∀ b, load.Halfway b w (load.site t) t → load.Halfway b w' (load.site t) t) :
    load.Serial g w' := by
  have hheld : w.holder (load.site t) = some t := (h.orderly.holds t).mp hinside
  have hbefore := (h.inStep (load.site t)).halfway hheld
  have hafter := hhalfway _ hbefore
  have hover : ∀ result, p ≠ .done result := by
    rintro result rfl
    exact hp
  have hfound : p ≠ .found := by
    rintro rfl
    exact hp
  refine { orderly := horderly, sites := ?_, admitted := h.admitted_of_update hphase hqueued hfound,
           inStep := ?_, answered := ?_ }
  -- The site of the visit has an entry before and after the step, and no other site is touched.
  · intro s
    by_cases hs : s = load.site t
    · obtain ⟨e, _, _, _, _, hentry, _⟩ := hbefore
      obtain ⟨e', _, _, _, _, hentry', _⟩ := hafter
      rw [hs, ← h.sites, hentry, hentry']
      rfl
    · rw [(hothers s hs).1]
      exact h.sites s
  · intro s
    rw [hacquired]
    by_cases hs : s = load.site t
    · rw [hs]
      exact inStep_of_held (by rw [hholder, hheld]) hafter
    · refine (h.inStep s).frame (by rw [hholder]) (hothers s hs).1 (hothers s hs).2 ?_ rfl rfl
        fun _ _ => rfl
      intro u hheld
      rw [hphase, Function.update_of_ne (h.orderly.ne_of_site hs hheld)]
  · rw [hacquired]
    exact h.answered_of_update hphase hover fun _ _ => rfl

/-- The entry of a site that is halfway is the present one. -/
theorem access (h : load.Serial g w) {write : Entry → Entry} {next : Entry → Turn}
    {sent : List Message} {e : Entry} (hphase : w.phase t = .inside (.access write next) sent)
    (hfound : w.registry.entries.find? (load.site t) = some e) :
    load.Serial g (load.access w t (write e) (next e) sent) := by
  refine h.carryOn (h.orderly.moves (.access hphase hfound)) (by rw [hphase]; trivial) rfl trivial
    rfl rfl rfl (fun s hs => ⟨SiteMap.find?_insert_of_ne hs _ _, rfl⟩) ?_
  -- What the turn comes to from here on does not change by taking its first step.
  rintro b ⟨f, result, e', all, before, hf, hfinish, hentry, hanswer, hsent, hall⟩
  rw [hfound, Option.some.injEq] at hf
  subst hf
  rw [hphase] at hfinish hsent
  refine ⟨write e, result, e', all, before, SiteMap.find?_insert_self _ _ _, ?_, hentry, hanswer,
    ?_, hall⟩
  · simp only [Workload.access, Function.update_self]
    exact hfinish
  · simp only [Workload.access, Function.update_self]
    exact hsent

theorem send (h : load.Serial g w) {m : Message} {next : m.Reply → Turn} {sent : List Message}
    (hphase : w.phase t = .inside (.send m next) sent) :
    load.Serial g (load.send w t m next sent) := by
  refine h.carryOn (h.orderly.moves (.send hphase)) (by rw [hphase]; trivial) rfl trivial
    rfl rfl rfl (fun s hs => ⟨rfl, Function.update_of_ne hs _ _⟩) ?_
  rintro b ⟨e, result, e', all, before, hfound, hfinish, hentry, hanswer, hsent, hall⟩
  rw [hphase] at hfinish hsent
  refine ⟨e, result, e', all, before, hfound, ?_, hentry, hanswer, ?_, hall⟩
  · simp only [Workload.send, Function.update_self]
    exact hfinish
  · simp only [Workload.send, Function.update_self, hsent, Phase.sent, List.append_assoc]

theorem receive (h : load.Serial g w) {m : Message} {next : m.Reply → Turn}
    {sent : List Message} (hphase : w.phase t = .waiting m next sent) :
    load.Serial g (load.receive w t m next sent) := by
  refine h.carryOn (h.orderly.moves (.receive hphase)) (by rw [hphase]; trivial) rfl trivial
    rfl rfl rfl (fun s hs => ⟨rfl, rfl⟩) ?_
  rintro b ⟨e, result, e', all, before, hfound, hfinish, hentry, hanswer, hsent, hall⟩
  rw [hphase] at hfinish hsent
  refine ⟨e, result, e', all, before, hfound, ?_, hentry, hanswer, ?_, hall⟩
  · simp only [Workload.receive, Function.update_self]
    exact hfinish
  · simp only [Workload.receive, Function.update_self]
    exact hsent

/-- A visit that leaves has nothing more to do, so its site agrees with the ledger. -/
theorem release (h : load.Serial g w) {result : Visit.Result} {sent : List Message}
    (hphase : w.phase t = .inside (.leave result) sent) :
    load.Serial g (load.release w t result) := by
  have hinside : (w.phase t).Inside := by
    rw [hphase]
    trivial
  have hheld : w.holder (load.site t) = some t := (h.orderly.holds t).mp hinside
  obtain ⟨e, result', e', all, before, hfound, hfinish, hentry, hanswer, hsent, hall⟩ :=
    (h.inStep (load.site t)).halfway hheld
  rw [hphase] at hfinish hsent
  simp only [Phase.finish, Turn.run, Option.some.injEq, Prod.mk.injEq] at hfinish
  obtain ⟨rfl, rfl, rfl⟩ := hfinish
  refine { orderly := h.orderly.release hinside, sites := h.sites,
           admitted := h.admitted_of_update rfl rfl (by simp), inStep := ?_, answered := ?_ }
  · intro s
    by_cases hs : s = load.site t
    · rw [hs]
      exact inStep_of_free (Function.update_self _ _ _) (hfound.trans hentry.symm)
        (hsent.trans hall.symm)
    · refine (h.inStep s).frame (Function.update_of_ne hs _ _) rfl rfl ?_ rfl rfl fun _ _ => rfl
      intro u hheld
      exact Function.update_of_ne (h.orderly.ne_of_site hs hheld) _ _
  · intro u answer hdone
    by_cases hut : u = t
    · subst hut
      simp only [Workload.release, Function.update_self, Phase.done.injEq] at hdone
      rw [← hdone]
      exact Or.inr hanswer
    · simp only [Workload.release, Function.update_of_ne hut] at hdone
      exact h.answered u answer hdone

/-- Every step keeps the world in step with its ledger. -/
theorem moves (h : load.Serial g w) (hmoves : load.Moves w t w') : load.Serial g w' := by
  cases hmoves with
  | lookUp hphase => exact h.lookUp hphase
  | queueUp hphase => exact h.queueUp hphase
  | acquire hphase hfree hqueue => exact h.acquire hphase hfree hqueue
  | access hphase hfound => exact h.access hphase hfound
  | send hphase => exact h.send hphase
  | receive hphase => exact h.receive hphase
  | release hphase => exact h.release hphase

/-! ## Section 4: A run -/

theorem run (h : load.Serial g w) {schedule : List ι} (hrun : load.run w schedule = some w') :
    load.Serial g w' := by
  -- On the schedule, with `Serial.moves` for each of its steps.
  induction schedule generalizing w with
  | nil =>
    cases hrun
    exact h
  | cons t rest ih =>
    obtain ⟨v, hstep, hrest⟩ := Option.bind_eq_some_iff.mp hrun
    exact ih (h.moves (moves_of_step hstep)) hrest

/-! ## Section 5: Nobody is stuck -/

/-- A visit that is inside can take its next step. -/
theorem exists_step_of_inside (h : load.Serial g w) (hinside : (w.phase t).Inside) :
    ∃ w', load.step w t = some w' := by
  cases hphase : w.phase t with
  | inside rest sent =>
    cases rest with
    | access write next =>
      obtain ⟨e, _, _, _, _, hfound, _⟩ :=
        (h.inStep (load.site t)).halfway ((h.orderly.holds t).mp hinside)
      simp only [step, hphase, hfound]
      exact ⟨_, rfl⟩
    | send m next =>
      simp only [step, hphase]
      exact ⟨_, rfl⟩
    | leave result =>
      simp only [step, hphase]
      exact ⟨_, rfl⟩
  | waiting m next sent =>
    simp only [step, hphase]
    exact ⟨_, rfl⟩
  | _ =>
    rw [hphase] at hinside
    exact absurd hinside id

/-- **No deadlock**: while a visit is not over, some visit can take a step. -/
theorem exists_step (h : load.Serial g w) (hopen : ¬ (w.phase t).Over) :
    ∃ u w', load.step w u = some w' := by
  cases hphase : w.phase t with
  | outside | done result =>
    rw [hphase] at hopen
    exact absurd trivial hopen
  | found =>
    refine ⟨t, load.queueUp w t, ?_⟩
    simp only [step, hphase]
  | inside rest sent =>
    exact ⟨t, h.exists_step_of_inside (by rw [hphase]; trivial)⟩
  | waiting m next sent =>
    exact ⟨t, h.exists_step_of_inside (by rw [hphase]; trivial)⟩
  | queued =>
    -- Either the holder of the lock goes on, or the first in the queue acquires it.
    cases hheld : w.holder (load.site t) with
    | some u =>
      have hsite := h.orderly.own _ u hheld
      exact ⟨u, h.exists_step_of_inside ((h.orderly.holds u).mpr (by rw [hsite, hheld]))⟩
    | none =>
      have hmem : t ∈ w.queue (load.site t) := (h.orderly.inLine _ t).mpr ⟨rfl, hphase⟩
      obtain ⟨u, rest, hqueue⟩ := List.exists_cons_of_ne_nil (List.ne_nil_of_mem hmem)
      have hu : u ∈ w.queue (load.site t) := by
        rw [hqueue]
        exact List.mem_cons_self
      obtain ⟨hsite, hwaits⟩ := (h.orderly.inLine _ u).mp hu
      refine ⟨u, load.acquire w u, ?_⟩
      simp only [step, hwaits, hsite, hheld, hqueue, List.head?_cons, and_self, if_true]

end Serial

end Workload

end ChassisRegistry
