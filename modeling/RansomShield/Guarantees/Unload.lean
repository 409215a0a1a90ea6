import RansomShield.Pool.Unload

/-!
# What is left in the pool after unloading

`RsUnloadCallback` empties the table of contexts before it calls `FltUnregisterFilter`, which is
the call that waits for the callbacks.  A callback between its two locked sections, or one that
begins in between, inserts its context into the emptied table, where nobody looks for it any more
(`Pool.Leaks`, `Pool.unload_leaks`).  When `RsUnloadCallback` has returned, every context was freed
exactly once if no context leaks, and only then (`Pool.unload_frees_iff`).  The invariant speaks of
a run so far and the state that it leads to (`Pool.UnloadInvariant`).
-/

namespace RansomShield

namespace Pool

/-- The second locked section of the call inserts its context into a table that
`RsDestroyContextTracking` has emptied. -/
def UnloadState.InsertsLate (s : UnloadState) (c : CallId) : Prop :=
  s.phase = .contextsDestroyed ∧ (s.pool.rsLookupProcessContext c.processId).2 = none

/-- A call for the process inserts its context late, and no later request removes it. -/
def Leaks (as : List UnloadAction) (p : UInt32) : Prop :=
  ∃ bs c cs s, as = bs ++ .deliver (.advance c .secondSection) :: cs ∧
    unload.run UnloadState.init bs = some s ∧ s.InsertsLate c ∧ c.processId = p ∧
    .deliver (.removeProcessContext p) ∉ cs

variable {s s' : UnloadState} {as : List UnloadAction} {a : UnloadAction} {c : CallId}
  {p : UInt32}

/-- The last action of a run removes a leaking context or adds one. -/
theorem leaks_concat (hrun : unload.run UnloadState.init as = some s) :
    Leaks (as ++ [a]) p ↔ (Leaks as p ∧ a ≠ .deliver (.removeProcessContext p)) ∨
      ∃ c, a = .deliver (.advance c .secondSection) ∧ s.InsertsLate c ∧ c.processId = p := by
  constructor
  · rintro ⟨bs, c, cs, t, heq, ht, hlate, hp, hcs⟩
    rcases List.eq_nil_or_concat cs with rfl | ⟨cs, a', rfl⟩
    · -- the insertion is the last action
      obtain ⟨rfl, rfl⟩ := List.append_singleton_inj.1 heq
      cases hrun.symm.trans ht
      exact .inr ⟨c, rfl, hlate, hp⟩
    · rw [List.concat_eq_append, ← List.cons_append, ← List.append_assoc] at heq
      obtain ⟨rfl, rfl⟩ := List.append_singleton_inj.1 heq
      simp only [List.concat_eq_append, List.mem_append, List.mem_singleton, not_or] at hcs
      exact .inl ⟨⟨bs, c, cs, t, rfl, ht, hlate, hp, hcs.1⟩, fun h => hcs.2 h.symm⟩
  · rintro (⟨⟨bs, c, cs, t, rfl, ht, hlate, hp, hcs⟩, ha⟩ | ⟨c, rfl, hlate, hp⟩)
    · refine ⟨bs, c, cs ++ [a], t, by simp, ht, hlate, hp, ?_⟩
      simp only [List.mem_append, List.mem_singleton, not_or]
      exact ⟨hcs, fun h => ha h.symm⟩
    · exact ⟨as, c, [], s, rfl, hrun, hlate, hp, List.not_mem_nil⟩

/-- The steps of the teardown and the returns of callbacks insert and remove nothing. -/
theorem leaks_concat_of_forall_ne (hrun : unload.run UnloadState.init as = some s)
    (ha : ∀ a', a ≠ .deliver a') : Leaks (as ++ [a]) p ↔ Leaks as p := by
  rw [leaks_concat hrun]
  exact ⟨fun h => h.elim And.left fun ⟨c, hc, _⟩ => absurd hc (ha _), fun h => .inl ⟨h, ha _⟩⟩

/-- The table has been emptied. -/
def UnloadState.Emptied (s : UnloadState) : Prop :=
  s.phase = .contextsDestroyed ∨ s.phase = .returned

/-- After some actions: the filter manager waits for every call in flight, the filter is registered
until `RsUnloadCallback` returns, and what has leaked is what is in the table since it was
emptied. -/
structure UnloadInvariant (as : List UnloadAction) (s : UnloadState) : Prop where
  pool : Invariant s.pool
  waits : ∀ c, s.pool.InFlight c → c ∈ s.outstanding
  registered : s.phase ≠ .returned → s.filterHandle = true
  unregistered : s.phase = .returned → s.filterHandle = false ∧ s.outstanding = []
  leaks : ∀ p, Leaks as p ↔ s.Emptied ∧ p ∈ s.pool.tracked

theorem unloadInvariant_init : UnloadInvariant [] UnloadState.init where
  pool := invariant_init
  waits c h := by
    obtain ⟨call, hcall, -⟩ := h
    cases hcall
  registered _ := rfl
  unregistered h := by cases h
  leaks p := by
    constructor
    · rintro ⟨bs, c, cs, t, heq, -⟩
      exact absurd heq.symm (by simp)
    · rintro ⟨h | h, -⟩ <;> cases h

namespace UnloadInvariant

theorem deliver (h : UnloadInvariant as s) (hrun : unload.run UnloadState.init as = some s)
    {a : Action} (hstep : s.deliver a = some s') : UnloadInvariant (as ++ [.deliver a]) s' := by
  simp only [UnloadState.deliver, Option.ite_none_right_eq_some, Option.map_eq_some_iff] at hstep
  obtain ⟨⟨hhandle, hcaller⟩, pool, hpool, rfl⟩ := hstep
  have hphase : s.phase ≠ .returned := fun hreturned => by
    rw [(h.unregistered hreturned).1] at hhandle
    cases hhandle
  refine ⟨h.pool.step hpool, ?_, h.registered, fun hreturned => absurd hreturned hphase, ?_⟩
  · intro c hc
    rcases inFlight_of_step h.pool hpool hc with hc | hc
    · exact List.mem_append_right _ (h.waits c hc)
    · exact List.mem_append_left _ (Option.mem_toList.2 hc)
  · intro p
    have hlate (c : CallId) : s.InsertsLate c ↔
        s.phase = .contextsDestroyed ∧ c.processId ∉ s.pool.tracked := by
      obtain ⟨owner, hs⟩ := h.pool.sound
      rw [UnloadState.InsertsLate, State.rsLookupProcessContext_eq_none hs]
    have hemptied : s.Emptied ↔ s.phase = .contextsDestroyed := or_iff_left hphase
    have hsame : UnloadState.Emptied { s with pool := pool, outstanding :=
      a.entering.toList ++ s.outstanding } ↔ s.phase = .contextsDestroyed := hemptied
    rw [leaks_concat hrun, h.leaks p, hemptied, hsame, h.pool.tracked_step hpool]
    simp only [hlate]
    cases a with
    | advance c step =>
      cases step with
      | secondSection => grind [Action.track]
      | _ => simp [Action.track]
    | removeProcessContext q => grind [Action.track]
    | destroyContextTracking => cases hcaller
    | _ => simp [Action.track]

theorem leave (h : UnloadInvariant as s) (hrun : unload.run UnloadState.init as = some s)
    (hstep : s.leave c = some s') : UnloadInvariant (as ++ [.leave c]) s' := by
  unfold UnloadState.leave at hstep
  cases hcall : s.pool.calls c with
  | none =>
    rw [hcall] at hstep
    cases hstep
  | some call =>
    simp only [hcall, Option.ite_none_left_eq_some, Option.some.injEq] at hstep
    obtain ⟨hdecided, rfl⟩ := hstep
    refine ⟨h.pool, ?_, h.registered, ?_, ?_⟩
    · intro c' hc'
      have hne : c' ≠ c := by
        rintro rfl
        obtain ⟨call', hcall', hflight⟩ := hc'
        cases hcall.symm.trans hcall'
        exact hdecided hflight
      exact (List.mem_erase_of_ne hne).2 (h.waits c' hc')
    · intro hreturned
      obtain ⟨hhandle, hnil⟩ := h.unregistered hreturned
      exact ⟨hhandle, by rw [hnil]; rfl⟩
    · intro p
      rw [leaks_concat_of_forall_ne hrun fun _ => UnloadAction.noConfusion]
      exact h.leaks p

/-- **Every step keeps the invariant.** -/
theorem step (h : UnloadInvariant as s) (hrun : unload.run UnloadState.init as = some s)
    (hstep : unload.step s a = some s') : UnloadInvariant (as ++ [a]) s' := by
  have hleaks (hteardown : ∀ a', a ≠ .deliver a') (p : UInt32) :
      Leaks (as ++ [a]) p ↔ s.Emptied ∧ p ∈ s.pool.tracked :=
    (leaks_concat_of_forall_ne hrun hteardown).trans (h.leaks p)
  cases a with
  | deliver a => exact h.deliver hrun hstep
  | leave c => exact h.leave hrun hstep
  | destroyCommPort =>
    simp only [unload, Option.ite_none_right_eq_some, Option.some.injEq] at hstep
    obtain ⟨hphase, rfl⟩ := hstep
    refine ⟨h.pool, h.waits, fun _ => h.registered (by simp [hphase]), fun hreturned => ?_, ?_⟩
    · cases hreturned
    · intro p
      rw [hleaks fun _ => UnloadAction.noConfusion]
      simp [UnloadState.Emptied, hphase]
  | destroyContextTracking =>
    simp only [unload, Option.ite_none_right_eq_some, Option.some.injEq] at hstep
    obtain ⟨hphase, rfl⟩ := hstep
    have hpool : machine.step s.pool .destroyContextTracking =
        some s.pool.rsDestroyContextTracking := rfl
    refine ⟨h.pool.step hpool, ?_, fun _ => h.registered (by simp [hphase]), ?_, ?_⟩
    · intro c hc
      exact (inFlight_of_step h.pool hpool hc).elim (h.waits c) fun hc => by cases hc
    · intro hreturned
      cases hreturned
    · intro p
      rw [hleaks fun _ => UnloadAction.noConfusion, h.pool.tracked_step hpool]
      simp [UnloadState.Emptied, hphase, Action.track]
  | unregisterFilter =>
    simp only [unload, Option.ite_none_right_eq_some] at hstep
    obtain ⟨hphase, hstep⟩ := hstep
    have hhandle := h.registered (by simp [hphase])
    simp only [UnloadState.unregisterFilter, hhandle, if_true, Option.ite_none_right_eq_some,
      Option.some.injEq] at hstep
    obtain ⟨hnil, rfl⟩ := hstep
    refine ⟨h.pool, h.waits, fun hreturned => absurd rfl hreturned, fun _ => ⟨rfl, hnil⟩, ?_⟩
    intro p
    rw [hleaks fun _ => UnloadAction.noConfusion]
    simp [UnloadState.Emptied, hphase]

/-- When `RsUnloadCallback` has returned, no call holds a context. -/
theorem holds_eq_none (h : UnloadInvariant as s) (hreturned : s.phase = .returned) (c : CallId) :
    s.pool.holds c = none := by
  refine Option.eq_none_iff_forall_ne_some.2 ?_
  intro b hb
  have hmem := h.waits c (State.InFlight.of_holds hb)
  rw [(h.unregistered hreturned).2] at hmem
  exact List.not_mem_nil hmem

/-- When `RsUnloadCallback` has returned, what was not freed is in the table. -/
theorem freed_iff (h : UnloadInvariant as s) (hreturned : s.phase = .returned) :
    (∀ b < s.pool.allocated, s.pool.freed.count b = 1) ↔ s.pool.linked = [] := by
  obtain ⟨owner, hs⟩ := h.pool.sound
  constructor
  · intro hfreed
    refine List.eq_nil_iff_forall_not_mem.2 ?_
    intro b hb
    have hlt := hs.accounts.lt_of_mem (Set.mem_ofPred.2 hb)
    rcases hs.accounts.exactly_one hlt with ⟨-, -, hzero⟩ | ⟨hnot, -⟩ | ⟨hnot, -⟩
    · rw [hfreed b hlt] at hzero
      cases hzero
    · exact hnot (Set.mem_ofPred.2 hb)
    · exact hnot (Set.mem_ofPred.2 hb)
  · intro hlinked b hb
    rcases hs.accounts.exactly_one hb with ⟨hmem, -⟩ | ⟨-, ⟨c, hc, -⟩, -⟩ | ⟨-, -, hone⟩
    · rw [Set.mem_ofPred, hlinked] at hmem
      exact absurd hmem List.not_mem_nil
    · rw [h.holds_eq_none hreturned c] at hc
      cases hc
    · exact hone

end UnloadInvariant

theorem unloadInvariant_of_run (hrun : unload.run UnloadState.init as = some s) :
    UnloadInvariant as s :=
  Machine.run_induction hrun unloadInvariant_init fun _ _ _ _ _ hs h hstep => h.step hs hstep

/-- **Unloading.**  When `RsUnloadCallback` has returned, every context ever allocated was freed
exactly once, if and only if no call inserts a context after `RsDestroyContextTracking` that no
later request removes. -/
theorem unload_frees_iff (hrun : unload.run UnloadState.init as = some s)
    (hreturned : s.phase = .returned) :
    (∀ b < s.pool.allocated, s.pool.freed.count b = 1) ↔ ∀ p, ¬ Leaks as p := by
  have h := unloadInvariant_of_run hrun
  have hemptied : s.Emptied := .inr hreturned
  rw [h.freed_iff hreturned, ← State.tracked_eq_empty, Set.eq_empty_iff_forall_notMem]
  simp only [h.leaks, hemptied, true_and]

/-- A callback of process 8 allocates its context before the teardown and inserts it afterwards;
then requests are handled, and `RsUnloadCallback` returns. -/
def lateInsertion (requests : List Action) : List UnloadAction :=
  let c : CallId := ⟨8, 0⟩
  [.deliver (.enter c none (.ofTicks 0)), .deliver (.advance c .firstSection),
    .deliver (.advance c (.allocate true)), .destroyCommPort, .destroyContextTracking,
    .deliver (.advance c .secondSection)] ++ requests.map .deliver ++ [.leave c, .unregisterFilter]

/-- A request to unblock the process comes in time. -/
theorem unload_frees_iff_removed : ∃ s,
    unload.run UnloadState.init (lateInsertion [.removeProcessContext 8]) = some s ∧
    s.phase = .returned ∧ s.pool.allocated = 1 ∧
    ∀ p, ¬ Leaks (lateInsertion [.removeProcessContext 8]) p := by
  obtain ⟨s, hs, hcheck⟩ := unload.exists_of_any
    (fun s => decide (s.phase = .returned ∧ s.pool.allocated = 1 ∧ s.pool.freed = [0]))
    UnloadState.init (lateInsertion [.removeProcessContext 8]) (by decide +kernel)
  obtain ⟨hreturned, hallocated, hfreed⟩ := of_decide_eq_true hcheck
  refine ⟨s, hs, hreturned, hallocated, (unload_frees_iff hs hreturned).1 ?_⟩
  rw [hallocated, hfreed]
  decide

/-- Otherwise the context stays in the pool. -/
theorem unload_leaks : ¬ ∀ as s, unload.run UnloadState.init as = some s → s.phase = .returned →
    ∀ b < s.pool.allocated, s.pool.freed.count b = 1 := by
  intro h
  obtain ⟨s, hs, hcheck⟩ := unload.exists_of_any
    (fun s => decide (s.phase = .returned ∧ s.pool.allocated = 1 ∧ s.pool.freed = []))
    UnloadState.init (lateInsertion []) (by decide +kernel)
  obtain ⟨hreturned, hallocated, hfreed⟩ := of_decide_eq_true hcheck
  have hone := h _ s hs hreturned 0 (by omega)
  rw [hfreed] at hone
  cases hone

end Pool

end RansomShield
