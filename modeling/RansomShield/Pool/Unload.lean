import RansomShield.Pool.Invariant

/-!
# Unloading the driver

`RsUnloadCallback` of `kernel/RansomShield.c` tears the driver down while the filter manager may
still deliver pre-operation callbacks (`Pool.unload`): only `FltUnregisterFilter` stops them, and it
returns when no callback is outstanding.  Clients may send messages as long: `RsDestroyCommPort`
closes the port of the client it knows, and other connections survive it.

The second half looks at the table as the set of the processes that have a context
(`Pool.State.tracked`).  Every step does to the set what its action says
(`Pool.Invariant.tracked_step`), and only `RsRecordOperation` puts calls in flight
(`Pool.inFlight_of_step`).
-/

namespace RansomShield

namespace Pool

open State (Sound InPlace)

/-! ### The machine -/

/-- The call is still in `RsRecordOperation`. -/
def CallPhase.InFlight : CallPhase → Prop
  | .decided _ => False
  | _ => True

instance : DecidablePred CallPhase.InFlight
  | .decided _ => isFalse id
  | .entered => isTrue trivial
  | .allocating => isTrue trivial
  | .allocated _ => isTrue trivial

/-- Where the call of `RsUnloadCallback` is. -/
inductive UnloadPhase
  /-- The driver is loaded, and the call has not begun. -/
  | loaded
  /-- `RsDestroyCommPort` has returned. -/
  | portDestroyed
  /-- `RsDestroyContextTracking` has returned. -/
  | contextsDestroyed
  /-- The call has returned. -/
  | returned
  deriving DecidableEq

/-- The pool of contexts while the driver is unloaded. -/
structure UnloadState where
  pool : State
  /-- The callbacks that the filter manager waits for. -/
  outstanding : List CallId
  /-- `g_FilterHandle` is not `NULL`: the filter is registered. -/
  filterHandle : Bool
  phase : UnloadPhase

/-- The state after `DriverEntry`. -/
def UnloadState.init : UnloadState where
  pool := State.init
  outstanding := []
  filterHandle := true
  phase := .loaded

/-- The call that begins with an action. -/
def Action.entering : Action → Option CallId
  | .enter c _ _ => some c
  | _ => none

/-- `RsDestroyContextTracking` is called by `RsUnloadCallback` alone. -/
def Action.ofFilterManager : Action → Bool
  | .destroyContextTracking => false
  | _ => true

inductive UnloadAction
  /-- A step of a callback, or of a message from a client. -/
  | deliver (a : Action)
  /-- A callback returns to the filter manager. -/
  | leave (c : CallId)
  | destroyCommPort
  | destroyContextTracking
  | unregisterFilter

namespace UnloadState

/-- A step of code that the filter manager calls. -/
def deliver (s : UnloadState) (a : Action) : Option UnloadState :=
  if s.filterHandle = true ∧ a.ofFilterManager = true then
    (machine.step s.pool a).map fun pool =>
      { s with pool := pool, outstanding := a.entering.toList ++ s.outstanding }
  else none

/-- The return of a callback. -/
def leave (s : UnloadState) (c : CallId) : Option UnloadState :=
  match s.pool.calls c with
  | some call =>
    if call.phase.InFlight then none else some { s with outstanding := s.outstanding.erase c }
  | none => none

/-- `FltUnregisterFilter`, if there is a filter, waits for the outstanding callbacks. -/
def unregisterFilter (s : UnloadState) : Option UnloadState :=
  if s.filterHandle = true then
    if s.outstanding = [] then some { s with filterHandle := false, phase := .returned } else none
  else some { s with phase := .returned }

end UnloadState

/-- `RsUnloadCallback` between the callbacks and messages. -/
def unload : Machine UnloadState UnloadAction where
  step s
    | .deliver a => s.deliver a
    | .leave c => s.leave c
    | .destroyCommPort =>
      if s.phase = .loaded then some { s with phase := .portDestroyed } else none
    | .destroyContextTracking =>
      if s.phase = .portDestroyed then
        some { s with pool := s.pool.rsDestroyContextTracking, phase := .contextsDestroyed }
      else none
    | .unregisterFilter => if s.phase = .contextsDestroyed then s.unregisterFilter else none

variable {s s' : State} {owner : ℕ → Heap.Owner CallId} {holds : CallId → Option ℕ} {c : CallId}
  {call : Call} {b : ℕ} {p q : UInt32} {a : Action}

/-! ### The tracked processes -/

/-- The processes with a context. -/
def State.tracked (s : State) : Set UInt32 := {p | ∃ b ∈ s.linked, s.key b = p}

/-- What an action does to the set of the tracked processes. -/
def Action.track : Action → Set UInt32 → Set UInt32
  | .advance c .secondSection, T => insert c.processId T
  | .removeProcessContext p, T => T \ {p}
  | .destroyContextTracking, _ => ∅
  | _, T => T

namespace State

theorem tracked_eq_empty : s.tracked = ∅ ↔ s.linked = [] := by
  rw [Set.eq_empty_iff_forall_notMem, List.eq_nil_iff_forall_not_mem]
  exact ⟨fun h b hb => h (s.key b) ⟨b, hb, rfl⟩, fun h p hp => h _ hp.choose_spec.1⟩

theorem InPlace.tracked (h : InPlace s s') : s'.tracked = s.tracked := by
  rw [State.tracked, h.linked, h.key, State.tracked]

/-- **The lookup** tells the tracked processes from the others. -/
theorem lookup_eq_none (hs : Sound owner holds s) :
    Chained.lookup s.key rsHashProcessId s.contextHashTable p = none ↔ p ∉ s.tracked := by
  constructor
  · rintro hlookup ⟨b, hb, rfl⟩
    rw [hs.valid.lookup_of_mem hb] at hlookup
    cases hlookup
  · intro hp
    refine Option.eq_none_iff_forall_ne_some.2 ?_
    intro b hb
    exact hp ⟨b, mem_linked_of_lookup hb, Chained.key_of_lookup hb⟩

theorem tracked_of_lookup
    (h : Chained.lookup s.key rsHashProcessId s.contextHashTable p = some b) : p ∈ s.tracked :=
  ⟨b, mem_linked_of_lookup h, Chained.key_of_lookup h⟩

theorem rsLookupProcessContext_eq_none (hs : Sound owner holds s) :
    (s.rsLookupProcessContext p).2 = none ↔ p ∉ s.tracked := by
  obtain ⟨visited, -, heq⟩ := rsLookupProcessContext_eq s p
  rw [heq]
  exact lookup_eq_none hs

theorem tracked_create (hs : Sound owner holds s) (image : Option UnicodeString) :
    (s.rsCreateProcessContext p image).1.tracked = s.tracked := by
  ext q
  have hkey (b : ℕ) (hb : b ∈ s.linked) : (s.rsCreateProcessContext p image).1.key b = s.key b := by
    have hne : b ≠ s.allocated := (hs.accounts.lt_of_mem (Set.mem_ofPred.2 hb)).ne
    simp [key, State.rsCreateProcessContext, hne]
  constructor
  · rintro ⟨b, hb, rfl⟩
    exact ⟨b, hb, (hkey b hb).symm⟩
  · rintro ⟨b, hb, rfl⟩
    exact ⟨b, hb, hkey b hb⟩

theorem tracked_insertHeadList :
    (s.insertHeadList (rsHashProcessId (s.key b)) b).tracked = insert (s.key b) s.tracked := by
  ext q
  rw [Set.mem_insert_iff]
  constructor
  · rintro ⟨b', hb', rfl⟩
    rcases mem_linked_insertHeadList.1 hb' with rfl | hb'
    · exact .inl rfl
    · exact .inr ⟨b', hb', rfl⟩
  · rintro (rfl | ⟨b', hb', rfl⟩)
    · exact ⟨b, mem_linked_insertHeadList.2 (.inl rfl), rfl⟩
    · exact ⟨b', mem_linked_insertHeadList.2 (.inr hb'), rfl⟩

/-- **After the second locked section** the process of the call is tracked. -/
theorem tracked_recordSecondSection (t : Int64) :
    (s.recordSecondSection b (s.key b) t).1.tracked = insert (s.key b) s.tracked := by
  obtain ⟨visited, hvisited, heq⟩ := rsLookupProcessContext_eq s (s.key b)
  cases hlookup : Chained.lookup s.key rsHashProcessId s.contextHashTable (s.key b) with
  | some context =>
    simp only [State.recordSecondSection, heq, hlookup]
    have hmem : context ∈ ((s.touch visited).exFreePoolWithTag b).linked :=
      mem_linked_of_lookup hlookup
    rw [(InPlace.recordInContext hmem t).tracked]
    exact (Set.insert_eq_of_mem (tracked_of_lookup hlookup)).symm
  | none =>
    simp only [State.recordSecondSection, heq, hlookup]
    have hmem : b ∈ ((s.touch visited).insertHeadList (rsHashProcessId (s.key b)) b).linked :=
      mem_linked_insertHeadList.2 (.inl rfl)
    rw [(InPlace.recordAndEvaluate hmem t).tracked]
    exact tracked_insertHeadList

theorem tracked_release (hs : Sound owner holds s) (hb : b ∈ s.linked) :
    (s.release b).tracked = s.tracked \ {s.key b} := by
  ext q
  rw [Set.mem_sdiff, Set.mem_singleton_iff]
  constructor
  · rintro ⟨b', hb', rfl⟩
    obtain ⟨hb', hne⟩ := hs.mem_linked_release.1 hb'
    refine ⟨⟨b', hb', rfl⟩, fun hkey => hne ?_⟩
    have hfound := hs.valid.lookup_of_mem hb'
    have hkey' : s.key b' = s.key b := hkey
    rw [hkey', hs.valid.lookup_of_mem hb] at hfound
    exact (Option.some.inj hfound).symm
  · rintro ⟨⟨b', hb', rfl⟩, hne⟩
    exact ⟨b', hs.mem_linked_release.2 ⟨hb', fun heq => hne (heq ▸ rfl)⟩, rfl⟩

/-- **Removal** takes the process out of the table. -/
theorem tracked_rsRemoveProcessContext (hs : Sound owner holds s) :
    (s.rsRemoveProcessContext p).tracked = s.tracked \ {p} := by
  obtain ⟨visited, hvisited, heq⟩ := rsLookupProcessContext_eq s p
  cases hlookup : Chained.lookup s.key rsHashProcessId s.contextHashTable p with
  | some context =>
    simp only [State.rsRemoveProcessContext, heq, hlookup]
    have hrelease := tracked_release hs (mem_linked_of_lookup hlookup)
    rw [Chained.key_of_lookup hlookup] at hrelease
    exact hrelease
  | none =>
    simp only [State.rsRemoveProcessContext, heq, hlookup]
    exact (Set.sdiff_singleton_eq_self ((lookup_eq_none hs).1 hlookup)).symm

end State

theorem Invariant.tracked_callStep (h : Invariant s) (hcall : s.calls c = some call)
    {step : CallStep} (hstep : Pool.callStep s c call step = some s') :
    s'.tracked = (Action.advance c step).track s.tracked := by
  obtain ⟨owner, hs⟩ := h.sound
  unfold Pool.callStep at hstep
  split at hstep
  · cases hstep
    exact (InPlace.recordFirstSection s _ _).tracked
  · cases hstep
    exact State.tracked_create hs _
  · cases hstep
    rfl
  · next newContext hphase =>
    cases hstep
    rw [Action.track, ← h.key_of_allocated hcall hphase]
    exact State.tracked_recordSecondSection _
  · cases hstep

/-- **The tracked processes after a step.** -/
theorem Invariant.tracked_step (h : Invariant s) (hstep : machine.step s a = some s') :
    s'.tracked = a.track s.tracked := by
  obtain ⟨owner, hs⟩ := h.sound
  cases a with
  | enter c processImageName currentTime =>
    simp only [machine, Option.ite_none_right_eq_some, Option.some.injEq] at hstep
    obtain ⟨-, rfl⟩ := hstep
    rfl
  | advance c step =>
    obtain ⟨call, hcall, hstep⟩ := Option.bind_eq_some_iff.1 hstep
    exact h.tracked_callStep hcall hstep
  | removeProcessContext processId =>
    cases hstep
    exact State.tracked_rsRemoveProcessContext hs
  | getBlockedPids maxEntries =>
    obtain rfl : (s.rsGetBlockedPids maxEntries).1 = s' := Option.some.inj hstep
    exact (InPlace.rsGetBlockedPids s maxEntries).tracked
  | getPidCounts =>
    obtain rfl : s.rsGetPidCounts.1 = s' := Option.some.inj hstep
    exact (InPlace.rsGetPidCounts s).tracked
  | destroyContextTracking =>
    obtain rfl : s.rsDestroyContextTracking = s' := Option.some.inj hstep
    exact State.tracked_eq_empty.2 (linked_rsDestroyContextTracking hs)
  | applyConfig threshold seconds monitoring =>
    cases hstep
    rfl
  | setMonitoring value =>
    cases hstep
    rfl

/-! ### The calls in flight -/

/-- A call is still in `RsRecordOperation`. -/
def State.InFlight (s : State) (c : CallId) : Prop :=
  ∃ call, s.calls c = some call ∧ call.phase.InFlight

theorem State.InFlight.of_holds (h : s.holds c = some b) : s.InFlight c := by
  obtain ⟨call, hcall, hb⟩ := Option.bind_eq_some_iff.1 h
  refine ⟨call, hcall, ?_⟩
  cases hphase : call.phase with
  | decided result =>
    rw [hphase] at hb
    cases hb
  | _ => trivial

theorem callStep_calls (h : Invariant s) (hcall : s.calls c = some call) {step : CallStep}
    (hstep : callStep s c call step = some s') :
    call.phase.InFlight ∧ ∀ c' ≠ c, s'.calls c' = s.calls c' := by
  have hother {t : State} (ht : t.calls = s.calls) (phase : CallPhase) :
      ∀ c' ≠ c, (t.setPhase c call phase).calls c' = s.calls c' := by
    intro c' hc'
    rw [State.setPhase_calls, Function.update_of_ne hc', ht]
  unfold callStep at hstep
  split at hstep
  · next hphase =>
    cases hstep
    exact ⟨hphase ▸ trivial, hother (InPlace.recordFirstSection s _ _).calls _⟩
  · next hphase =>
    cases hstep
    exact ⟨hphase ▸ trivial, hother rfl _⟩
  · next hphase =>
    cases hstep
    exact ⟨hphase ▸ trivial, hother rfl _⟩
  · next newContext hphase =>
    cases hstep
    exact ⟨hphase ▸ trivial, hother (h.recordSecondSection hcall hphase).calls _⟩
  · cases hstep

/-- **Only `RsRecordOperation`** puts calls in flight. -/
theorem inFlight_of_step (h : Invariant s) (hstep : machine.step s a = some s')
    (hc : s'.InFlight c) : s.InFlight c ∨ a.entering = some c := by
  obtain ⟨owner, hs⟩ := h.sound
  have hsame (hcalls : s'.calls = s.calls) : s.InFlight c := by
    rwa [State.InFlight, hcalls] at hc
  cases a with
  | enter c' processImageName currentTime =>
    simp only [machine, Option.ite_none_right_eq_some, Option.some.injEq] at hstep
    obtain ⟨-, rfl⟩ := hstep
    by_cases hne : c = c'
    · exact .inr (hne ▸ rfl)
    · rw [State.InFlight, State.start_calls, Function.update_of_ne hne] at hc
      exact .inl hc
  | advance c' step =>
    obtain ⟨call, hcall, hstep⟩ := Option.bind_eq_some_iff.1 hstep
    obtain ⟨hflight, hother⟩ := callStep_calls h hcall hstep
    by_cases hne : c = c'
    · exact .inl (hne ▸ ⟨call, hcall, hflight⟩)
    · rw [State.InFlight, hother c hne] at hc
      exact .inl hc
  | removeProcessContext processId =>
    cases hstep
    exact .inl (hsame (SectionEnd.rsRemoveProcessContext hs h.counted processId).calls)
  | getBlockedPids maxEntries =>
    obtain rfl : (s.rsGetBlockedPids maxEntries).1 = s' := Option.some.inj hstep
    exact .inl (hsame (InPlace.rsGetBlockedPids s maxEntries).calls)
  | getPidCounts =>
    obtain rfl : s.rsGetPidCounts.1 = s' := Option.some.inj hstep
    exact .inl (hsame (InPlace.rsGetPidCounts s).calls)
  | destroyContextTracking =>
    obtain rfl : s.rsDestroyContextTracking = s' := Option.some.inj hstep
    exact .inl (hsame (SectionEnd.rsDestroyContextTracking hs).calls)
  | applyConfig threshold seconds monitoring =>
    cases hstep
    exact .inl (hsame rfl)
  | setMonitoring value =>
    cases hstep
    exact .inl (hsame rfl)

end Pool

end RansomShield
