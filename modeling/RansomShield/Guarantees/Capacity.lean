import RansomShield.System.Events
import Mathlib.Data.Finset.Card

/-!
# The number of tracked processes

`RS_MAX_TRACKED_PIDS` is meant to bound the contexts in non-paged pool, but no code reads it: a
call that finds no context inserts one, however many there are, and only an unblock removes one.
So the table holds one context for each process of which a call has come to its second lookup since
the process was last unblocked (`card_trackedPids`), and it stays within the bound exactly as long
as these processes do (`tracking_bounded_iff`).
-/

namespace RansomShield

/-- `RS_MAX_TRACKED_PIDS`. -/
abbrev rsMaxTrackedPids : ℕ := 1024

/-- The number of contexts in the table. -/
def DriverState.trackedContexts (s : DriverState) : ℕ :=
  (Chained.entries s.contextHashTable).length

/-- The processes that a list of actions leaves tracked: a call of the process has come to its
second lookup, and the context of the process has not been removed since. -/
def trackedPids (as : List Action) : Finset UInt32 :=
  as.foldl
    (fun ps a =>
      match a with
      | .advance c .secondSection => insert c.processId ps
      | .control (.removeProcessContext p) => ps.erase p
      | _ => ps)
    ∅

/-! ### The tracked processes -/

variable {upcase : UInt16 → UInt16} {s s' : SystemState} {a : Action} {as : List Action}
  {p : UInt32}

/-- Whether a process is tracked after an action that it sees. -/
def Process.Action.Tracks (before : Prop) : Process.Action → Prop
  | .secondSection _ => True
  | .remove => False
  | _ => before

theorem mem_trackedPids_concat (as : List Action) (a : Action) (p : UInt32) :
    p ∈ trackedPids (as ++ [a]) ↔
      (a.ofProcess p).elim (p ∈ trackedPids as) (Process.Action.Tracks (p ∈ trackedPids as)) := by
  rw [trackedPids, List.foldl_append, List.foldl_cons, List.foldl_nil, ← trackedPids]
  cases a with
  | pass c data => exact Iff.rfl
  | track c data | call c processImageName currentTime =>
    by_cases hc : c.processId = p <;> simp [Action.ofProcess, hc, Process.Action.Tracks]
  | advance c step =>
    by_cases hc : c.processId = p
    · cases step <;> simp [Action.ofProcess, Process.ofCallStep, hc, Process.Action.Tracks]
    · cases step <;> simp [Action.ofProcess, hc, Ne.symm hc]
  | control k =>
    cases k with
    | removeProcessContext q =>
      by_cases hq : q = p
      · simp [Action.ofProcess, Process.ofControl, hq, Process.Action.Tracks]
      · simp [Action.ofProcess, Process.ofControl, hq, Ne.symm hq]
    | _ => exact Iff.rfl

/-- **What the actions do to the context of a process**: the second lookup of a call leaves one
behind, found or inserted, and only the removal takes it away. -/
theorem Process.context_of_step {v v' : Process.State} {b : Process.Action}
    (h : (Process.machine p).step v b = some v') :
    v'.context ≠ none ↔ b.Tracks (v.context ≠ none) := by
  cases b with
  | enter i image t =>
    simp only [Process.machine, Option.ite_none_right_eq_some, Option.some.injEq] at h
    obtain ⟨-, rfl⟩ := h
    exact Iff.rfl
  | firstSection i =>
    obtain ⟨call, -, h⟩ := Option.bind_eq_some_iff.1 h
    cases hphase : call.phase <;> simp only [Process.callStep, hphase, reduceCtorEq] at h
    cases h
    show (firstSection v.config v.context _).1 ≠ none ↔ v.context ≠ none
    cases v.context <;> simp [firstSection]
  | allocate i succeeds =>
    obtain ⟨call, -, h⟩ := Option.bind_eq_some_iff.1 h
    cases hphase : call.phase <;> cases succeeds <;>
      simp only [Process.callStep, hphase, reduceCtorEq] at h
    all_goals
      cases h
      exact Iff.rfl
  | secondSection i =>
    obtain ⟨call, -, h⟩ := Option.bind_eq_some_iff.1 h
    cases hphase : call.phase <;> simp only [Process.callStep, hphase, reduceCtorEq] at h
    cases h
    show (secondSection v.config v.context _ _).1 ≠ none ↔ True
    cases v.context <;> simp [secondSection]
  | applyConfig | setMonitoring =>
    cases h
    exact Iff.rfl
  | remove =>
    cases h
    exact iff_of_false (fun hne => hne rfl) id

/-- **The tracked processes are those with a context**, after every run. -/
theorem mem_trackedPids (hrun : (system upcase).run SystemState.init as = some s) (p : UInt32) :
    p ∈ trackedPids as ↔ rsLookupProcessContext s.driver p ≠ none := by
  refine Machine.run_induction (M := system upcase)
    (I := fun bs u => p ∈ trackedPids bs ↔ rsLookupProcessContext u.driver p ≠ none) hrun
    (by simp [trackedPids]; rfl) ?_
  intro bs b u u' _ hu ih hstep
  have hs : u.Sound := sound_of_run sound_init hu
  rw [mem_trackedPids_concat]
  cases hb : b.ofProcess p with
  | none =>
    have hview := congrArg Process.State.context (Process.view_step_of_none hs hstep hb)
    rw [show rsLookupProcessContext u'.driver p = rsLookupProcessContext u.driver p from hview]
    exact ih
  | some b' =>
    have hcontext := Process.context_of_step (Process.view_step hs hstep hb)
    rw [show rsLookupProcessContext u'.driver p = (Process.view p u').context from rfl, hcontext]
    cases b' <;> first | exact Iff.rfl | exact ih

/-- **The number of contexts is that of the tracked processes**, in every run. -/
theorem card_trackedPids (hrun : (system upcase).run SystemState.init as = some s) :
    s.driver.trackedContexts = (trackedPids as).card := by
  have hvalid : s.driver.WellFormed := (sound_of_run sound_init hrun).wellFormed
  have hpids : trackedPids as =
      ((Chained.entries s.driver.contextHashTable).map RsProcessContext.processId).toFinset := by
    ext p
    rw [mem_trackedPids hrun, List.mem_toFinset, Option.ne_none_iff_exists', List.mem_map]
    constructor
    · rintro ⟨ctx, hctx⟩
      exact ⟨ctx, Chained.mem_entries_of_lookup hctx, processId_of_lookup hctx⟩
    · rintro ⟨ctx, hctx, rfl⟩
      exact ⟨ctx, Chained.Valid.lookup_of_mem hvalid hctx⟩
  rw [hpids, List.toFinset_card_of_nodup (Chained.Valid.nodup_keys hvalid), List.length_map]
  rfl

/-- **When the table stays within its bound**: every state of a run holds at most
`RS_MAX_TRACKED_PIDS` contexts exactly when, after every part of its actions, the processes that
have come to a second lookup since they were last unblocked are at most that many. -/
theorem tracking_bounded_iff (hrun : (system upcase).run SystemState.init as = some s) :
    ((system upcase).Always SystemState.init as fun u =>
        u.driver.trackedContexts ≤ rsMaxTrackedPids) ↔
      ∀ bs, bs <+: as → (trackedPids bs).card ≤ rsMaxTrackedPids := by
  constructor
  · intro hbound bs hbs
    obtain ⟨u, hu⟩ := Machine.exists_run_of_prefix hrun hbs
    rw [← card_trackedPids hu]
    exact hbound bs u hbs hu
  · intro hpids bs u hbs hu
    rw [card_trackedPids hu]
    exact hpids bs hbs

/-- Two processes are tracked at the same time, and one of them is unblocked. -/
def twoProcesses : List Action :=
  [.call ⟨8, 0⟩ none (.ofTicks 5), .call ⟨12, 0⟩ none (.ofTicks 5), .advance ⟨8, 0⟩ .firstSection,
    .advance ⟨12, 0⟩ .firstSection, .advance ⟨8, 0⟩ (.allocate true),
    .advance ⟨12, 0⟩ (.allocate true), .advance ⟨8, 0⟩ .secondSection,
    .advance ⟨12, 0⟩ .secondSection, .control (.removeProcessContext 8)]

theorem tracking_bounded_two :
    ∃ s, (system id).run SystemState.init twoProcesses = some s ∧
      (system id).Always SystemState.init twoProcesses fun u =>
        u.driver.trackedContexts ≤ rsMaxTrackedPids := by
  obtain ⟨s, hrun, -⟩ := Machine.exists_of_any (system id) (fun _ => true) SystemState.init
    twoProcesses (by decide +kernel)
  have hpids : ∀ bs ∈ twoProcesses.inits, (trackedPids bs).card ≤ rsMaxTrackedPids := by
    decide +kernel
  exact ⟨s, hrun, (tracking_bounded_iff hrun).2 fun bs hbs =>
    hpids bs ((List.mem_inits _ _).2 hbs)⟩

/-! ### Beyond the bound -/

theorem length_le_trackedContexts {d : DriverState} {ps : List UInt32} (hps : ps.Nodup)
    (h : ∀ p ∈ ps, rsLookupProcessContext d p ≠ none) : ps.length ≤ d.trackedContexts := by
  have hsub : ps ⊆ (Chained.entries d.contextHashTable).map RsProcessContext.processId := by
    intro p hp
    obtain ⟨ctx, hctx⟩ := Option.ne_none_iff_exists'.1 (h p hp)
    exact List.mem_map.2 ⟨ctx, Chained.mem_entries_of_lookup hctx, processId_of_lookup hctx⟩
  have hlen := (hps.subperm hsub).length_le
  rwa [List.length_map] at hlen

/-- A write of a process whose image cannot be located. -/
def anonymousWrite (p : UInt32) : FltCallbackData :=
  writeRequest p .apcLevel (rtlInitUnicodeString []) (.ofTicks 5) true

theorem passes_anonymousWrite (d : DriverState) {p : UInt32} (hp : p ≠ 0 ∧ p ≠ 4) :
    (anonymousWrite p).passes upcase d = false := by
  have hskipped : (anonymousWrite p).skipped = false := by
    simp [FltCallbackData.skipped, anonymousWrite, writeRequest, hp.1, hp.2]
  rw [FltCallbackData.passes, hskipped]
  rfl

/-- Every process that has written is tracked. -/
theorem tracked_after (upcase : UInt16 → UInt16) {ps : List UInt32}
    (hps : ∀ p ∈ ps, p ≠ 0 ∧ p ≠ 4) : ∀ p ∈ ps, rsLookupProcessContext
      (after upcase (ps.map fun p => .request (anonymousWrite p))) p ≠ none := by
  induction ps using List.reverseRecOn with
  | nil => intro p hp; cases hp
  | append_singleton ps q ih =>
    intro p hp
    rw [List.map_append, List.map_singleton, after, exec_concat]
    show rsLookupProcessContext (preOperation upcase _ (anonymousWrite q)).state p ≠ none
    by_cases hq : q = p
    · -- the write itself tracks its process, or finds it tracked
      subst hq
      rw [lookup_preOperation (passes_anonymousWrite _ (hps q hp)) q,
        if_pos (show q = (anonymousWrite q).requestorProcessId from rfl)]
      unfold recordContext
      split
      · split_ifs <;> simp
      · simp [anonymousWrite, writeRequest]
    · rw [lookup_preOperation_of_ne (show (anonymousWrite q).requestorProcessId ≠ p from hq)]
      have hmem : p ∈ ps := by
        rcases List.mem_append.1 hp with h | h
        · exact h
        · exact absurd (List.mem_singleton.1 h).symm hq
      exact ih (fun p hp => hps p (List.mem_append_left _ hp)) p hmem

/-- **The table grows beyond its bound**: 1025 processes write once each. -/
theorem tracking_unbounded :
    ∃ s, Reachable id s ∧ rsMaxTrackedPids < s.driver.trackedContexts := by
  let ps : List UInt32 := (List.range 1025).map fun i => UInt32.ofNat (i + 5)
  have hval : ∀ i ∈ List.range 1025, (UInt32.ofNat (i + 5)).toNat = i + 5 := by
    intro i hi
    have hlt := List.mem_range.1 hi
    rw [UInt32.toNat_ofNat', Nat.mod_eq_of_lt (by omega)]
  have hps : ∀ p ∈ ps, p ≠ 0 ∧ p ≠ 4 := by
    intro p hp
    obtain ⟨i, hi, rfl⟩ := List.mem_map.1 hp
    have hi' := hval i hi
    constructor <;> intro h <;> rw [h] at hi' <;> simp at hi'
  have hnodup : ps.Nodup := by
    refine (List.nodup_map_iff_inj_on List.nodup_range).2 ?_
    intro i hi j hj hij
    have := congrArg UInt32.toNat hij
    rw [hval i hi, hval j hj] at this
    omega
  obtain ⟨s, hs, hdriver, -⟩ :=
    reachable_after id (ps.map fun p => .request (anonymousWrite p))
  refine ⟨s, hs, ?_⟩
  have hcount := length_le_trackedContexts hnodup (tracked_after id hps)
  rw [← hdriver, List.length_map, List.length_range] at hcount
  exact hcount

end RansomShield
