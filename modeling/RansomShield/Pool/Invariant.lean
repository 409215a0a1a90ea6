import RansomShield.Pool.Sections

/-!
# The double-checked insertion

For every interleaving of the locked sections, every PID has at most one context, in its bucket;
`g_TrackedPidCount` is the number of contexts; the code under the lock touches contexts of the
table only; and every context ever allocated is in the table, privately held by exactly one call
in flight, or freed exactly once.  `Pool.Invariant` is what holds between the locked sections: every
step keeps it (`Pool.Invariant.step`), and `Pool.context_table_invariant` is what it says about the
reachable states.
-/

namespace RansomShield

namespace Pool

open Heap (Owner Accounts)
open State (Sound InPlace)

variable {s s' : State} {owner : ℕ → Owner CallId} {holds : CallId → Option ℕ} {c : CallId}
  {call : Call} {b : ℕ}

/-- The number of contexts is `g_TrackedPidCount`. -/
def State.Counted (s : State) : Prop := s.trackedPidCount.toNat = s.linked.length

/-- The invariant between the locked sections: the calls hold blocks as their phases say, and what
they hold is the fresh context of their process, which is not one of those that the callers of
`RsRecordOperation` let pass. -/
structure Invariant (s : State) : Prop where
  sound : ∃ owner, Sound owner s.holds s
  counted : s.Counted
  callers : ∀ c call, s.calls c = some call → c.processId ≠ 0 ∧ c.processId ≠ 4
  fresh : ∀ c call b, s.calls c = some call → call.phase = .allocated b →
    s.contents b = rsCreateProcessContext c.processId call.processImageName

/-! ### The number of contexts -/

/-- There are fewer contexts than values of a `ULONG`: no context has PID 0. -/
theorem State.Sound.length_linked_lt (hs : Sound owner holds s) : s.linked.length < 2 ^ 32 := by
  -- the PIDs of the contexts and 0 are different numbers below `2 ^ 32`
  have hnodup : ((0 :: s.linked.map s.key).map UInt32.toNat).Nodup := by
    refine List.Nodup.map (fun a b => UInt32.toNat_inj.1) ?_
    refine List.nodup_cons.2 ⟨?_, hs.valid.nodup_keys⟩
    intro hmem
    obtain ⟨b, hb, hkey⟩ := List.mem_map.1 hmem
    exact (hs.tracked b hb).1 hkey
  have hsub : (0 :: s.linked.map s.key).map UInt32.toNat ⊆ List.range (2 ^ 32) := by
    intro n hn
    obtain ⟨u, -, rfl⟩ := List.mem_map.1 hn
    exact List.mem_range.2 u.toNat_lt
  have hlen := (hnodup.subperm hsub).length_le
  rw [List.length_map, List.length_cons, List.length_map, List.length_range] at hlen
  omega

theorem State.length_linked_insertHeadList (s : State) (b : ℕ) :
    (s.insertHeadList (rsHashProcessId (s.key b)) b).linked.length = s.linked.length + 1 :=
  Chained.length_entries_insert s.contextHashTable b

theorem State.mem_linked_of_lookup {processId : UInt32}
    (h : Chained.lookup s.key rsHashProcessId s.contextHashTable processId = some b) :
    b ∈ s.linked :=
  Chained.mem_entries_of_lookup h

/-! ### Locked sections -/

/-- A locked section has led from `s` to `s'`, where blocks are held as `holds` says.  The contexts
that are held privately are untouched. -/
structure SectionEnd (holds : CallId → Option ℕ) (s s' : State) : Prop where
  sound : ∃ owner, Sound owner holds s'
  counted : s'.Counted
  calls : s'.calls = s.calls
  contents : ∀ c b, holds c = some b → s'.contents b = s.contents b

namespace SectionEnd

theorem refl (hs : Sound owner holds s) (hc : s.Counted) : SectionEnd holds s s :=
  ⟨⟨owner, hs⟩, hc, rfl, fun _ _ _ => rfl⟩

theorem not_linked (h : SectionEnd holds s s') (hb : holds c = some b) : b ∉ s'.linked := by
  obtain ⟨owner, hs⟩ := h.sound
  exact fun hmem => hs.accounts.not_mem_of_holds hb (Set.mem_ofPred.2 hmem)

theorem inPlace {s'' : State} (h : SectionEnd holds s s') (h' : InPlace s' s'') :
    SectionEnd holds s s'' where
  sound := h.sound.imp fun _ hs => h'.sound hs
  counted := by
    unfold State.Counted
    rw [h'.count, h'.linked]
    exact h.counted
  calls := h'.calls.trans h.calls
  contents c b hb := (h'.contents b (h.not_linked hb)).trans (h.contents c b hb)

theorem discard (h : SectionEnd holds s s') (hb : holds c = some b) :
    SectionEnd (Function.update holds c none) s (s'.exFreePoolWithTag b) where
  sound := by
    obtain ⟨owner, hs⟩ := h.sound
    exact ⟨_, hs.discard hb⟩
  counted := h.counted
  calls := h.calls
  contents c' b' hb' := by
    by_cases hc : c' = c
    · subst hc
      rw [Function.update_self] at hb'
      cases hb'
    · rw [Function.update_of_ne hc] at hb'
      exact h.contents c' b' hb'

/-- The counter does not wrap when a context is inserted. -/
theorem insert (h : SectionEnd holds s s') (hb : holds c = some b)
    (hkey : s'.key b ≠ 0 ∧ s'.key b ≠ 4)
    (hnone : Chained.lookup s'.key rsHashProcessId s'.contextHashTable (s'.key b) = none) :
    SectionEnd (Function.update holds c none) s
      (s'.insertHeadList (rsHashProcessId (s'.key b)) b) := by
  obtain ⟨owner, hs⟩ := h.sound
  have hs' := hs.insert hb hkey hnone
  refine ⟨⟨_, hs'⟩, ?_, h.calls, ?_⟩
  · have hlt := hs'.length_linked_lt
    rw [State.length_linked_insertHeadList] at hlt
    have hcount : (s'.trackedPidCount + 1).toNat = s'.trackedPidCount.toNat + 1 := by
      have hc : s'.trackedPidCount.toNat = s'.linked.length := h.counted
      have hone : (1 : UInt32).toNat = 1 := rfl
      rw [UInt32.toNat_add, hone, Nat.mod_eq_of_lt (by omega)]
    unfold State.Counted
    rw [State.length_linked_insertHeadList, ← h.counted]
    exact hcount
  · intro c' b' hb'
    by_cases hc : c' = c
    · subst hc
      rw [Function.update_self] at hb'
      cases hb'
    · rw [Function.update_of_ne hc] at hb'
      exact h.contents c' b' hb'

theorem release (h : SectionEnd holds s s') (hb : b ∈ s'.linked) :
    SectionEnd holds s
      { s'.release b with trackedPidCount := s'.trackedPidCount - 1 } := by
  obtain ⟨owner, hs⟩ := h.sound
  have hs' := hs.release hb
  refine ⟨⟨_, hs'.accounts, hs'.valid, hs'.tracked, hs'.accessed⟩, ?_, h.calls, h.contents⟩
  -- the counter is positive, so that the decrement does not wrap
  have hlen : (s'.release b).linked.length + 1 = s'.linked.length :=
    hs.valid.length_entries_unlink hb
  have hc : s'.trackedPidCount.toNat = s'.linked.length := h.counted
  have hle : (1 : UInt32) ≤ s'.trackedPidCount := by
    rw [UInt32.le_iff_toNat_le, hc]
    exact List.length_pos_of_mem hb
  have hcount : (s'.trackedPidCount - 1).toNat = s'.trackedPidCount.toNat - 1 :=
    UInt32.toNat_sub_of_le _ _ hle
  show (s'.trackedPidCount - 1).toNat = (s'.release b).linked.length
  omega

/-! ### The functions -/

theorem recordFirstSection (hs : Sound owner holds s) (hc : s.Counted) (processId : UInt32)
    (t : Int64) : SectionEnd holds s (s.recordFirstSection processId t).1 :=
  (refl hs hc).inPlace (.recordFirstSection s processId t)

/-- **The second locked section** frees the new context of the call, or puts it into the table. -/
theorem recordSecondSection (hs : Sound owner holds s) (hc : s.Counted) (hb : holds c = some b)
    (hkey : s.key b ≠ 0 ∧ s.key b ≠ 4) (t : Int64) :
    SectionEnd (Function.update holds c none) s (s.recordSecondSection b (s.key b) t).1 := by
  obtain ⟨visited, hvisited, heq⟩ := State.rsLookupProcessContext_eq s (s.key b)
  have htouch : SectionEnd holds s (s.touch visited) := (refl hs hc).inPlace (.touch hvisited)
  cases hlookup : Chained.lookup s.key rsHashProcessId s.contextHashTable (s.key b) with
  | some context =>
    simp only [State.recordSecondSection, heq, hlookup]
    have hmem : context ∈ ((s.touch visited).exFreePoolWithTag b).linked :=
      State.mem_linked_of_lookup hlookup
    exact (htouch.discard hb).inPlace (.recordInContext hmem t)
  | none =>
    simp only [State.recordSecondSection, heq, hlookup]
    have hinsert := htouch.insert hb hkey hlookup
    exact hinsert.inPlace (.recordAndEvaluate (State.mem_linked_insertHeadList.2 (.inl rfl)) t)

/-- **Removal** frees the context that it unlinks. -/
theorem rsRemoveProcessContext (hs : Sound owner holds s) (hc : s.Counted) (processId : UInt32) :
    SectionEnd holds s (s.rsRemoveProcessContext processId) := by
  obtain ⟨visited, hvisited, heq⟩ := State.rsLookupProcessContext_eq s processId
  have htouch : SectionEnd holds s (s.touch visited) := (refl hs hc).inPlace (.touch hvisited)
  cases hlookup : Chained.lookup s.key rsHashProcessId s.contextHashTable processId with
  | some context =>
    have hmem : context ∈ (s.touch visited).linked := State.mem_linked_of_lookup hlookup
    simp only [State.rsRemoveProcessContext, heq, hlookup]
    -- `RemoveEntryList` writes to the neighbours, which are in the table too
    have hlinks : ∀ b ∈ context :: (List.finRange rsHashTableSize).flatMap (fun i =>
        State.neighbours context (s.contextHashTable i)), b ∈ (s.touch visited).linked := by
      rw [List.forall_mem_cons]
      refine ⟨hmem, ?_⟩
      intro b hb
      obtain ⟨i, -, hi⟩ := List.mem_flatMap.1 hb
      exact State.mem_linked.2 ⟨i, State.mem_of_mem_neighbours hi⟩
    exact (htouch.inPlace (.touch hlinks)).release hmem
  | none =>
    simp only [State.rsRemoveProcessContext, heq, hlookup]
    exact htouch

end SectionEnd

/-! ### Unloading -/

/-- Chains have been emptied: the ones of the buckets in `buckets`. -/
structure Drained (holds : CallId → Option ℕ) (buckets : List (Fin rsHashTableSize))
    (s s' : State) : Prop where
  sound : ∃ owner, Sound owner holds s'
  table : ∀ i, s'.contextHashTable i = if i ∈ buckets then [] else s.contextHashTable i
  calls : s'.calls = s.calls
  contents : s'.contents = s.contents

theorem drained_chain {bucket : Fin rsHashTableSize} {chain : List ℕ} (hs : Sound owner holds s)
    (hchain : s.contextHashTable bucket = chain) :
    Drained holds [bucket] s (State.drainChain bucket chain s) := by
  induction chain generalizing s owner with
  | nil =>
    refine ⟨⟨owner, hs⟩, ?_, rfl, rfl⟩
    intro i
    by_cases hi : i = bucket
    · rw [if_pos (List.mem_singleton.2 hi), hi]
      exact hchain
    · rw [if_neg (mt List.mem_singleton.1 hi)]
      rfl
  | cons b chain ih =>
    have hmem : b ∈ s.contextHashTable bucket := hchain ▸ List.mem_cons_self
    have htable : Function.update s.contextHashTable bucket chain =
        Chained.unlink s.contextHashTable b := by
      rw [hs.valid.unlink_eq_update hmem, hchain, List.erase_cons_head]
    have htouch : ∀ b' ∈ b :: chain.head?.toList, b' ∈ s.linked := by
      rw [List.forall_mem_cons]
      refine ⟨State.mem_linked.2 ⟨bucket, hmem⟩, fun b' hb' => State.mem_linked.2 ⟨bucket, ?_⟩⟩
      rw [hchain]
      exact List.mem_cons_of_mem b (List.mem_of_mem_head? (Option.mem_toList.1 hb'))
    have hrelease := (hs.touch htouch).release (b := b) (State.mem_linked.2 ⟨bucket, hmem⟩)
    rw [State.release] at hrelease
    simp only [State.drainChain, htable]
    obtain ⟨hsound, hrest, hcalls, hcontents⟩ := ih hrelease (by
      show Chained.unlink s.contextHashTable b bucket = chain
      rw [Chained.unlink, hchain, List.erase_cons_head])
    refine ⟨hsound, ?_, hcalls, hcontents⟩
    intro i
    refine (hrest i).trans ?_
    by_cases hi : i = bucket
    · rw [if_pos (List.mem_singleton.2 hi), if_pos (List.mem_singleton.2 hi)]
    · rw [if_neg (mt List.mem_singleton.1 hi), if_neg (mt List.mem_singleton.1 hi)]
      show Chained.unlink s.contextHashTable b i = s.contextHashTable i
      rw [← htable, Function.update_of_ne hi]

theorem drained_foldl (hs : Sound owner holds s) (buckets : List (Fin rsHashTableSize)) :
    Drained holds buckets s
      (buckets.foldl (fun s i => State.drainChain i (s.contextHashTable i) s) s) := by
  induction buckets generalizing s owner with
  | nil => exact ⟨⟨owner, hs⟩, fun i => by rw [if_neg List.not_mem_nil]; rfl, rfl, rfl⟩
  | cons bucket buckets ih =>
    obtain ⟨⟨owner', hs'⟩, htable, hcalls, hcontents⟩ :=
      drained_chain hs (rfl : s.contextHashTable bucket = _)
    obtain ⟨hsound, htable', hcalls', hcontents'⟩ := ih hs'
    refine ⟨hsound, ?_, hcalls'.trans hcalls, hcontents'.trans hcontents⟩
    intro i
    rw [List.foldl_cons, htable', htable]
    by_cases hi : i ∈ buckets
    · rw [if_pos hi, if_pos (List.mem_cons_of_mem _ hi)]
    · by_cases hb : i = bucket
      · rw [if_neg hi, if_pos (List.mem_singleton.2 hb), if_pos (List.mem_cons.2 (.inl hb))]
      · rw [if_neg hi, if_neg (mt List.mem_singleton.1 hb),
          if_neg (fun h => (List.mem_cons.1 h).elim hb hi)]

theorem linked_rsDestroyContextTracking (hs : Sound owner holds s) :
    s.rsDestroyContextTracking.linked = [] := by
  have htable := (drained_foldl hs (List.finRange rsHashTableSize)).table
  unfold State.rsDestroyContextTracking
  generalize (List.finRange rsHashTableSize).foldl
    (fun s i => State.drainChain i (s.contextHashTable i) s) s = s' at *
  refine List.eq_nil_iff_forall_not_mem.2 ?_
  intro b hb
  obtain ⟨i, hi⟩ := State.mem_linked.1 hb
  have hempty := (htable i).trans (if_pos (List.mem_finRange i))
  exact List.not_mem_nil (hempty ▸ hi)

/-- **Unloading** frees every context of the table. -/
theorem SectionEnd.rsDestroyContextTracking (hs : Sound owner holds s) :
    SectionEnd holds s s.rsDestroyContextTracking := by
  have hempty := linked_rsDestroyContextTracking hs
  obtain ⟨⟨owner', hs'⟩, -, hcalls, hcontents⟩ := drained_foldl hs (List.finRange rsHashTableSize)
  unfold State.rsDestroyContextTracking at *
  generalize (List.finRange rsHashTableSize).foldl
    (fun s i => State.drainChain i (s.contextHashTable i) s) s = s' at *
  refine ⟨⟨owner', hs'.accounts, hs'.valid, hs'.tracked, hs'.accessed⟩, ?_, hcalls,
    fun c b _ => congrFun hcontents b⟩
  unfold State.Counted
  rw [hempty]
  rfl

/-! ### Steps -/

theorem State.holds_setPhase (s : State) (c : CallId) (call : Call) (phase : CallPhase) :
    (s.setPhase c call phase).holds = Function.update s.holds c phase.newContext := by
  funext c'
  by_cases hc : c' = c
  · subst hc
    simp [State.holds, State.setPhase]
  · simp [State.holds, State.setPhase, hc]

theorem State.holds_start (s : State) {c : CallId} (hnew : s.calls c = none) {call : Call}
    (hphase : call.phase = .entered) : (s.start c call).holds = s.holds := by
  funext c'
  by_cases hc : c' = c
  · subst hc
    simp [State.holds, State.start, hnew, hphase, CallPhase.newContext]
  · simp [State.holds, State.start, hc]

theorem State.holds_of_phase (hcall : s.calls c = some call) :
    s.holds c = call.phase.newContext := by
  rw [State.holds, hcall, Option.bind_some]

theorem State.holds_of_allocated (hcall : s.calls c = some call)
    (hphase : call.phase = .allocated b) : s.holds c = some b := by
  rw [State.holds_of_phase hcall, hphase]
  rfl

theorem State.linked_init : State.init.linked = [] := Chained.entries_empty

theorem invariant_init : Invariant State.init := by
  refine ⟨⟨fun _ => .unallocated, ?_, Chained.valid_empty, ?_, ?_⟩, ?_, ?_, ?_⟩
  · have hset : {b | b ∈ State.init.linked} = (∅ : Set ℕ) := by
      rw [State.linked_init]
      simp
    rw [hset]
    exact Accounts.init
  · intro b hb
    rw [State.linked_init] at hb
    cases hb
  · intro a ha
    cases ha
  · unfold State.Counted
    rw [State.linked_init]
    rfl
  · intro c call hcall
    cases hcall
  · intro c call b hcall
    cases hcall

namespace Invariant

theorem sectionEnd (h : Invariant s) (h' : SectionEnd s.holds s s') : Invariant s' := by
  have hholds : s'.holds = s.holds := by
    funext c
    rw [State.holds, State.holds, h'.calls]
  refine ⟨hholds ▸ h'.sound, h'.counted, ?_, ?_⟩
  · intro c call hcall
    rw [h'.calls] at hcall
    exact h.callers c call hcall
  · intro c call b hcall hphase
    rw [h'.calls] at hcall
    rw [h'.contents c b (State.holds_of_allocated hcall hphase)]
    exact h.fresh c call b hcall hphase

theorem setPhase (h : Invariant s) (hcall : s.calls c = some call) {phase : CallPhase}
    (hsound : ∃ owner, Sound owner (Function.update s.holds c phase.newContext) s')
    (hcounted : s'.Counted) (hcalls : s'.calls = s.calls)
    (hcontents : ∀ c' b, c' ≠ c → s.holds c' = some b → s'.contents b = s.contents b)
    (hfresh : ∀ b, phase = .allocated b →
      s'.contents b = rsCreateProcessContext c.processId call.processImageName) :
    Invariant (s'.setPhase c call phase) := by
  have hholds : (s'.setPhase c call phase).holds =
      Function.update s.holds c phase.newContext := by
    have hsame : s'.holds = s.holds := by
      funext c'
      rw [State.holds, State.holds, hcalls]
    rw [State.holds_setPhase, hsame]
  obtain ⟨owner, hs⟩ := hsound
  refine ⟨⟨owner, ?_⟩, hcounted, ?_, ?_⟩
  · rw [hholds]
    exact ⟨hs.accounts, hs.valid, hs.tracked, hs.accessed⟩
  · intro c' call' hc'
    by_cases hne : c' = c
    · rw [hne]
      exact h.callers c call hcall
    · rw [State.setPhase_calls, Function.update_of_ne hne, hcalls] at hc'
      exact h.callers c' call' hc'
  · intro c' call' b hc' hphase
    by_cases hne : c' = c
    · subst hne
      rw [State.setPhase_calls, Function.update_self] at hc'
      cases hc'
      exact hfresh b hphase
    · rw [State.setPhase_calls, Function.update_of_ne hne, hcalls] at hc'
      have hb : s.holds c' = some b := State.holds_of_allocated hc' hphase
      exact (hcontents c' b hne hb).trans (h.fresh c' call' b hc' hphase)

theorem endSection (h : Invariant s) (hcall : s.calls c = some call)
    (h' : SectionEnd (Function.update s.holds c none) s s') (r : SectionResult) :
    Invariant (s'.endSection c call r) := by
  have hcontents (c' : CallId) (b : ℕ) (hne : c' ≠ c) (hb : s.holds c' = some b) :
      s'.contents b = s.contents b :=
    h'.contents c' b (by rwa [Function.update_of_ne hne])
  unfold State.endSection phaseAfter
  cases hr : r.result c.processId with
  | none =>
    exact h.setPhase hcall h'.sound h'.counted h'.calls hcontents fun _ hphase => by cases hphase
  | some result =>
    exact h.setPhase hcall h'.sound h'.counted h'.calls hcontents fun _ hphase => by cases hphase

/-- A call that holds no block may say so. -/
theorem update_holds (hcall : s.calls c = some call) (hphase : call.phase.newContext = none) :
    Function.update s.holds c none = s.holds :=
  Function.update_eq_self_iff.2 ((State.holds_of_phase hcall).trans hphase).symm

theorem start (h : Invariant s) (hnew : s.calls c = none)
    (hpid : c.processId ≠ 0 ∧ c.processId ≠ 4) (hphase : call.phase = .entered) :
    Invariant (s.start c call) := by
  obtain ⟨owner, hs⟩ := h.sound
  refine ⟨⟨owner, ?_⟩, h.counted, ?_, ?_⟩
  · rw [State.holds_start s hnew hphase]
    exact ⟨hs.accounts, hs.valid, hs.tracked, hs.accessed⟩
  · intro c' call' hc'
    by_cases hne : c' = c
    · rwa [hne]
    · rw [State.start_calls, Function.update_of_ne hne] at hc'
      exact h.callers c' call' hc'
  · intro c' call' b hc' hphase'
    by_cases hne : c' = c
    · subst hne
      rw [State.start_calls, Function.update_self] at hc'
      cases hc'
      rw [hphase] at hphase'
      cases hphase'
    · rw [State.start_calls, Function.update_of_ne hne] at hc'
      exact h.fresh c' call' b hc' hphase'

theorem key_of_allocated (h : Invariant s) (hcall : s.calls c = some call)
    (hphase : call.phase = .allocated b) : s.key b = c.processId := by
  rw [State.key, h.fresh c call b hcall hphase]
  rfl

theorem recordSecondSection (h : Invariant s) (hcall : s.calls c = some call)
    (hphase : call.phase = .allocated b) :
    SectionEnd (Function.update s.holds c none) s
      (s.recordSecondSection b c.processId call.currentTime.ticks).1 := by
  obtain ⟨owner, hs⟩ := h.sound
  have hkey := h.key_of_allocated hcall hphase
  have hsection := SectionEnd.recordSecondSection hs h.counted
    (State.holds_of_allocated hcall hphase) (hkey ▸ h.callers c call hcall) call.currentTime.ticks
  rwa [hkey] at hsection

/-- **The steps of a call.** -/
theorem callStep (h : Invariant s) (hcall : s.calls c = some call) {step : CallStep}
    (hstep : callStep s c call step = some s') : Invariant s' := by
  obtain ⟨owner, hs⟩ := h.sound
  -- one case for each step in the phase that enables it
  unfold Pool.callStep at hstep
  split at hstep
  · next hphase =>
    cases hstep
    have hsection := SectionEnd.recordFirstSection hs h.counted c.processId call.currentTime.ticks
    rw [← update_holds hcall (by rw [hphase]; rfl)] at hsection
    exact h.endSection hcall hsection _
  · next hphase =>
    cases hstep
    have hnone : s.holds c = none := by rw [State.holds_of_phase hcall, hphase]; rfl
    refine h.setPhase hcall ⟨_, hs.create hnone c.processId call.processImageName⟩ h.counted rfl
      ?_ ?_
    · intro c' b _ hb
      exact Function.update_of_ne (hs.accounts.lt_of_holds hb).ne _ _
    · intro b hb
      cases hb
      exact Function.update_self _ _ _
  · next hphase =>
    cases hstep
    have hnone : s.holds c = none := by rw [State.holds_of_phase hcall, hphase]; rfl
    refine h.setPhase hcall ⟨owner, ?_⟩ h.counted rfl (fun _ _ _ _ => rfl) fun b hb => by cases hb
    exact (update_holds hcall (by rw [hphase]; rfl)).symm ▸ hs
  · next newContext hphase =>
    cases hstep
    exact h.endSection hcall (h.recordSecondSection hcall hphase) _
  · cases hstep

/-- **Every step keeps the invariant.** -/
theorem step (h : Invariant s) {a : Action} (hstep : machine.step s a = some s') :
    Invariant s' := by
  obtain ⟨owner, hs⟩ := h.sound
  cases a with
  | enter c processImageName currentTime =>
    simp only [machine, Option.ite_none_right_eq_some, Option.some.injEq,
      Option.isNone_iff_eq_none] at hstep
    obtain ⟨⟨hnew, hpid⟩, rfl⟩ := hstep
    exact h.start hnew hpid rfl
  | advance c step =>
    obtain ⟨call, hcall, hstep⟩ := Option.bind_eq_some_iff.1 hstep
    exact h.callStep hcall hstep
  | removeProcessContext processId =>
    cases hstep
    exact h.sectionEnd (.rsRemoveProcessContext hs h.counted processId)
  | getBlockedPids maxEntries =>
    obtain rfl : (s.rsGetBlockedPids maxEntries).1 = s' := Option.some.inj hstep
    exact h.sectionEnd ((SectionEnd.refl hs h.counted).inPlace (.rsGetBlockedPids s maxEntries))
  | getPidCounts =>
    obtain rfl : s.rsGetPidCounts.1 = s' := Option.some.inj hstep
    exact h.sectionEnd ((SectionEnd.refl hs h.counted).inPlace (.rsGetPidCounts s))
  | destroyContextTracking =>
    obtain rfl : s.rsDestroyContextTracking = s' := Option.some.inj hstep
    exact h.sectionEnd (.rsDestroyContextTracking hs)
  | applyConfig threshold seconds monitoring =>
    cases hstep
    exact ⟨⟨owner, hs.accounts, hs.valid, hs.tracked, hs.accessed⟩, h.counted, h.callers, h.fresh⟩
  | setMonitoring value =>
    cases hstep
    exact ⟨⟨owner, hs.accounts, hs.valid, hs.tracked, hs.accessed⟩, h.counted, h.callers, h.fresh⟩

/-- **Every run keeps the invariant.** -/
theorem run (h : Invariant s) {as : List Action} (hrun : machine.run s as = some s') :
    Invariant s' :=
  Machine.run_invariant hrun h fun _ _ _ hs _ hstep => hs.step hstep

end Invariant

theorem Reachable.invariant (h : Reachable s) : Invariant s := by
  obtain ⟨as, hrun⟩ := h
  exact invariant_init.run hrun

/-! ### The reachable states -/

/-- **The table of contexts, in every reachable state**: no PID has two contexts; every context is
in bucket `PID % 1021`; the counter is the number of contexts; every access under the lock was to a
context that was in the table at that moment; and every block ever allocated is in the table, or
held by exactly one call in flight, or has been freed exactly once, and only one of these. -/
theorem context_table_invariant (h : Reachable s) :
    (s.linked.map s.key).Nodup ∧
    (∀ i, ∀ b ∈ s.contextHashTable i, (s.key b).toNat % 1021 = i.val) ∧
    s.trackedPidCount.toNat = s.linked.length ∧
    (∀ a ∈ s.accesses, a.block ∈ Chained.entries a.table) ∧
    ∀ b < s.allocated,
      (b ∈ s.linked ∧ (∀ c, s.holds c ≠ some b) ∧ s.freed.count b = 0) ∨
      (b ∉ s.linked ∧ (∃! c, s.holds c = some b) ∧ s.freed.count b = 0) ∨
      (b ∉ s.linked ∧ (∀ c, s.holds c ≠ some b) ∧ s.freed.count b = 1) := by
  have hinv := h.invariant
  obtain ⟨owner, hs⟩ := hinv.sound
  refine ⟨hs.valid.nodup_keys, ?_, hinv.counted, hs.accessed, ?_⟩
  · intro i b hb
    rw [← hs.valid.home i b hb, val_rsHashProcessId]
  · intro b hb
    have hwhere := hs.accounts.exactly_one hb
    simp only [Set.mem_ofPred] at hwhere
    exact hwhere

/-- Two calls for the same process, both of which find no context and allocate one. -/
def race : List Action :=
  let c (i : ℕ) : CallId := ⟨8, i⟩
  [.enter (c 0) none (.ofTicks 0), .enter (c 1) none (.ofTicks 0),
    .advance (c 0) .firstSection, .advance (c 1) .firstSection,
    .advance (c 0) (.allocate true), .advance (c 1) (.allocate true),
    .advance (c 0) .secondSection, .advance (c 1) .secondSection]

/-- The loser of the race has freed its context. -/
theorem context_table_invariant_race : ∃ s, machine.run State.init race = some s ∧
    s.allocated = 2 ∧ s.freed = [1] ∧ (s.linked.map s.key).Nodup ∧
    s.trackedPidCount.toNat = s.linked.length := by
  obtain ⟨s, hs, hcheck⟩ := machine.exists_of_any
    (fun s => decide (s.allocated = 2 ∧ s.freed = [1])) State.init race (by decide)
  obtain ⟨hallocated, hfreed⟩ := of_decide_eq_true hcheck
  have htable := context_table_invariant ⟨race, hs⟩
  exact ⟨s, hs, hallocated, hfreed, htable.1, htable.2.2.1⟩

end Pool

end RansomShield
