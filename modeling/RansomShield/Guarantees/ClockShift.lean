import RansomShield.Machine.Simulation
import RansomShield.System.Basic
import RansomShield.Table.Related
import RansomShield.Tracker.Lookup
import RansomShield.Tracker.Reports

/-!
# The clock may start anywhere

`KeQueryInterruptTime` counts from the boot of the system.  The driver subtracts times, in wrapping
`LONGLONG` arithmetic, and never uses one otherwise: when all times of a run are later by the same
number of ticks, every request ends as before, and only the timestamps in notifications and reports
are later by that number (`clock_shift`).

The second run is not a copy of the first one with later times: slots of a ring that were never
written hold zeros in both runs.  So the two runs are related (`SystemState.Shifted`), by the valid
entries of the rings; `shifted_recordAndEvaluate` is the step that records an operation.
-/

namespace RansomShield

variable (d : Int64)

/-! ### Later times -/

/-- A notification with a later time. -/
def BlockNotification.shift (n : BlockNotification) : BlockNotification :=
  { n with blockedTimestamp := n.blockedTimestamp + d }

def RecordResult.shift (r : RecordResult) : RecordResult :=
  { r with notification := r.notification.map (BlockNotification.shift d) }

def RsNotificationBlockedPid.shift (n : RsNotificationBlockedPid) : RsNotificationBlockedPid :=
  { n with blockedTimestamp := n.blockedTimestamp + d }

def RsBlockedPidEntry.shift (e : RsBlockedPidEntry) : RsBlockedPidEntry :=
  { e with blockedTimestamp := e.blockedTimestamp + d }

theorem age_shift (t x : Int64) : t + d - (x + d) = t - x := by grind

theorem slide_shift (w : Int64) (entries : List Int64) (t : Int64) :
    RsProcessContext.slide w (entries.map (· + d)) (t + d) =
      (RsProcessContext.slide w entries t).map (· + d) := by
  have hage : ((fun x => decide (t + d - x ≤ w)) ∘ (· + d)) = fun x => decide (t - x ≤ w) := by
    funext x
    exact congrArg (fun age => decide (age ≤ w)) (age_shift d t x)
  unfold RsProcessContext.slide
  rw [List.filter_map, hage]
  simp [List.rtake_eq_reverse_take_reverse, List.map_take]

/-! ### Contexts -/

/-- The context in the run with later times. -/
structure RsProcessContext.Shifted (ctx ctx' : RsProcessContext) : Prop where
  processId : ctx'.processId = ctx.processId
  imageName : ctx'.imageName = ctx.imageName
  isBlocked : ctx'.isBlocked = ctx.isBlocked
  valid : ctx'.valid = ctx.valid.map (· + d)
  blockedTimestamp : ctx.isBlocked = true → ctx'.blockedTimestamp = ctx.blockedTimestamp + d

/-- The evaluation in the run with later times. -/
structure Evaluation.Shifted (e e' : Evaluation) : Prop where
  context : e.context.Shifted d e'.context
  recentCount : e'.recentCount = e.recentCount
  shouldBlock : e'.shouldBlock = e.shouldBlock
  blocked : e.shouldBlock = true → e.context.isBlocked = true

/-- The end of a locked section in the run with later times. -/
inductive SectionResult.Shifted : SectionResult → SectionResult → Prop
  | missing : Shifted .missing .missing
  | alreadyBlocked : Shifted .alreadyBlocked .alreadyBlocked
  | evaluated {e e' : Evaluation} (h : e.Shifted d e') : Shifted (.evaluated e) (.evaluated e')

variable {d}

theorem shifted_rsCreateProcessContext (p : UInt32) (image : Option UnicodeString) :
    (rsCreateProcessContext p image).Shifted d (rsCreateProcessContext p image) where
  processId := rfl
  imageName := rfl
  isBlocked := rfl
  valid := by rw [RsProcessContext.valid_rsCreateProcessContext, List.map_nil]
  blockedTimestamp h := by cases h

theorem recordAndEvaluate_blockedTimestamp (cfg : RsConfig) (ctx : RsProcessContext) (t : Int64) :
    (recordAndEvaluate cfg ctx t).context.blockedTimestamp =
      if (recordAndEvaluate cfg ctx t).shouldBlock then t else ctx.blockedTimestamp := by
  have hrecord : (recordOperation cfg ctx t).blockedTimestamp = ctx.blockedTimestamp := by
    unfold recordOperation recordTimestamp rsPruneOldOperations
    split_ifs <;> rfl
  rw [recordAndEvaluate_eq]
  simp only []
  split_ifs <;> first | rfl | exact hrecord | contradiction

/-- **Recording an operation, later**: the count and the verdict are the same. -/
theorem shifted_recordAndEvaluate {ctx ctx' : RsProcessContext} (h : ctx.Shifted d ctx')
    (cfg : RsConfig) (t : Int64) :
    (recordAndEvaluate cfg ctx t).Shifted d (recordAndEvaluate cfg ctx' (t + d)) := by
  have hvalid : (recordAndEvaluate cfg ctx' (t + d)).context.valid =
      (recordAndEvaluate cfg ctx t).context.valid.map (· + d) := by
    rw [valid_recordAndEvaluate, valid_recordAndEvaluate, h.valid, slide_shift]
  have hcount : (recordAndEvaluate cfg ctx' (t + d)).recentCount =
      (recordAndEvaluate cfg ctx t).recentCount := by
    apply UInt32.toNat_inj.1
    rw [toNat_recentCount, toNat_recentCount, h.valid, slide_shift, List.countP_map]
    congr 1
    funext x
    exact congrArg (fun age => decide (age ≤ cfg.timeWindowTicks)) (age_shift d t x)
  have hblock : (recordAndEvaluate cfg ctx' (t + d)).shouldBlock =
      (recordAndEvaluate cfg ctx t).shouldBlock := by
    rw [Bool.eq_iff_iff, shouldBlock_iff, shouldBlock_iff, hcount, h.isBlocked]
  refine ⟨⟨?_, ?_, ?_, hvalid, fun hblocked => ?_⟩, hcount, hblock, fun hshould => ?_⟩
  · rw [recordAndEvaluate_processId, recordAndEvaluate_processId, h.processId]
  · rw [recordAndEvaluate_imageName, recordAndEvaluate_imageName, h.imageName]
  · rw [recordAndEvaluate_isBlocked, recordAndEvaluate_isBlocked, h.isBlocked, hblock]
  · rw [recordAndEvaluate_blockedTimestamp, recordAndEvaluate_blockedTimestamp, hblock]
    rw [recordAndEvaluate_isBlocked] at hblocked
    split_ifs with hshould
    · rfl
    · rw [Bool.eq_false_iff.2 hshould, Bool.or_false] at hblocked
      exact h.blockedTimestamp hblocked
  · rw [recordAndEvaluate_isBlocked, hshould, Bool.or_true]

theorem RsProcessContext.Shifted.operationCount {ctx ctx' : RsProcessContext}
    (h : ctx.Shifted d ctx') : ctx'.operationCount = ctx.operationCount := by
  apply Subtype.ext
  apply UInt32.toNat_inj.1
  rw [← RsProcessContext.length_valid, ← RsProcessContext.length_valid, h.valid, List.length_map]

theorem RsProcessContext.Shifted.blockedEntry {ctx ctx' : RsProcessContext}
    (h : ctx.Shifted d ctx') (hblocked : ctx.isBlocked = true) :
    ctx'.blockedEntry = ctx.blockedEntry.shift d := by
  rw [RsProcessContext.blockedEntry, h.processId, h.imageName, h.operationCount,
    h.blockedTimestamp hblocked]
  rfl

section

variable {l l' : List RsProcessContext} (h : List.Forall₂ (RsProcessContext.Shifted d) l l')
include h

theorem blockedEntries_shift :
    (l'.filter RsProcessContext.isBlocked).map RsProcessContext.blockedEntry =
      ((l.filter RsProcessContext.isBlocked).map RsProcessContext.blockedEntry).map
        (RsBlockedPidEntry.shift d) := by
  induction h with
  | nil => rfl
  | cons hctx _ ih =>
    rw [List.filter_cons, List.filter_cons, hctx.isBlocked]
    split_ifs with hblocked
    · rw [List.map_cons, List.map_cons, List.map_cons, ih, hctx.blockedEntry hblocked]
    · exact ih

theorem countBlocked_shift (count : UInt32) :
    l'.foldl (fun count ctx => if ctx.isBlocked then count + 1 else count) count =
      l.foldl (fun count ctx => if ctx.isBlocked then count + 1 else count) count := by
  induction h generalizing count with
  | nil => rfl
  | cons hctx _ ih => rw [List.foldl_cons, List.foldl_cons, hctx.isBlocked, ih]

end

theorem Evaluation.Shifted.result {e e' : Evaluation} (h : e.Shifted d e') (p : UInt32) :
    e'.result p = (e.result p).shift d := by
  unfold Evaluation.result RecordResult.shift
  rw [h.recentCount, h.shouldBlock]
  split_ifs with hshould
  · rw [h.context.imageName, h.context.blockedTimestamp (h.blocked hshould)]
    rfl
  · rfl

/-! ### The driver -/

/-- The driver in the run with later times: the same globals, and the same contexts, later. -/
def DriverState.Shifted (d : Int64) (s s' : DriverState) : Prop :=
  ∃ T, Chained.Related (RsProcessContext.Shifted d) s.contextHashTable T ∧
    s' = { s with contextHashTable := T }

variable {s s' : DriverState}

namespace DriverState.Shifted

theorem config (h : s.Shifted d s') : s'.config = s.config := by
  obtain ⟨T, -, rfl⟩ := h
  rfl

theorem clientPort (h : s.Shifted d s') : s'.clientPort = s.clientPort := by
  obtain ⟨T, -, rfl⟩ := h
  rfl

theorem messageSequence (h : s.Shifted d s') : s'.messageSequence = s.messageSequence := by
  obtain ⟨T, -, rfl⟩ := h
  rfl

theorem globals (h : s.Shifted d s') (f : DriverState → DriverState)
    (hf : ∀ s T, f { s with contextHashTable := T } = { f s with contextHashTable := T }) :
    (f s).Shifted d (f s') := by
  obtain ⟨T, hT, rfl⟩ := h
  refine ⟨T, ?_, hf s T⟩
  have hs : f s = { f s with contextHashTable := s.contextHashTable } := hf s s.contextHashTable
  rw [hs]
  exact hT

theorem lookup (h : s.Shifted d s') (p : UInt32) :
    (rsLookupProcessContext s p = none ∧ rsLookupProcessContext s' p = none) ∨
      ∃ ctx ctx', rsLookupProcessContext s p = some ctx ∧
        rsLookupProcessContext s' p = some ctx' ∧ ctx.Shifted d ctx' := by
  obtain ⟨T, hT, rfl⟩ := h
  exact hT.lookup (fun _ _ hctx => hctx.processId.symm) p

theorem storeContext (h : s.Shifted d s') (p : UInt32) {ctx ctx' : RsProcessContext}
    (hctx : ctx.Shifted d ctx') : (s.storeContext p ctx).Shifted d (s'.storeContext p ctx') := by
  obtain ⟨T, hT, rfl⟩ := h
  exact ⟨_, hT.modify (fun _ _ hctx => hctx.processId.symm) p fun _ _ _ => hctx, rfl⟩

theorem insertContext (h : s.Shifted d s') {ctx ctx' : RsProcessContext}
    (hctx : ctx.Shifted d ctx') : (s.insertContext ctx).Shifted d (s'.insertContext ctx') := by
  obtain ⟨T, hT, rfl⟩ := h
  exact ⟨_, hT.insert (fun _ _ hctx => hctx.processId.symm) hctx, rfl⟩

theorem removeProcessContext (h : s.Shifted d s') (p : UInt32) :
    (rsRemoveProcessContext s p).Shifted d (rsRemoveProcessContext s' p) := by
  obtain ⟨hnone, hnone'⟩ | ⟨ctx, ctx', hctx, hctx', -⟩ := h.lookup p
  · rw [rsRemoveProcessContext, rsRemoveProcessContext, hnone, hnone']
    exact h
  · rw [rsRemoveProcessContext, rsRemoveProcessContext, hctx, hctx']
    obtain ⟨T, hT, rfl⟩ := h
    exact ⟨_, hT.erase (fun _ _ hctx => hctx.processId.symm) p, rfl⟩

theorem recordInContext (h : s.Shifted d s') (p : UInt32) {ctx ctx' : RsProcessContext}
    (hctx : ctx.Shifted d ctx') (t : Int64) :
    (recordInContext s p ctx t).1.Shifted d (recordInContext s' p ctx' (t + d)).1 ∧
      (RansomShield.recordInContext s p ctx t).2.Shifted d
        (RansomShield.recordInContext s' p ctx' (t + d)).2 := by
  unfold RansomShield.recordInContext
  rw [hctx.isBlocked]
  split_ifs
  · exact ⟨h, .alreadyBlocked⟩
  · have heval := shifted_recordAndEvaluate hctx s.config t
    rw [h.config]
    exact ⟨h.storeContext p heval.context, .evaluated heval⟩

theorem recordFirstSection (h : s.Shifted d s') (p : UInt32) (t : Int64) :
    (recordFirstSection s p t).1.Shifted d (recordFirstSection s' p (t + d)).1 ∧
      (RansomShield.recordFirstSection s p t).2.Shifted d
        (RansomShield.recordFirstSection s' p (t + d)).2 := by
  unfold RansomShield.recordFirstSection
  obtain ⟨hnone, hnone'⟩ | ⟨ctx, ctx', hctx, hctx', hrel⟩ := h.lookup p
  · rw [hnone, hnone']
    exact ⟨h, .missing⟩
  · rw [hctx, hctx']
    exact h.recordInContext p hrel t

theorem recordSecondSection (h : s.Shifted d s') {newContext newContext' : RsProcessContext}
    (hnew : newContext.Shifted d newContext') (p : UInt32) (t : Int64) :
    (recordSecondSection s newContext p t).1.Shifted d
        (recordSecondSection s' newContext' p (t + d)).1 ∧
      (RansomShield.recordSecondSection s newContext p t).2.Shifted d
        (RansomShield.recordSecondSection s' newContext' p (t + d)).2 := by
  unfold RansomShield.recordSecondSection
  obtain ⟨hnone, hnone'⟩ | ⟨ctx, ctx', hctx, hctx', hrel⟩ := h.lookup p
  · have heval := shifted_recordAndEvaluate hnew s.config t
    rw [hnone, hnone', h.config]
    exact ⟨(h.insertContext hnew).storeContext p heval.context, .evaluated heval⟩
  · rw [hctx, hctx']
    exact h.recordInContext p hrel t

/-- The other locked sections do not use times. -/
theorem control (h : s.Shifted d s') (k : Control) : (k.apply s).Shifted d (k.apply s') := by
  have hglobals := h.globals fun s => k.apply s
  cases k with
  | removeProcessContext p => exact h.removeProcessContext p
  | getBlockedPids | getPidCounts => exact h
  | addDynamicAllowlistEntry entry =>
    refine hglobals fun s T => ?_
    dsimp only [Control.apply]
    unfold rsAddDynamicAllowlistEntry
    split_ifs <;> rfl
  | applyConfig | setMonitoring | clearDynamicAllowlist | drawSequence | connect | disconnect =>
    exact hglobals fun _ _ => rfl

/-! ### Reports -/

/-- **The report of the blocked processes**, later. -/
theorem rsGetBlockedPids (h : s.Shifted d s') (maxEntries : ℕ) :
    rsGetBlockedPids s' maxEntries =
      (RansomShield.rsGetBlockedPids s maxEntries).map (RsBlockedPidEntry.shift d) := by
  obtain ⟨T, hT, rfl⟩ := h
  rw [rsGetBlockedPids_eq, rsGetBlockedPids_eq, List.map_take, blockedEntries_shift hT.entries]

theorem rsGetPidCounts (h : s.Shifted d s') :
    rsGetPidCounts s' = RansomShield.rsGetPidCounts s := by
  obtain ⟨T, hT, rfl⟩ := h
  refine Prod.ext rfl ?_
  dsimp only [RansomShield.rsGetPidCounts]
  rw [← List.foldl_flatMap, ← List.foldl_flatMap]
  exact countBlocked_shift hT.entries 0

end DriverState.Shifted

/-! ### Calls -/

/-- A call in the run with later times. -/
inductive CallPhase.Shifted (d : Int64) : CallPhase → CallPhase → Prop
  | passed : Shifted d .passed .passed
  | entered : Shifted d .entered .entered
  | allocating : Shifted d .allocating .allocating
  | allocated {ctx ctx' : RsProcessContext} (h : ctx.Shifted d ctx') :
    Shifted d (.allocated ctx) (.allocated ctx')
  | notifying (r : RecordResult) (n : BlockNotification) :
    Shifted d (.notifying r n) (.notifying (r.shift d) (n.shift d))
  | drawing (r : RecordResult) (n : BlockNotification) (port : PortHandle) :
    Shifted d (.drawing r n port) (.drawing (r.shift d) (n.shift d) port)
  | sending (r : RecordResult) (port : PortHandle) (m : RsNotificationBlockedPid) :
    Shifted d (.sending r port m) (.sending (r.shift d) port (m.shift d))
  | returned (r : RecordResult) : Shifted d (.returned r) (.returned (r.shift d))

structure Call.Shifted (d : Int64) (call call' : Call) : Prop where
  request : call'.request = call.request
  processImageName : call'.processImageName = call.processImageName
  currentTime : call'.currentTime.ticks = call.currentTime.ticks + d
  phase : call.phase.Shifted d call'.phase

variable {call call' : Call}

theorem Call.Shifted.completion (h : call.Shifted d call') :
    call'.completion = call.completion := by
  obtain ⟨request, processImageName, currentTime, phase⟩ := call
  obtain ⟨request', processImageName', currentTime', phase'⟩ := call'
  obtain ⟨hrequest, -, -, hphase⟩ := h
  dsimp only at hrequest hphase
  subst hrequest
  cases hphase <;> cases request' <;> rfl

theorem Call.Shifted.result (h : call.Shifted d call') :
    call'.phase.result = call.phase.result.map (RecordResult.shift d) := by
  have hphase := h.phase
  revert hphase
  generalize call.phase = phase
  generalize call'.phase = phase'
  intro hphase
  cases hphase <;> rfl

/-- **The state in the run with later times.** -/
structure SystemState.Shifted (d : Int64) (s s' : SystemState) : Prop where
  driver : s.driver.Shifted d s'.driver
  calls : ∀ c, Option.Rel (Call.Shifted d) (s.calls c) (s'.calls c)
  sent : s'.sent = s.sent.map fun m => (m.1, m.2.shift d)

/-- The same action, later. -/
inductive Action.Shifted (d : Int64) : Action → Action → Prop
  | pass (c : CallId) (data : FltCallbackData) (t : InterruptTime)
      (ht : t.ticks = data.interruptTime.ticks + d) :
    Shifted d (.pass c data) (.pass c { data with interruptTime := t })
  | track (c : CallId) (data : FltCallbackData) (t : InterruptTime)
      (ht : t.ticks = data.interruptTime.ticks + d) :
    Shifted d (.track c data) (.track c { data with interruptTime := t })
  | call (c : CallId) (processImageName : Option UnicodeString) (t t' : InterruptTime)
      (ht : t'.ticks = t.ticks + d) :
    Shifted d (.call c processImageName t) (.call c processImageName t')
  | advance (c : CallId) (step : CallStep) : Shifted d (.advance c step) (.advance c step)
  | control (k : Control) : Shifted d (.control k) (.control k)

/-! ### Steps -/

theorem SectionResult.Shifted.phase {r r' : SectionResult} (h : r.Shifted d r') (p : UInt32) :
    (r.phase p).Shifted d (r'.phase p) := by
  cases h with
  | missing => exact .allocating
  | alreadyBlocked => exact .returned RecordResult.blocked
  | @evaluated e e' he =>
    unfold SectionResult.phase SectionResult.result
    dsimp only
    have hnotification : ((e.result p).shift d).notification =
        (e.result p).notification.map (BlockNotification.shift d) := rfl
    rw [he.result p, hnotification]
    cases (e.result p).notification with
    | none => exact .returned _
    | some n => exact .notifying _ n

theorem passes_shift (upcase : UInt16 → UInt16) (h : s.Shifted d s') (data : FltCallbackData)
    (t : InterruptTime) :
    ({ data with interruptTime := t } : FltCallbackData).passes upcase s' =
      data.passes upcase s := by
  obtain ⟨T, -, rfl⟩ := h
  rfl

namespace SystemState.Shifted

variable {upcase : UInt16 → UInt16} {s s' u : SystemState} {c : CallId} {call call' : Call}

theorem update (h : s.Shifted d s') (c : CallId) (hcall : call.Shifted d call') (c' : CallId) :
    Option.Rel (Call.Shifted d) (Function.update s.calls c (some call) c')
      (Function.update s'.calls c (some call') c') := by
  by_cases hc : c' = c
  · subst hc
    rw [Function.update_self, Function.update_self]
    exact .some hcall
  · rw [Function.update_of_ne hc, Function.update_of_ne hc]
    exact h.calls c'

theorem isNone_calls (h : s.Shifted d s') (c : CallId) :
    (s'.calls c).isNone = (s.calls c).isNone := by
  have hrel := h.calls c
  revert hrel
  generalize s.calls c = x
  generalize s'.calls c = y
  rintro (- | -) <;> rfl

theorem start (h : s.Shifted d s') (c : CallId) (hcall : call.Shifted d call') :
    (s.start c call).Shifted d (s'.start c call') :=
  ⟨h.driver, h.update c hcall, h.sent⟩

theorem setPhase (h : s.Shifted d s') (c : CallId) (hcall : call.Shifted d call')
    {phase phase' : CallPhase} (hphase : phase.Shifted d phase') :
    (s.setPhase c call phase).Shifted d (s'.setPhase c call' phase') :=
  ⟨h.driver,
    h.update c ⟨hcall.request, hcall.processImageName, hcall.currentTime, hphase⟩, h.sent⟩

theorem endSection (h : s.Shifted d s') (c : CallId) (hcall : call.Shifted d call')
    {outcome outcome' : DriverState × SectionResult} (hdriver : outcome.1.Shifted d outcome'.1)
    (hresult : outcome.2.Shifted d outcome'.2) :
    (s.endSection c call outcome).Shifted d (s'.endSection c call' outcome') :=
  ⟨hdriver,
    h.update c ⟨hcall.request, hcall.processImageName, hcall.currentTime, hresult.phase _⟩, h.sent⟩

/-- **A step of a call**, later. -/
theorem callStep (h : s.Shifted d s') (hcall : call.Shifted d call') {step : CallStep}
    (hstep : callStep s c call step = some u) :
    ∃ u', RansomShield.callStep s' c call' step = some u' ∧ u.Shifted d u' := by
  obtain ⟨request, processImageName, currentTime, phase⟩ := call
  obtain ⟨request', processImageName', currentTime', phase'⟩ := call'
  have hcall' := hcall
  obtain ⟨hrequest, himage, htime, hphase⟩ := hcall'
  dsimp only at hrequest himage htime hphase
  subst hrequest himage
  unfold RansomShield.callStep at hstep ⊢
  split at hstep
  · next heq =>
    cases heq
    cases hphase
    cases hstep
    have hsection := h.driver.recordFirstSection c.processId currentTime.ticks
    rw [← htime] at hsection
    exact ⟨_, rfl, h.endSection c hcall hsection.1 hsection.2⟩
  · next heq =>
    cases heq
    cases hphase
    cases hstep
    exact ⟨_, rfl, h.setPhase c hcall (.allocated (shifted_rsCreateProcessContext _ _))⟩
  · next heq =>
    cases heq
    cases hphase
    cases hstep
    exact ⟨_, rfl, h.setPhase c hcall (.returned RecordResult.outOfMemory)⟩
  · next newContext heq =>
    cases heq
    cases hphase with
    | allocated hnew =>
      cases hstep
      have hsection := h.driver.recordSecondSection hnew c.processId currentTime.ticks
      rw [← htime] at hsection
      exact ⟨_, rfl, h.endSection c hcall hsection.1 hsection.2⟩
  · next result n heq =>
    cases heq
    cases hphase
    dsimp only
    rw [h.driver.clientPort]
    cases hport : s.driver.clientPort with
    | none =>
      rw [hport] at hstep
      cases hstep
      exact ⟨_, rfl, h.setPhase c hcall (.returned result)⟩
    | some port =>
      rw [hport] at hstep
      cases hstep
      exact ⟨_, rfl, h.setPhase c hcall (.drawing result n port)⟩
  · next result n port heq =>
    cases heq
    cases hphase
    cases hstep
    have hset := h.setPhase c hcall
      (.sending result port (n.message s.driver.messageSequence))
    refine ⟨_, rfl, h.driver.control .drawSequence, ?_, hset.sent⟩
    rw [h.driver.messageSequence]
    exact hset.calls
  · next result port notification heq =>
    cases heq
    cases hphase
    cases hstep
    have hset := h.setPhase c hcall (.returned result)
    refine ⟨_, rfl, hset.driver, hset.calls, ?_⟩
    dsimp only
    rw [h.sent, List.map_append]
    rfl
  · cases hstep

/-- **A step of the driver**, later. -/
theorem step (h : s.Shifted d s') {a a' : Action} (ha : a.Shifted d a')
    (hstep : (system upcase).step s a = some u) :
    ∃ u', (system upcase).step s' a' = some u' ∧ u.Shifted d u' := by
  cases ha with
  | pass c data t ht =>
    dsimp only [system] at hstep ⊢
    have haccepts : s'.accepts c { data with interruptTime := t } = s.accepts c data := by
      rw [SystemState.accepts, SystemState.accepts, h.isNone_calls]
    rw [haccepts, passes_shift upcase h.driver]
    split_ifs at hstep ⊢ with hpass
    cases hstep
    exact ⟨_, rfl, h.start c ⟨rfl, rfl, ht, .passed⟩⟩
  | track c data t ht =>
    dsimp only [system] at hstep ⊢
    have haccepts : s'.accepts c { data with interruptTime := t } = s.accepts c data := by
      rw [SystemState.accepts, SystemState.accepts, h.isNone_calls]
    rw [haccepts, passes_shift upcase h.driver]
    split_ifs at hstep ⊢ with hpass
    cases hstep
    exact ⟨_, rfl, h.start c ⟨rfl, rfl, ht, .entered⟩⟩
  | call c processImageName t t' ht =>
    dsimp only [system] at hstep ⊢
    rw [h.isNone_calls]
    split_ifs at hstep ⊢ with hnew
    cases hstep
    exact ⟨_, rfl, h.start c ⟨rfl, rfl, ht, .entered⟩⟩
  | advance c step =>
    obtain ⟨call, hcall, hcallStep⟩ := Option.bind_eq_some_iff.1 hstep
    have hrel := h.calls c
    rw [hcall] at hrel
    obtain ⟨call', hcall', hshifted⟩ : ∃ call', s'.calls c = some call' ∧ call.Shifted d call' := by
      revert hrel
      generalize s'.calls c = x
      rintro (hshifted | -)
      exact ⟨_, rfl, hshifted⟩
    obtain ⟨u', hu', hrel'⟩ := h.callStep hshifted hcallStep
    refine ⟨u', ?_, hrel'⟩
    dsimp only [system]
    rw [hcall', Option.bind_some]
    exact hu'
  | control k =>
    cases hstep
    exact ⟨_, rfl, h.driver.control k, h.calls, h.sent⟩

end SystemState.Shifted

/-! ### Runs -/

theorem shifted_init : SystemState.Shifted d .init .init where
  driver := ⟨_, Chained.related_empty, rfl⟩
  calls _ := .none
  sent := rfl

/-- **The clock may start anywhere.**  When all times of a run are later by `d` ticks, the same
steps are possible, every call and every callback ends as before, with the same count of recent
operations, the same messages are sent and the same processes reported; the timestamps of blocks are
later by `d`. -/
theorem clock_shift (upcase : UInt16 → UInt16) (d : Int64) (as bs : List Action) (s : SystemState)
    (hbs : List.Forall₂ (Action.Shifted d) as bs)
    (hrun : (system upcase).run .init as = some s) :
    ∃ t, (system upcase).run .init bs = some t ∧
      (∀ c, (t.calls c).bind Call.completion = (s.calls c).bind Call.completion) ∧
      (∀ c, t.result c = (s.result c).map (RecordResult.shift d)) ∧
      (t.sent = s.sent.map fun m => (m.1, m.2.shift d)) ∧
      (∀ n, rsGetBlockedPids t.driver n =
        (rsGetBlockedPids s.driver n).map (RsBlockedPidEntry.shift d)) ∧
      rsGetPidCounts t.driver = rsGetPidCounts s.driver := by
  obtain ⟨t, hrun', h⟩ := Machine.run_forall₂ (R := SystemState.Shifted d)
    (fun _ _ _ _ _ hs ha hstep => hs.step ha hstep) shifted_init hbs hrun
  refine ⟨t, hrun', fun c => ?_, fun c => ?_, h.sent, h.driver.rsGetBlockedPids,
    h.driver.rsGetPidCounts⟩
  · have hrel := h.calls c
    revert hrel
    generalize s.calls c = x
    generalize t.calls c = y
    rintro (hcall | -)
    · exact hcall.completion
    · rfl
  · have hrel := h.calls c
    unfold SystemState.result
    revert hrel
    generalize s.calls c = x
    generalize t.calls c = y
    rintro (hcall | -)
    · exact hcall.result
    · rfl

/-- A process writes twice, `t` ticks after the boot, and is blocked. -/
def twoWrites (t : ℕ) : List Action :=
  [.control (.connect 3), .control (.applyConfig 2 1 1),
    .call ⟨8, 0⟩ none (.ofTicks t), .advance ⟨8, 0⟩ .firstSection,
    .advance ⟨8, 0⟩ (.allocate true), .advance ⟨8, 0⟩ .secondSection,
    .call ⟨8, 1⟩ none (.ofTicks (t + 5)), .advance ⟨8, 1⟩ .firstSection,
    .advance ⟨8, 1⟩ .snapshotPort, .advance ⟨8, 1⟩ .drawSequence, .advance ⟨8, 1⟩ .sendMessage]

theorem clock_shift_twoWrites :
    ∃ s t, (system id).run .init (twoWrites 0) = some s ∧ s.sent.length = 1 ∧
      (system id).run .init (twoWrites (2 ^ 62)) = some t ∧
      t.sent = s.sent.map fun m => (m.1, m.2.shift (2 ^ 62)) := by
  obtain ⟨s, hrun, h⟩ := Machine.exists_of_any (system id)
    (fun s => decide (s.sent.length = 1)) SystemState.init (twoWrites 0) (by decide +kernel)
  have hbs : List.Forall₂ (Action.Shifted (2 ^ 62)) (twoWrites 0) (twoWrites (2 ^ 62)) := by
    refine .cons (.control _) (.cons (.control _) (.cons (.call _ _ _ _ (by decide +kernel)) ?_))
    refine .cons (.advance _ _) (.cons (.advance _ _) (.cons (.advance _ _) ?_))
    refine .cons (.call _ _ _ _ (by decide +kernel)) (.cons (.advance _ _) ?_)
    exact .cons (.advance _ _) (.cons (.advance _ _) (.cons (.advance _ _) .nil))
  obtain ⟨t, hrun', -, -, hsent, -⟩ := clock_shift id (2 ^ 62) _ _ s hbs hrun
  exact ⟨s, t, hrun, of_decide_eq_true h, hrun', hsent⟩

end RansomShield
