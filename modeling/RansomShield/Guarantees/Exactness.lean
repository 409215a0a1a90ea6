import RansomShield.System.Steps
import RansomShield.Tracker.Window

/-!
# Exactness of the sliding window

While the window is constant and the operations of a process are recorded in the order of their
times, the count that is compared with the threshold is the number of its recorded operations
within the window, up to the 256 entries of the ring (`recentCount_exact`).  The invariant is that
the ring retains the recent times of the log (`Process.Retention`).
-/

namespace RansomShield

/-- The times of a list of operations. -/
def logTimes (ops : List Operation) : List Int64 := ops.map fun op => op.time.ticks

/-- The number of operations whose time is at least `t` minus the window. -/
def countWithin (timeWindowTicks : Int64) (t : InterruptTime) (ops : List Operation) : ℕ :=
  ops.countP fun op => t.ticks.toInt - timeWindowTicks.toInt ≤ op.time.ticks.toInt

theorem nonneg_of_mem_logTimes {ops : List Operation} {x : Int64} (hx : x ∈ logTimes ops) :
    0 ≤ x := by
  obtain ⟨op, -, rfl⟩ := List.mem_map.1 hx
  exact op.time.nonneg

theorem countP_logTimes (w : Int64) (t : InterruptTime) (ops : List Operation) :
    (logTimes ops).countP (recent w t.ticks) = countWithin w t ops := by
  rw [logTimes, List.countP_map, countWithin]
  refine List.countP_congr ?_
  intro op _
  rw [Function.comp_apply, recent_iff t.nonneg op.time.nonneg, decide_eq_true_eq]

/-- The operations were recorded in the order of their times. -/
def InOrder (ops : List Operation) : Prop :=
  ops.Pairwise fun op op' => op.time.ticks ≤ op'.time.ticks

instance (ops : List Operation) : Decidable (InOrder ops) :=
  inferInstanceAs (Decidable (ops.Pairwise _))

theorem InOrder.ordered {ops : List Operation} (h : InOrder ops) : Ordered (logTimes ops) :=
  ⟨List.pairwise_map.2 h, fun _ => nonneg_of_mem_logTimes⟩

theorem InOrder.left {ops ops' : List Operation} (h : InOrder (ops ++ ops')) : InOrder ops :=
  (List.pairwise_append.1 h).1

/-! ### The window never is negative -/

theorem zero_le_windowTicks (seconds : UInt32) : 0 ≤ windowTicks seconds := by
  rw [Int64.le_iff_toInt_le, toInt_windowTicks]
  exact Int.mul_nonneg (Int.natCast_nonneg _) (by decide)

namespace Process

variable {p : UInt32} {s s' : State} {a : Action}

theorem window_step (h : 0 ≤ s.config.timeWindowTicks) (hstep : Step p s a s') :
    0 ≤ s'.config.timeWindowTicks := by
  cases hstep with
  | applyConfig threshold seconds monitoring =>
    show 0 ≤ (if 0 < seconds then windowTicks seconds else s.config.timeWindowTicks)
    split_ifs
    · exact zero_le_windowTicks seconds
    · exact h
  | enter | missing | allocate | outOfMemory | blocked | record | setMonitoring | remove => exact h

end Process

theorem zero_le_window {upcase : UInt16 → UInt16} {s : SystemState} (h : Reachable upcase s) :
    0 ≤ s.driver.config.timeWindowTicks := by
  obtain ⟨as, hrun⟩ := h
  have hview := Process.run_view 0 sound_init hrun
  exact Machine.run_invariant (I := fun s => 0 ≤ s.config.timeWindowTicks) hview
    (zero_le_windowTicks 10) fun _ _ _ hs _ hstep => Process.window_step hs (.of_step hstep)

/-! ### Retention -/

namespace Process

variable {p : UInt32} {s s' : State} {a : Action} {w : Int64}

/-- The ring retains those of the given times that were within the window at the last one. -/
def Retention (w : Int64) (times : List Int64) (s : State) : Prop :=
  ∀ ctx t, s.context = some ctx → t ∈ times.getLast? → Retains w t times ctx.valid

/-- The context in which a call records retains the times within the window at some time that is
not after the call. -/
theorem Retention.target {times : List Int64} (h : Retention w times s)
    (hnone : s.context = none → times = []) (hpos : ∀ x ∈ times, 0 ≤ x) {call : Call}
    {ctx : RsProcessContext} (hctx : Target p s call ctx)
    (hlast : ∀ x ∈ times, x ≤ call.currentTime.ticks) :
    ∃ t, 0 ≤ t ∧ t ≤ call.currentTime.ticks ∧ Retains w t times ctx.valid := by
  cases htimes : times.getLast? with
  | none =>
    rw [List.getLast?_eq_none_iff.1 htimes]
    exact ⟨call.currentTime.ticks, call.currentTime.nonneg, Int64.le_refl _, retains_nil _ _ _⟩
  | some t =>
    have hmem : t ∈ times := List.mem_of_getLast? htimes
    rcases hctx with hctx | ⟨hctx, -⟩
    · exact ⟨t, hpos t hmem, hlast t hmem, h ctx t hctx htimes⟩
    · rw [hnone hctx] at hmem
      cases hmem

/-- **What recording does to a ring** that retains the recent times. -/
theorem Retention.retains_record {times : List Int64}
    (h : Retention s.config.timeWindowTicks times s) (hnone : s.context = none → times = [])
    (hw : 0 ≤ s.config.timeWindowTicks) {call : Call} {ctx : RsProcessContext}
    (hctx : Target p s call ctx) (horder : Ordered (times ++ [call.currentTime.ticks])) :
    Retains s.config.timeWindowTicks call.currentTime.ticks (times ++ [call.currentTime.ticks])
      (evaluation s call ctx).context.valid := by
  have hpos : ∀ x ∈ times, 0 ≤ x := fun x hx => horder.2 x (List.mem_append_left _ hx)
  have hsplit := List.pairwise_append.1 horder.1
  obtain ⟨t, ht, htt, hret⟩ := h.target hnone hpos hctx fun x hx =>
    hsplit.2.2 x hx _ (List.mem_singleton_self _)
  rw [evaluation, valid_recordAndEvaluate]
  exact hret.slide hw ht htt ⟨hsplit.1, hpos⟩

theorem Ledger.times_of_none (h : Ledger p s) (hnone : s.context = none) : logTimes s.log = [] := by
  rw [h.context_none.1 hnone]
  rfl

theorem logTimes_recordedState (s : State) (i : ℕ) (call : Call) (ctx : RsProcessContext) :
    logTimes (recordedState p s i call ctx).log =
      logTimes s.log ++ [call.currentTime.ticks] := List.map_append

/-- **Every step keeps the recent times**, as long as the window does not change. -/
theorem Retention.step (h : InOrder s.log → Retention w (logTimes s.log) s) (hledger : Ledger p s)
    (hw : 0 ≤ w) (hwindow : s.config.timeWindowTicks = w) (hstep : Step p s a s')
    (horder : InOrder s'.log) : Retention w (logTimes s'.log) s' := by
  cases hstep with
  | record a i call ctx hcall ha hctx hblocked =>
    subst hwindow
    rw [logTimes_recordedState]
    intro ctx' t hctx' ht
    cases hctx'
    rw [List.getLast?_concat] at ht
    cases ht
    have hordered := horder.ordered
    rw [logTimes_recordedState] at hordered
    exact (h horder.left).retains_record hledger.times_of_none hw hctx hordered
  | remove => exact fun _ _ hctx => by cases hctx
  | enter | missing | allocate | outOfMemory | blocked | applyConfig | setMonitoring =>
    exact h horder

/-- **A threshold check counts exactly**, when the ring retains the recent times. -/
theorem Retention.toNat_recentCount (h : Retention s.config.timeWindowTicks (logTimes s.log) s)
    (hledger : Ledger p s) (hw : 0 ≤ s.config.timeWindowTicks) {i : ℕ} {call : Call}
    {ctx : RsProcessContext} (hctx : Target p s call ctx)
    (horder : InOrder (recordedState p s i call ctx).log) :
    (evaluation s call ctx).recentCount.toNat =
      min rsMaxOperationsPerPid (countWithin s.config.timeWindowTicks call.currentTime
        (recordedState p s i call ctx).log) := by
  have hordered := horder.ordered
  rw [logTimes_recordedState] at hordered
  have hlow := h.retains_record hledger.times_of_none hw hctx hordered
  have hup := RsProcessContext.slide_sublist (w := s.config.timeWindowTicks)
    (t := call.currentTime.ticks) (hledger.target_valid hctx)
  rw [evaluation, valid_recordAndEvaluate] at hlow
  rw [evaluation, RansomShield.toNat_recentCount, ← countP_logTimes, logTimes_recordedState]
  exact countP_slide hup hlow

end Process

variable {upcase : UInt16 → UInt16} {s₀ s s' : SystemState} {as : List Action} {a : Action}

theorem retention_of_run {W : Int64} {p : UInt32} (hs₀ : Reachable upcase s₀)
    (hnew : rsLookupProcessContext s₀.driver p = none)
    (hrun : (system upcase).run s₀ as = some s)
    (hwindow : (system upcase).Always s₀ as fun s => s.driver.config.timeWindowTicks = W)
    (horder : InOrder (operationsOf p s.history)) :
    Process.Retention W (logTimes (operationsOf p s.history)) (Process.view p s) := by
  have hW : 0 ≤ W := hwindow.start ▸ zero_le_window hs₀
  -- the invariant speaks about the order of the log so far
  refine Process.run_induction_view
    (I := fun v => InOrder v.log → Process.Retention W (logTimes v.log) v) hs₀ hrun ?_ ?_ horder
  · intro _ ctx _ hctx
    cases hnew.symm.trans hctx
  · intro bs b t b' v hb ht hreach ih _ hcase
    exact Process.Retention.step ih (Process.ledger_of_reachable hreach p) hW
      (hwindow.before hb ht) hcase

/-- **Exactness of the sliding window.**  In every run in which the window is constant since the
process had no context, and its operations are recorded in the order of their times: when a call
reaches the threshold check, its count is the number of the recorded operations within the window
at its time, cut at the 256 entries of the ring; the call blocks exactly when monitoring is enabled
and this number reaches the threshold; and no arithmetic on the way overflows. -/
theorem recentCount_exact {W : Int64} {c : CallId} {call : Call} {r : RecordResult} {n : UInt32}
    (hs₀ : Reachable upcase s₀) (hnew : rsLookupProcessContext s₀.driver c.processId = none)
    (hrun : (system upcase).run s₀ as = some s)
    (hwindow : (system upcase).Always s₀ as fun s => s.driver.config.timeWindowTicks = W)
    (hstep : (system upcase).step s a = some s') (hcall : s.calls c = some call)
    (hbefore : s.result c = none) (hafter : s'.result c = some r) (hn : r.recentCount = some n)
    (horder : InOrder (operationsOf c.processId s'.history)) :
    n.toNat = min 256 (countWithin W call.currentTime (operationsOf c.processId s'.history)) ∧
      (r.shouldBlock = true ↔ s.driver.config.monitoringEnabled ≠ 0 ∧
        s.driver.config.fileCountThreshold.toNat ≤
          min 256 (countWithin W call.currentTime (operationsOf c.processId s'.history))) ∧
      ∃ ctx, (rsLookupProcessContext s.driver c.processId = some ctx ∨
          rsLookupProcessContext s.driver c.processId = none ∧
            ctx = rsCreateProcessContext c.processId call.processImageName) ∧
        ExactLoop ctx call.currentTime.ticks ∧
        ExactLoop (recordOperation s.driver.config ctx call.currentTime.ticks)
          call.currentTime.ticks := by
  have hs : Reachable upcase s := hs₀.run hrun
  have hledger := Process.ledger_of_reachable hs c.processId
  obtain ⟨pcall, ctx, step, -, hpcall, hctx, hblocked, hs', rfl⟩ :=
    Process.evaluated_of_step hs.sound hstep hbefore hafter hn
  obtain ⟨himage, htime⟩ := Process.of_view_calls hcall hpcall
  have hlog : operationsOf c.processId s'.history = (Process.recordedState c.processId
      (Process.view c.processId s) c.serial pcall ctx).log := congrArg Process.State.log hs'
  have hwin : (Process.view c.processId s).config.timeWindowTicks = W :=
    hwindow as s List.prefix_rfl hrun
  rw [hlog] at horder
  have hret := retention_of_run hs₀ hnew hrun hwindow horder.left
  rw [← hwin] at hret
  have hcount := hret.toNat_recentCount hledger (zero_le_window hs) hctx horder
  rw [hwin, htime, ← hlog] at hcount
  cases hn
  refine ⟨hcount, ?_, ctx, ?_, ?_, ?_⟩
  · rw [← hcount]
    have hiff := shouldBlock_iff s.driver.config ctx pcall.currentTime.ticks
    rw [UInt32.le_iff_toNat_le] at hiff
    exact hiff.trans ⟨fun h => ⟨h.2.2, h.1⟩, fun h => ⟨h.2, hblocked, h.1⟩⟩
  · rwa [← himage]
  · exact exactLoop call.currentTime.nonneg fun x hx =>
      nonneg_of_mem_logTimes ((hledger.target_valid hctx).subset hx)
  · refine exactLoop call.currentTime.nonneg ?_
    intro x hx
    rw [valid_recordOperation] at hx
    have hsub := RsProcessContext.slide_sublist (w := s.driver.config.timeWindowTicks)
      (t := call.currentTime.ticks) (hledger.target_valid hctx)
    rcases List.mem_append.1 (hsub.subset hx) with hx | hx
    · exact nonneg_of_mem_logTimes hx
    · rw [List.mem_singleton.1 hx]
      exact call.currentTime.nonneg

/-- A first operation of the process 8, and the start of a second one at the same time. -/
def twoOperations : List Action :=
  [.call ⟨8, 0⟩ none (.ofTicks 5), .advance ⟨8, 0⟩ .firstSection,
    .advance ⟨8, 0⟩ (.allocate true), .advance ⟨8, 0⟩ .secondSection,
    .call ⟨8, 1⟩ none (.ofTicks 5)]

/-- The threshold is 2 and the window one second: the second operation is blocked. -/
theorem recentCount_exact_two :
    ∃ s s' r, (system id).run
        { SystemState.init with driver := rsApplyConfig DriverState.init 2 1 1 } twoOperations =
          some s ∧
      (system id).step s (.advance ⟨8, 1⟩ .firstSection) = some s' ∧
      s'.result ⟨8, 1⟩ = some r ∧ r.shouldBlock = true ∧
      (2 : UInt32).toNat = min 256 (countWithin (windowTicks 1) (.ofTicks 5)
        (operationsOf 8 s'.history)) := by
  have hreach : Reachable id
      { SystemState.init with driver := rsApplyConfig DriverState.init 2 1 1 } :=
    ⟨[.control (.applyConfig 2 1 1)], rfl⟩
  have hwindow := Machine.always_of_check (system id)
    (fun s => decide (s.driver.config.timeWindowTicks = windowTicks 1))
    { SystemState.init with driver := rsApplyConfig DriverState.init 2 1 1 } twoOperations
    (by decide +kernel)
  obtain ⟨s, hrun, h⟩ := Machine.exists_of_any (system id)
    (fun s => (s.result ⟨8, 1⟩).isNone &&
      (s.calls ⟨8, 1⟩).any (fun call => call.currentTime = .ofTicks 5) &&
      ((system id).step s (.advance ⟨8, 1⟩ .firstSection)).any fun s' =>
        InOrder (operationsOf 8 s'.history) &&
        (s'.result ⟨8, 1⟩).any fun r => r.recentCount = some 2 && r.shouldBlock)
    { SystemState.init with driver := rsApplyConfig DriverState.init 2 1 1 } twoOperations
    (by decide +kernel)
  simp only [Bool.and_eq_true, Option.any_eq_true, decide_eq_true_eq,
    Option.isNone_iff_eq_none] at h
  obtain ⟨⟨hbefore, call, hcall, htime⟩, s', hstep, horder, r, hafter, hn, hblock⟩ := h
  refine ⟨s, s', r, hrun, hstep, hafter, hblock, ?_⟩
  rw [← htime]
  exact (recentCount_exact (W := windowTicks 1) hreach rfl hrun
    (fun bs t hbs ht => of_decide_eq_true (hwindow bs t hbs ht)) hstep hcall hbefore hafter hn
    horder).1

end RansomShield
