import RansomShield.Guarantees.Exactness
import Mathlib.Data.Finset.Card

/-!
# No false block

Whatever the interleaving, the order of the times and the changes of the configuration: a process
is blocked only when enough distinct calls have recorded an operation within the window
(`block_justified`).  The ring holds times of logged operations, each at most once, so that it
cannot count a stale slot, a pruned entry or an operation twice.
-/

namespace RansomShield

/-- The process has a context, and it is blocked. -/
def DriverState.blocks (s : DriverState) (p : UInt32) : Bool :=
  (rsLookupProcessContext s p).any fun ctx => ctx.isBlocked

namespace Process

variable {p : UInt32} {s s' : State} {a : Action}

/-- The context is blocked. -/
def State.blocks (s : State) : Bool := s.context.any fun ctx => ctx.isBlocked

/-- **What blocks a process** is a call that reaches the threshold. -/
theorem Step.blocks (h : Step p s a s') (hbefore : s.blocks = false) (hafter : s'.blocks = true) :
    ∃ i call ctx, s.calls i = some call ∧ Locked a i call ∧ Target p s call ctx ∧
      ctx.isBlocked = false ∧ (evaluation s call ctx).shouldBlock = true ∧
      s' = recordedState p s i call ctx := by
  cases h with
  | record a i call ctx hcall ha hctx hblocked =>
    refine ⟨i, call, ctx, hcall, ha, hctx, hblocked, ?_, rfl⟩
    have hb : (evaluation s call ctx).context.isBlocked = true := hafter
    rwa [evaluation, recordAndEvaluate_isBlocked, hblocked, Bool.false_or] at hb
  | remove => cases hafter
  | enter | missing | allocate | outOfMemory | blocked | applyConfig | setMonitoring =>
    cases hbefore.symm.trans hafter

/-- The count compared with the threshold is at most the number of logged operations within the
window, in whatever order they were recorded. -/
theorem Ledger.recentCount_le (h : Ledger p s) {i : ℕ} {call : Call} {ctx : RsProcessContext}
    (hctx : Target p s call ctx) :
    (evaluation s call ctx).recentCount.toNat ≤ countWithin s.config.timeWindowTicks
      call.currentTime (recordedState p s i call ctx).log := by
  rw [evaluation, toNat_recentCount, ← countP_logTimes]
  refine List.Sublist.countP_le ?_
  show List.Sublist _ (logTimes (s.log ++ [_]))
  rw [logTimes, List.map_append]
  exact RsProcessContext.slide_sublist (h.target_valid hctx)

/-- The calls whose logged operations are within the window. -/
def callsWithin (w : Int64) (t : InterruptTime) (log : List Operation) : Finset CallId :=
  ((log.filter fun op => t.ticks.toInt - w.toInt ≤ op.time.ticks.toInt).map
    Operation.call).toFinset

theorem Ledger.card_callsWithin (h : Ledger p s) (w : Int64) (t : InterruptTime) :
    (callsWithin w t s.log).card = countWithin w t s.log := by
  have hnodup : ((s.log.filter fun op => t.ticks.toInt - w.toInt ≤ op.time.ticks.toInt).map
      Operation.call).Nodup := h.nodup.sublist (List.filter_sublist.map _)
  rw [callsWithin, List.toFinset_card_of_nodup hnodup, List.length_map, countWithin,
    List.countP_eq_length_filter]

end Process

variable {upcase : UInt16 → UInt16} {s s' : SystemState} {a : Action} {p : UInt32}

theorem call_of_mem_operationsOf (hs : Reachable upcase s) {op : Operation}
    (hop : op ∈ operationsOf p s.history) :
    op.call.processId = p ∧ (s.calls op.call).map Call.currentTime = some op.time := by
  obtain ⟨pcall, e, hpcall, -, hopeq⟩ := (Process.ledger_of_reachable hs p).logged op hop
  have hid : op.call = ⟨p, op.call.serial⟩ := congrArg Operation.call hopeq
  have htime : op.time = pcall.currentTime := congrArg Operation.time hopeq
  obtain ⟨call, hcall⟩ := Process.exists_of_view_calls hpcall
  rw [hid, hcall, htime, (Process.of_view_calls hcall hpcall).2]
  exact ⟨rfl, rfl⟩

/-- **No false block.**  In every interleaving, with the configuration changing at any time:
whenever a step blocks a process that was not blocked, it is a locked section of one of its calls,
monitoring is enabled, and at least `FileCountThreshold` distinct calls of the process have recorded
an operation since its context was created, each at a time not before the time of the blocking call
minus the window. -/
theorem block_justified (hs : Reachable upcase s) (hstep : (system upcase).step s a = some s')
    (hbefore : s.driver.blocks p = false) (hafter : s'.driver.blocks p = true) :
    ∃ c step call, a = .advance c step ∧ c.processId = p ∧ s.calls c = some call ∧
      s.driver.config.monitoringEnabled ≠ 0 ∧
      ∃ justification : Finset CallId,
        s.driver.config.fileCountThreshold.toNat ≤ justification.card ∧
        ∀ d ∈ justification, d.processId = p ∧ ∃ op ∈ operationsOf p s'.history, op.call = d ∧
          (s'.calls d).map Call.currentTime = some op.time ∧
          call.currentTime.ticks.toInt - s.driver.config.timeWindowTicks.toInt ≤
            op.time.ticks.toInt := by
  have hs' : Reachable upcase s' := hs.step hstep
  rcases Process.view_cases hs.sound hstep p with hsame | ⟨b, hb, hcase⟩
  · have hblocks : s'.driver.blocks p = s.driver.blocks p :=
      congrArg Process.State.blocks hsame
    rw [hblocks, hbefore] at hafter
    cases hafter
  · obtain ⟨i, pcall, ctx, hpcall, hlocked, hctx, -, hblock, hview⟩ :=
      hcase.blocks hbefore hafter
    obtain ⟨step, -, ha⟩ := hlocked.advance hb
    obtain ⟨call, hcall⟩ := Process.exists_of_view_calls hpcall
    have htime := (Process.of_view_calls hcall hpcall).2
    obtain ⟨hthreshold, -, hmonitoring⟩ := (shouldBlock_iff _ _ _).1 hblock
    have hlog : operationsOf p s'.history =
        (Process.recordedState p (Process.view p s) i pcall ctx).log :=
      congrArg Process.State.log hview
    have hcard := (Process.ledger_of_reachable hs' p).card_callsWithin
      s.driver.config.timeWindowTicks call.currentTime
    have hcount := (Process.ledger_of_reachable hs p).recentCount_le (i := i) hctx
    rw [htime, ← hlog] at hcount
    refine ⟨⟨p, i⟩, step, call, ha, rfl, hcall, hmonitoring,
      Process.callsWithin s.driver.config.timeWindowTicks call.currentTime
        (operationsOf p s'.history), ?_, ?_⟩
    · calc s.driver.config.fileCountThreshold.toNat
          ≤ (Process.evaluation (Process.view p s) pcall ctx).recentCount.toNat :=
            UInt32.le_iff_toNat_le.1 hthreshold
        _ ≤ countWithin s.driver.config.timeWindowTicks call.currentTime
              (operationsOf p s'.history) := hcount
        _ = _ := hcard.symm
    · intro d hd
      obtain ⟨op, hop, rfl⟩ := List.mem_map.1 (List.mem_toFinset.1 hd)
      obtain ⟨hmem, hwithin⟩ := List.mem_filter.1 hop
      obtain ⟨hp, hcalls⟩ := call_of_mem_operationsOf hs' hmem
      exact ⟨hp, op, hmem, rfl, hcalls, of_decide_eq_true hwithin⟩

/-- With the threshold 2, the second operation blocks the process 8. -/
theorem block_justified_two :
    ∃ s s', (system id).step s (.advance ⟨8, 1⟩ .firstSection) = some s' ∧
      s.driver.blocks 8 = false ∧ s'.driver.blocks 8 = true ∧
      ∃ justification : Finset CallId,
        s.driver.config.fileCountThreshold.toNat ≤ justification.card ∧
          ∀ d ∈ justification, d.processId = 8 := by
  obtain ⟨s, hrun, h⟩ := Machine.exists_of_any (system id)
    (fun s => !s.driver.blocks 8 &&
      ((system id).step s (.advance ⟨8, 1⟩ .firstSection)).any fun s' => s'.driver.blocks 8)
    SystemState.init (.control (.applyConfig 2 1 1) :: twoOperations) (by decide +kernel)
  simp only [Bool.and_eq_true, Bool.not_eq_true', Option.any_eq_true] at h
  obtain ⟨hbefore, s', hstep, hafter⟩ := h
  obtain ⟨_, _, _, -, -, -, -, calls, hcard, hcalls⟩ :=
    block_justified ⟨_, hrun⟩ hstep hbefore hafter
  exact ⟨s, s', hstep, hbefore, hafter, calls, hcard, fun d hd => (hcalls d hd).1⟩

end RansomShield
