import RansomShield.Client.RansomShieldModule
import RansomShield.Guarantees.DamageBound
import RansomShield.Guarantees.StickyBlock
import RansomShield.System.Events

/-!
# Detection under every accepted configuration

`RsUpdateConfig` accepts every threshold and every window.  A process whose operations are recorded
in the order of their times is blocked by the time it has issued as many of them within the window
as the threshold says, if the threshold is at most 256, the capacity of the ring (`detects_of_le`).
Above that the count never reaches the threshold, and nothing is ever blocked
(`not_detects_of_lt`).
-/

namespace RansomShield

/-- Once the configuration request for the threshold `K` and the window of `W` seconds is accepted:
in every run with these parameters and monitoring enabled, in which no allocation of the process
fails, its context is not removed and its operations are recorded in the order of their times, the
process is blocked as soon as `K` of its calls are decided whose times lie within `W` seconds. -/
def Detects (K W : UInt32) : Prop :=
  ∀ (upcase : UInt16 → UInt16) (s₀ s : SystemState) (as : List Action) (p : UInt32) (x : ℤ)
    (calls : Finset CallId),
    Reachable upcase s₀ → Accepted K W s₀.driver → (system upcase).run s₀ as = some s →
    ((system upcase).Always s₀ as fun s =>
      Process.Constant (windowTicks W) K s.driver.config) →
    (∀ a ∈ as, a ≠ .control (.removeProcessContext p)) →
    (∀ a ∈ as, ∀ i, a ≠ .advance ⟨p, i⟩ (.allocate false)) →
    InOrder (operationsOf p s.history) →
    (∀ c ∈ calls, c.processId = p ∧ s₀.result c = none ∧ (s.result c).isSome = true ∧
      (s.calls c).any (fun call => x ≤ call.currentTime.ticks.toInt ∧
        call.currentTime.ticks.toInt ≤ x + (windowTicks W).toInt) = true) →
    K.toNat ≤ calls.card → s.driver.blocks p = true

namespace Process

variable {p : UInt32} {s₀ s s' : State} {a : Action} {w : Int64} {K : UInt32}

/-! ### What is known of a process that is not blocked -/

/-- Since the state `s₀` the process was not blocked, and has recorded the operations `new`. -/
structure Undetected (p : UInt32) (w : Int64) (K : UInt32) (s₀ s : State) (new : List Operation) :
    Prop where
  log : s.log = s₀.log ++ new
  ring : Retention w (logTimes new) s
  bound : ∀ x, new.countP (Operation.inside w x) < K.toNat
  /-- The calls that were decided since have recorded their operation. -/
  decided : Accounted p (fun i _ => s₀.result i = none) new s

theorem Undetected.times_of_none {new : List Operation} (h : Undetected p w K s₀ s new)
    (hledger : Ledger p s) (hnone : s.context = none) : logTimes new = [] := by
  have hlog := h.log
  rw [hledger.context_none.1 hnone] at hlog
  rw [(List.append_eq_nil_iff.1 hlog.symm).2]
  rfl

/-- **An operation that does not block** is one of fewer than `K` within the window. -/
theorem Undetected.record {new : List Operation} (h : Undetected p w K s₀ s new)
    (hledger : Ledger p s) (hcfg : Constant w K s.config) (hw : 0 ≤ w) (hK : K.toNat ≤ 256) {i : ℕ}
    {call : Call} {ctx : RsProcessContext} (hctx : Target p s call ctx)
    (hb : ctx.isBlocked = false) (hallowed : (evaluation s call ctx).shouldBlock = false)
    (horder : InOrder (new ++ [operation p i call (evaluation s call ctx)])) :
    Undetected p w K s₀ (recordedState p s i call ctx)
      (new ++ [operation p i call (evaluation s call ctx)]) := by
  obtain ⟨rfl, rfl, hmonitoring⟩ := hcfg
  have htimes : logTimes (new ++ [operation p i call (evaluation s call ctx)]) =
      logTimes new ++ [call.currentTime.ticks] := List.map_append
  have hordered := horder.ordered
  rw [htimes] at hordered
  have hret := h.ring.retains_record (h.times_of_none hledger) hw hctx hordered
  refine ⟨?_, ?_, ?_, h.decided.record i call ctx⟩
  · show s.log ++ [_] = _
    rw [h.log, List.append_assoc]
  · intro ctx' t hctx' ht
    cases hctx'
    rw [htimes, List.getLast?_concat] at ht
    cases ht
    rw [htimes]
    exact hret
  · intro x
    -- the ring retains the window, so that its count bounds that of the log
    have hcount : (logTimes new ++ [call.currentTime.ticks]).countP
        (recent s.config.timeWindowTicks call.currentTime.ticks) <
          s.config.fileCountThreshold.toNat := by
      have hlow := Window.min_countP_le_countP hret
      have hlt := recentCount_lt_of_allowed hmonitoring hb hallowed
      rw [evaluation, valid_recordAndEvaluate] at hlow
      rw [evaluation, toNat_recentCount] at hlt
      have hmin := lt_of_le_of_lt hlow hlt
      have hmax : rsMaxOperationsPerPid = 256 := rfl
      omega
    by_cases hinside : (operation p i call (evaluation s call ctx)).inside
        s.config.timeWindowTicks x = true
    · rw [Operation.inside, decide_eq_true_eq] at hinside
      rw [← htimes] at hcount
      exact (countP_inside_le x _ call.currentTime _ hinside.2).trans_lt hcount
    · rw [List.countP_append, List.countP_singleton, if_neg hinside]
      exact h.bound x

/-- The process is blocked, or nothing was missed. -/
def Watched (p : UInt32) (w : Int64) (K : UInt32) (s₀ s : State) : Prop :=
  InOrder (s.log.drop s₀.log.length) → s.blocks = true ∨ ∃ new, Undetected p w K s₀ s new

theorem Step.log_prefix (h : Step p s a s') (hremove : a ≠ .remove) : s.log <+: s'.log := by
  cases h with
  | record a i call ctx => exact List.prefix_append _ _
  | remove => exact absurd rfl hremove
  | enter | missing | allocate | outOfMemory | blocked | applyConfig | setMonitoring =>
    exact List.prefix_rfl

/-- **Every step keeps the watch.** -/
theorem Watched.step (h : Watched p w K s₀ s) (hledger : Ledger p s)
    (hcfg : Constant w K s.config) (hw : 0 ≤ w) (hK : K.toNat ≤ 256) (hstep : Step p s a s')
    (hremove : a ≠ .remove) (halloc : ∀ i, a ≠ .allocate i false) : Watched p w K s₀ s' := by
  intro horder
  obtain ⟨rest, hrest⟩ := hstep.log_prefix hremove
  have hold : InOrder (s.log.drop s₀.log.length) := by
    rw [← hrest] at horder
    exact horder.sublist ((List.sublist_append_left _ _).drop _)
  rcases h hold with hblocked | ⟨new, hnew⟩
  · left
    obtain ⟨ctx, hctx, hb⟩ := (Option.any_eq_true _ _).1 hblocked
    rw [State.blocks, hstep.context_of_blocked hctx hb hremove]
    exact hb
  · cases hstep with
    | enter i image t hnew' =>
      exact .inr ⟨new, hnew.log, hnew.ring, hnew.bound,
        hnew.decided.update i fun r hr => by cases hr⟩
    | missing i call hcall hphase hnone | allocate i call hcall hphase =>
      exact .inr ⟨new, hnew.log, hnew.ring, hnew.bound,
        hnew.decided.update i fun r hr => by cases hr⟩
    | outOfMemory i call hcall hphase => exact absurd rfl (halloc i)
    | blocked a i call ctx hcall ha hctx hblocked =>
      left
      show s.context.any _ = true
      rw [hctx]
      exact hblocked
    | record a i call ctx hcall ha hctx hblocked =>
      cases hblock : (evaluation s call ctx).shouldBlock with
      | true =>
        left
        show (evaluation s call ctx).context.isBlocked = true
        rw [evaluation, recordAndEvaluate_isBlocked]
        rw [evaluation] at hblock
        rw [hblock, Bool.or_true]
      | false =>
        refine .inr ⟨_, hnew.record hledger hcfg hw hK hctx hblocked hblock ?_⟩
        have hdrop : (recordedState p s i call ctx).log.drop s₀.log.length =
            new ++ [operation p i call (evaluation s call ctx)] := by
          show (s.log ++ [_]).drop _ = _
          rw [hnew.log, List.append_assoc, List.drop_left]
        rwa [hdrop] at horder
    | applyConfig | setMonitoring =>
      exact .inr ⟨new, hnew.log, hnew.ring, hnew.bound, hnew.decided⟩
    | remove => exact absurd rfl hremove

theorem watched_start (s₀ : State) (hK : 1 ≤ K.toNat) : Watched p w K s₀ s₀ := by
  intro _
  refine .inr ⟨[], (List.append_nil _).symm, ?_, ?_, ?_⟩
  · exact fun ctx t _ ht => by cases ht
  · intro x
    exact hK
  · intro i call r hcall hr hP
    have hundecided : s₀.result i = none := hP
    rw [State.result, hcall, Option.bind_some, hr] at hundecided
    cases hundecided

end Process

/-! ### Thresholds up to the capacity -/

variable {K W : UInt32}

/-- **Thresholds up to 256 detect.** -/
theorem detects_of_le (hK : 1 ≤ K.toNat) (hK' : K.toNat ≤ 256) : Detects K W := by
  intro upcase s₀ s as p x calls hs₀ _ hrun hconstant hremove halloc horder hcalls hcard
  have hw : 0 ≤ windowTicks W := zero_le_windowTicks W
  have hwatched : Process.Watched p (windowTicks W) K (Process.view p s₀) (Process.view p s) := by
    refine Process.run_induction_view
      (I := Process.Watched p (windowTicks W) K (Process.view p s₀)) hs₀ hrun
      (Process.watched_start _ hK) ?_
    intro bs b t b' v hbs ht hreach ih hb' hcase
    have hmem : b ∈ as := Machine.mem_of_concat hbs
    refine ih.step (Process.ledger_of_reachable hreach p) (hconstant.before hbs ht) hw hK' hcase
      ?_ ?_
    · rintro rfl
      exact hremove b hmem (Process.ofProcess_cases hb')
    · rintro i rfl
      exact halloc b hmem i (Process.ofProcess_cases hb')
  rcases hwatched (horder.sublist (List.drop_sublist _ _)) with hblocked | ⟨new, hnew⟩
  · exact hblocked
  · -- otherwise the calls would have recorded too many operations
    exfalso
    have hlt : calls.card < K.toNat := by
      refine (hnew.decided.card_le ?_).trans_lt (hnew.bound x)
      intro c hc
      obtain ⟨hp, hbefore, hafter, htime⟩ := hcalls c hc
      obtain ⟨r, hr⟩ := Option.isSome_iff_exists.1 hafter
      obtain ⟨call, hcall, htime⟩ := (Option.any_eq_true _ _).1 htime
      subst hp
      rw [← Process.view_result] at hbefore
      refine ⟨rfl, r, call, hr, hbefore, hcall, ?_⟩
      intro op hop _
      rw [Operation.inside, hop]
      exact htime
    omega

/-! ### Larger thresholds -/

/-- The time of all operations of a flood. -/
def floodTime : InterruptTime := .ofTicks 5

/-- The process 8 has issued `n` operations at one time, and is not blocked. -/
structure Flooded (cfg : RsConfig) (n : ℕ) (s : SystemState) : Prop where
  config : s.driver.config = cfg
  free : s.driver.blocks 8 = false
  done : ∀ i < n, (s.result ⟨8, i⟩).isSome = true
  times : ∀ i call, s.calls ⟨8, i⟩ = some call → call.currentTime = floodTime
  rest : ∀ i, n ≤ i → s.calls ⟨8, i⟩ = none

/-- With a threshold beyond the capacity of the ring, an uninterrupted call leaves an unblocked
process unblocked. -/
theorem blocks_rsRecordOperation {s : DriverState} {p : UInt32} (hb : s.blocks p = false)
    (hK : 256 < s.config.fileCountThreshold.toNat) (image : Option UnicodeString) (t : Int64)
    (allocates : Bool) : (rsRecordOperation s p image t allocates).state.blocks p = false := by
  have hfree : ∀ ctx : RsProcessContext, ctx.isBlocked = false →
      (recordAndEvaluate s.config ctx t).context.isBlocked = false := by
    intro ctx hctx
    rw [recordAndEvaluate_isBlocked, hctx, Bool.false_or, Bool.eq_false_iff, ne_eq, shouldBlock_iff,
      UInt32.le_iff_toNat_le]
    have hle := recentCount_le s.config ctx t
    have hmax : rsMaxOperationsPerPid = 256 := rfl
    omega
  rw [DriverState.blocks, (rsRecordOperation_eq ..).1, lookup_notify, (recordSections_eq ..).2,
    if_pos rfl]
  rw [DriverState.blocks] at hb
  cases hctx : rsLookupProcessContext s p with
  | some ctx =>
    rw [hctx, Option.any_some] at hb
    simp only [recordContext, hb, Bool.false_eq_true, if_false, Option.any_some]
    exact hfree ctx hb
  | none =>
    cases allocates with
    | false => rfl
    | true => exact hfree _ rfl

/-- The actions of a flood: calls, and their steps with successful allocations. -/
def FloodAction (a : Action) : Prop :=
  (∃ c image t, a = .call c image t) ∨ ∃ c step, step ≠ .allocate false ∧ a = .advance c step

/-- **One more operation.** -/
theorem Flooded.next {cfg : RsConfig} {n : ℕ} {s : SystemState} (h : Flooded cfg n s)
    (hK : 256 < cfg.fileCountThreshold.toNat) :
    ∃ as s', (system id).run s as = some s' ∧ (∀ a ∈ as, FloodAction a) ∧
      Flooded cfg (n + 1) s' := by
  have hnew : s.calls ⟨8, n⟩ = none := h.rest n le_rfl
  have hstart : (system id).step s (.call ⟨8, n⟩ none floodTime) =
      some (s.start ⟨8, n⟩ ⟨none, none, floodTime, .entered⟩) := by
    simp only [system, hnew, Option.isNone_none, if_true]
  have hcall : (s.start ⟨8, n⟩ ⟨none, none, floodTime, .entered⟩).calls ⟨8, n⟩ =
      some ⟨none, none, floodTime, .entered⟩ := Function.update_self ..
  obtain ⟨s', hs'⟩ := run_rsRecordOperation id hcall rfl true
  obtain ⟨steps, hsteps, hrun⟩ := hs'.run
  have hcalls : ∀ i, i ≠ n → s'.calls ⟨8, i⟩ = s.calls ⟨8, i⟩ := by
    intro i hi
    have hne : (⟨8, i⟩ : CallId) ≠ ⟨8, n⟩ := fun hid => hi (congrArg CallId.serial hid)
    rw [hs'.calls, Function.update_of_ne hne]
    exact Function.update_of_ne hne _ _
  have hself := congrFun hs'.calls ⟨8, n⟩
  rw [Function.update_self] at hself
  refine ⟨.call ⟨8, n⟩ none floodTime :: steps.map (Action.advance ⟨8, n⟩), s', ?_, ?_, ?_⟩
  · rw [Machine.run_cons, hstart]
    exact hrun
  · intro a ha
    rcases List.mem_cons.1 ha with rfl | ha
    · exact .inl ⟨_, _, _, rfl⟩
    · obtain ⟨step, hstep, rfl⟩ := List.mem_map.1 ha
      refine .inr ⟨_, step, ?_, rfl⟩
      rintro rfl
      exact hsteps hstep
  · refine ⟨?_, ?_, ?_, ?_, ?_⟩
    · rw [hs'.driver, (rsRecordOperation_eq ..).1]
      exact (((DriverState.SameSettings.notify _ _).trans
        (DriverState.SameSettings.recordSections ..)).config).trans h.config
    · rw [hs'.driver]
      exact blocks_rsRecordOperation h.free (h.config.symm ▸ hK) _ _ _
    · intro i hi
      by_cases hin : i = n
      · rw [hin, SystemState.result, hself]
        rfl
      · rw [SystemState.result, hcalls i hin]
        exact h.done i (by omega)
    · intro i call hcall
      by_cases hin : i = n
      · rw [hin, hself] at hcall
        cases hcall
        rfl
      · rw [hcalls i hin] at hcall
        exact h.times i call hcall
    · intro i hi
      rw [hcalls i (by omega)]
      exact h.rest i (by omega)

theorem Flooded.run {cfg : RsConfig} {s : SystemState} (h : Flooded cfg 0 s)
    (hK : 256 < cfg.fileCountThreshold.toNat) (n : ℕ) :
    ∃ as s', (system id).run s as = some s' ∧ (∀ a ∈ as, FloodAction a) ∧ Flooded cfg n s' := by
  induction n with
  | zero => exact ⟨[], s, rfl, fun _ ha => absurd ha List.not_mem_nil, h⟩
  | succ n ih =>
    obtain ⟨as, s', hrun, has, hn⟩ := ih
    obtain ⟨bs, s'', hrun', hbs, hn'⟩ := hn.next hK
    refine ⟨as ++ bs, s'', ?_, ?_, hn'⟩
    · rw [Machine.run_append, hrun]
      exact hrun'
    · intro a ha
      rcases List.mem_append.1 ha with ha | ha
      · exact has a ha
      · exact hbs a ha

theorem config_of_flood {s s' : SystemState} {as : List Action}
    (hrun : (system id).run s as = some s') (has : ∀ a ∈ as, FloodAction a) :
    s'.driver.config = s.driver.config := by
  refine Machine.run_invariant (M := system id)
    (I := fun t => t.driver.config = s.driver.config) hrun rfl ?_
  intro t a t' ht ha hstep
  obtain ⟨c, call, -, -, rfl⟩ | ⟨c, step, call, -, -, hcs⟩ | ⟨k, rfl, -⟩ :=
    system_step_cases hstep
  · exact ht
  · obtain ⟨-, -, rfl⟩ | ⟨newContext, -, -, rfl⟩ | ⟨phase, driver', sent', hd, -, rfl⟩ :=
      callStep_cases hcs
    · exact (sameGlobals_recordFirstSection ..).config.trans ht
    · exact (sameGlobals_recordSecondSection ..).config.trans ht
    · rcases hd with rfl | rfl <;> exact ht
  · rcases has _ ha with ⟨c, image, t, h⟩ | ⟨c, step, -, h⟩ <;> cases h

/-- **Thresholds above 256 do not detect**: any number of operations at one time is allowed. -/
theorem not_detects_of_lt (hK : 256 < K.toNat) (hW : 1 ≤ W.toNat) : ¬ Detects K W := by
  intro hdetects
  have hK0 : 0 < K := UInt32.lt_iff_toNat_lt.2 (by rw [UInt32.toNat_zero]; omega)
  have hW0 : 0 < W := UInt32.lt_iff_toNat_lt.2 (by rw [UInt32.toNat_zero]; omega)
  let s₀ : SystemState := { SystemState.init with
    driver := exec Control.apply DriverState.init [.applyConfig K W 1, .drawSequence] }
  have hs₀ : Reachable id s₀ :=
    ⟨_, run_controls id SystemState.init [.applyConfig K W 1, .drawSequence]⟩
  have hthreshold : s₀.driver.config.fileCountThreshold = K := if_pos hK0
  have hwindow : s₀.driver.config.timeWindowTicks = windowTicks W := if_pos hW0
  have hflooded : Flooded s₀.driver.config 0 s₀ :=
    ⟨rfl, rfl, fun i hi => absurd hi (Nat.not_lt_zero i), fun i call hcall => (by cases hcall),
      fun _ _ => rfl⟩
  obtain ⟨as, s, hrun, has, hs⟩ := hflooded.run (hthreshold.symm ▸ hK) K.toNat
  have hreach : Reachable id s := hs₀.run hrun
  have htimes : ∀ op ∈ operationsOf 8 s.history, op.time = floodTime := by
    intro op hop
    obtain ⟨pcall, e, hpcall, -, hop'⟩ := (Process.ledger_of_reachable hreach 8).logged op hop
    obtain ⟨call, hcall⟩ := Process.exists_of_view_calls hpcall
    rw [hop']
    exact (Process.of_view_calls hcall hpcall).2.trans (hs.times _ call hcall)
  -- they meet every condition of `Detects`, which promises a block
  have hblocked := hdetects id s₀ s as 8 floodTime.ticks.toInt
    ((Finset.range K.toNat).map ⟨CallId.mk 8, fun i j hij => congrArg CallId.serial hij⟩) hs₀
    (accepted_updateConfigRequest K W 1 DriverState.init) hrun ?_ ?_ ?_ ?_ ?_ ?_
  · rw [hs.free] at hblocked
    cases hblocked
  · intro bs t hbs ht
    have hconfig := config_of_flood ht fun a ha => has a (hbs.subset ha)
    rw [hconfig]
    have hone : (1 : UInt8) ≠ 0 := by decide
    exact ⟨hthreshold, hwindow, hone⟩
  · rintro a ha rfl
    rcases has _ ha with ⟨c, image, t, h⟩ | ⟨c, step, -, h⟩ <;> cases h
  · rintro a ha i rfl
    rcases has _ ha with ⟨c, image, t, h⟩ | ⟨c, step, hstep, h⟩
    · cases h
    · cases h
      exact hstep rfl
  · refine List.pairwise_of_forall_mem_list ?_
    intro op hop op' hop'
    rw [htimes op hop, htimes op' hop']
    exact Int64.le_refl _
  · intro c hc
    obtain ⟨i, hi, rfl⟩ := Finset.mem_map.1 hc
    have hdone := hs.done i (Finset.mem_range.1 hi)
    refine ⟨rfl, rfl, hdone, ?_⟩
    obtain ⟨r, hr⟩ := Option.isSome_iff_exists.1 hdone
    obtain ⟨call, hcall, -⟩ := Option.bind_eq_some_iff.1 hr
    show (s.calls ⟨8, i⟩).any _ = true
    rw [hcall, Option.any_some, hs.times i call hcall, decide_eq_true_eq]
    have hw := Int64.le_iff_toInt_le.1 (zero_le_windowTicks W)
    rw [Int64.toInt_zero] at hw
    omega
  · rw [Finset.card_map, Finset.card_range]

/-- **Detection under every accepted configuration**: exactly the thresholds up to 256 detect. -/
theorem detects_iff (hK : 1 ≤ K.toNat) (hW : 1 ≤ W.toNat) : Detects K W ↔ K.toNat ≤ 256 := by
  constructor
  · intro hdetects
    by_contra hlt
    exact not_detects_of_lt (Nat.lt_of_not_le hlt) hW hdetects
  · exact detects_of_le hK

theorem detects_default :
    Detects rsDefaultFileCountThreshold rsDefaultTimeWindowSeconds ↔
      rsDefaultFileCountThreshold.toNat ≤ 256 :=
  detects_iff (by decide) (by decide)

/-- **An accepted configuration that does not detect.** -/
theorem not_detects_257 : ¬ Detects 257 10 := not_detects_of_lt (by decide) (by decide)

end RansomShield
