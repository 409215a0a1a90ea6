import RansomShield.Guarantees.NoFalseBlock
import RansomShield.Guarantees.StickyBlock
import RansomShield.System.Events

/-!
# Pausing

While monitoring is disabled, no process gets blocked (`blocks_of_paused`), and the operations of
tracked processes are still recorded.  But the flag is only read where a process is about to be
blocked: the requests of a process that was blocked before are denied, paused or not
(`pause_ignored`), and so is a request whose callback blocked its process before the pause and ends
during it.  `pause_respected` says that nothing else is denied, for callbacks that are not
interrupted and for those that run interleaved.
-/

namespace RansomShield

variable {upcase : UInt16 → UInt16} {s : DriverState} {data : FltCallbackData}

/-- Monitoring is disabled. -/
def DriverState.Paused (s : DriverState) : Prop := s.config.monitoringEnabled = 0

/-! ### One callback -/

theorem shouldBlock_of_paused (h : s.Paused) (ctx : RsProcessContext) (t : Int64) :
    (recordAndEvaluate s.config ctx t).shouldBlock = false := by
  rw [Bool.eq_false_iff, ne_eq, shouldBlock_iff]
  exact fun hblock => hblock.2.2 h

/-- While monitoring is disabled, a call answers with a block exactly when its process is blocked
already. -/
theorem recordSections_of_paused (h : s.Paused) (p : UInt32) (image : Option UnicodeString)
    (t : Int64) (allocates : Bool) :
    (recordSections s p image t allocates).2.shouldBlock = s.blocks p := by
  rw [DriverState.blocks]
  -- a tracked process, or a new one: the threshold check cannot succeed
  cases hctx : rsLookupProcessContext s p with
  | some ctx =>
    rw [Option.any_some]
    cases hb : ctx.isBlocked with
    | true => rw [recordSections_of_blocks image t hctx hb]; rfl
    | false =>
      rw [recordSections_of_context image t hctx hb]
      exact shouldBlock_of_paused h ctx t
  | none =>
    cases allocates with
    | false => rw [recordSections_outOfMemory image t hctx]; rfl
    | true =>
      rw [recordSections_of_none image t hctx]
      exact shouldBlock_of_paused h _ t

/-- **Which requests are denied while monitoring is disabled**: those of a process that is blocked
already. -/
theorem denied_iff_of_paused (h : s.Paused) :
    (preOperation upcase s data).completion = .denied ↔
      s.blocks data.requestorProcessId = true ∧ data.passes upcase s = false := by
  rw [preOperation_eq]
  by_cases hpass : data.passes upcase s = true
  · rw [if_pos hpass, hpass]
    exact ⟨fun hd => (by cases hd), fun hd => by cases hd.2⟩
  · rw [if_neg hpass]
    simp only [complete_eq_denied, (rsRecordOperation_eq ..).2, recordSections_of_paused h]
    refine ⟨fun hd => ⟨hd.2, Bool.eq_false_iff.2 hpass⟩, fun hd => ⟨?_, hd.1⟩⟩
    obtain ⟨ctx, hctx, hb⟩ := (Option.any_eq_true _ _).1 hd.1
    rw [recordSections_of_blocks _ _ hctx hb]
    rfl

/-- What a pause promises for a request: it is not denied, and recorded if its process is tracked,
unblocked and not allowlisted. -/
def RespectsPause (upcase : UInt16 → UInt16) (s : DriverState) (data : FltCallbackData) : Prop :=
  (preOperation upcase s data).completion ≠ .denied ∧
    ∀ ctx, rsLookupProcessContext s data.requestorProcessId = some ctx → ctx.isBlocked = false →
      data.passes upcase s = false →
      ∃ ctx', rsLookupProcessContext (preOperation upcase s data).state data.requestorProcessId =
          some ctx' ∧ ctx'.isBlocked = false ∧
        ctx'.valid = RsProcessContext.slide s.config.timeWindowTicks ctx.valid
          data.interruptTime.ticks

/-- The operations of a tracked, unblocked process are recorded during a pause. -/
theorem recorded_of_paused (h : s.Paused) {ctx : RsProcessContext}
    (hctx : rsLookupProcessContext s data.requestorProcessId = some ctx)
    (hb : ctx.isBlocked = false) (hpass : data.passes upcase s = false) :
    ∃ ctx', rsLookupProcessContext (preOperation upcase s data).state data.requestorProcessId =
        some ctx' ∧ ctx'.isBlocked = false ∧
      ctx'.valid = RsProcessContext.slide s.config.timeWindowTicks ctx.valid
        data.interruptTime.ticks := by
  have hkey : (recordAndEvaluate s.config ctx data.interruptTime.ticks).context.processId =
      data.requestorProcessId :=
    (recordAndEvaluate_processId ..).trans (processId_of_lookup hctx)
  refine ⟨(recordAndEvaluate s.config ctx data.interruptTime.ticks).context, ?_, ?_,
    valid_recordAndEvaluate ..⟩
  · rw [preOperation_eq, if_neg (by simp [hpass])]
    show rsLookupProcessContext (rsRecordOperation ..).state _ = _
    rw [(rsRecordOperation_eq ..).1, lookup_notify, recordSections_of_context _ _ hctx hb,
      lookup_storeContext hkey, if_pos rfl, hctx]
    rfl
  · rw [recordAndEvaluate_isBlocked, hb, shouldBlock_of_paused h, Bool.or_false]

/-! ### Runs -/

namespace Process

variable {p : UInt32} {s s' : State} {a : Action}

theorem Step.blocks_of_paused (h : Step p s a s') (hpaused : s.config.monitoringEnabled = 0)
    (hafter : s'.blocks = true) : s.blocks = true := by
  by_contra hbefore
  obtain ⟨i, call, ctx, -, -, -, -, hblock, -⟩ :=
    h.blocks (Bool.eq_false_iff.2 hbefore) hafter
  exact ((shouldBlock_iff ..).1 hblock).2.2 hpaused

/-- A locked section that finds its process blocked is told so. -/
theorem Step.result_of_blocks (h : Step p s a s') {i : ℕ}
    (ha : a = .firstSection i ∨ a = .secondSection i) (hblocks : s.blocks = true) :
    s'.result i = some RecordResult.blocked := by
  obtain ⟨ctx, hctx, hb⟩ := (Option.any_eq_true _ _).1 hblocks
  have hid : ∀ {j : ℕ} {call : Call}, Locked a j call → j = i := by
    rintro j call (⟨rfl, -⟩ | ⟨rfl, -⟩) <;> rcases ha with ha | ha <;> cases ha <;> rfl
  cases h with
  | missing j call hcall hphase hnone => cases hctx.symm.trans hnone
  | blocked _ j call ctx' hcall hlocked =>
    obtain rfl := hid hlocked
    rw [result_update rfl, if_pos rfl]
    rfl
  | record _ j call ctx' hcall hlocked htarget hblocked =>
    rcases htarget with htarget | ⟨hnone, -⟩
    · cases hctx.symm.trans htarget
      rw [hb] at hblocked
      cases hblocked
    · cases hctx.symm.trans hnone
  | enter | allocate | outOfMemory | applyConfig | setMonitoring | remove =>
    rcases ha with ha | ha <;> cases ha

/-- The call adds its operation to the ring of the process, which is unblocked. -/
def Records (s : State) (call : Call) (s' : State) : Prop :=
  ∃ ctx, s'.context = some ctx ∧ ctx.isBlocked = false ∧
    ctx.valid = RsProcessContext.slide s.config.timeWindowTicks
      (s.context.elim [] RsProcessContext.valid) call.currentTime.ticks

/-- While monitoring is disabled, a call that does not find the process blocked is not answered
with a block: it fails to allocate, or records its operation. -/
theorem Decided.of_paused {i : ℕ} {r : RecordResult} (h : Decided p s a s' i r)
    (hpaused : s.config.monitoringEnabled = 0)
    (hfree : a = .firstSection i ∨ a = .secondSection i → s.blocks = false) :
    r.shouldBlock = false ∧
      (a = .allocate i false ∨ ∃ call, s.calls i = some call ∧ Records s call s') := by
  have hlocked : ∀ {call : Call}, Locked a i call → s.blocks = false := by
    rintro call (⟨ha, -⟩ | ⟨ha, -⟩)
    · exact hfree (.inl ha)
    · exact hfree (.inr ha)
  cases h with
  | outOfMemory ha => exact ⟨rfl, .inl ha⟩
  | blocked call ctx hcall ha hctx hblocked =>
    have hfree' := hlocked ha
    rw [State.blocks, hctx, Option.any_some, hblocked] at hfree'
    cases hfree'
  | record call ctx hcall ha hctx hblocked hs' =>
    have hshould : (evaluation s call ctx).shouldBlock = false := by
      by_contra hblock
      rw [Bool.not_eq_false] at hblock
      exact ((shouldBlock_iff ..).1 hblock).2.2 hpaused
    refine ⟨hshould, .inr ⟨call, hcall, (evaluation s call ctx).context, by rw [hs']; rfl, ?_, ?_⟩⟩
    · rw [evaluation, recordAndEvaluate_isBlocked, hblocked, Bool.false_or]
      exact hshould
    · rw [evaluation, valid_recordAndEvaluate]
      rcases hctx with hctx | ⟨hnone, rfl⟩
      · rw [hctx]
        rfl
      · rw [hnone, RsProcessContext.valid_rsCreateProcessContext]
        rfl

end Process

variable {s₀ t : SystemState} {as : List Action}

/-- **No process gets blocked during a pause.** -/
theorem blocks_of_paused (hs₀ : Reachable upcase s₀) (hrun : (system upcase).run s₀ as = some t)
    (hpaused : (system upcase).Always s₀ as fun u => u.driver.Paused) {p : UInt32}
    (hblocks : t.driver.blocks p = true) : s₀.driver.blocks p = true := by
  refine Process.run_induction_view (p := p)
    (I := fun v => v.blocks = true → s₀.driver.blocks p = true) hs₀ hrun id ?_ hblocks
  intro bs b u b' v hbs hu _ ih _ hcase hafter
  exact ih (hcase.blocks_of_paused (hpaused.before hbs hu) hafter)

/-- The call was not told to block before the run, and each locked section of it in the run finds
its process unblocked. -/
def FoundFree (upcase : UInt16 → UInt16) (s₀ : SystemState) (as : List Action) (c : CallId) :
    Prop :=
  (∀ r, s₀.result c = some r → r.shouldBlock = false) ∧
    ∀ bs step u, bs ++ [.advance c step] <+: as →
      step = .firstSection ∨ step = .secondSection → (system upcase).run s₀ bs = some u →
        u.driver.blocks c.processId = false

/-- The operation of the call is recorded by a step of the run, in the ring of its process. -/
def RecordedDuring (upcase : UInt16 → UInt16) (s₀ : SystemState) (as : List Action) (c : CallId) :
    Prop :=
  ∃ bs step u u' call ctx, bs ++ [.advance c step] <+: as ∧ (system upcase).run s₀ bs = some u ∧
    (system upcase).step u (.advance c step) = some u' ∧ u.calls c = some call ∧
    rsLookupProcessContext u'.driver c.processId = some ctx ∧ ctx.isBlocked = false ∧
    ctx.valid = RsProcessContext.slide u.driver.config.timeWindowTicks
      ((rsLookupProcessContext u.driver c.processId).elim [] RsProcessContext.valid)
      call.currentTime.ticks

theorem RecordedDuring.mono {bs : List Action} {c : CallId}
    (h : RecordedDuring upcase s₀ bs c) (hbs : bs <+: as) : RecordedDuring upcase s₀ as c := by
  obtain ⟨cs, step, u, u', call, ctx, hcs, hu⟩ := h
  exact ⟨cs, step, u, u', call, ctx, hcs.trans hbs, hu⟩

theorem result_of_run (hs₀ : Reachable upcase s₀) (hrun : (system upcase).run s₀ as = some t)
    {c : CallId} {r : RecordResult} (hr : s₀.result c = some r) : t.result c = some r :=
  Machine.run_induction (M := system upcase) (I := fun _ u => u.result c = some r) hrun hr
    fun _ _ _ _ _ hu ih hstep => Process.result_of_step (hs₀.run hu).sound hstep ih

/-- **A call that finds its process unblocked during a pause** is not told to block, and records its
operation if it can allocate. -/
theorem FoundFree.decided {c : CallId} (hfree : FoundFree upcase s₀ as c)
    (hs₀ : Reachable upcase s₀) (hrun : (system upcase).run s₀ as = some t)
    (hpaused : (system upcase).Always s₀ as fun u => u.driver.Paused) :
    ∀ r, t.result c = some r → r.shouldBlock = false ∧
      (s₀.result c = none → .advance c (.allocate false) ∉ as → RecordedDuring upcase s₀ as c) := by
  refine Machine.run_induction (M := system upcase)
    (I := fun bs u => ∀ r, u.result c = some r → r.shouldBlock = false ∧ (s₀.result c = none →
      .advance c (.allocate false) ∉ as → RecordedDuring upcase s₀ bs c)) hrun ?_ ?_
  · intro r hr
    refine ⟨hfree.1 r hr, fun hnone => ?_⟩
    cases hnone.symm.trans hr
  · intro bs b u u' hbs hu ih hstep r hr
    have hsound := (hs₀.run hu).sound
    cases hu' : u.result c with
    | some r' =>
      cases (Process.result_of_step hsound hstep hu').symm.trans hr
      obtain ⟨hblock, hrecorded⟩ := ih r hu'
      exact ⟨hblock, fun hnone hmemory =>
        (hrecorded hnone hmemory).mono (List.prefix_append bs [b])⟩
    | none =>
      obtain ⟨b', hb', hdecided⟩ := Process.decided_of_step hsound hstep hu' hr
      obtain ⟨step, rfl⟩ := hdecided.advance hb'
      obtain ⟨hblock, hcase⟩ := hdecided.of_paused (hpaused.before hbs hu) (by
        rintro (rfl | rfl)
        · cases Process.ofProcess_cases hb'
          exact hfree.2 bs .firstSection u hbs (.inl rfl) hu
        · cases Process.ofProcess_cases hb'
          exact hfree.2 bs .secondSection u hbs (.inr rfl) hu)
      refine ⟨hblock, fun _ hmemory => ?_⟩
      rcases hcase with rfl | ⟨call, hcall, ctx, hctx, hb, hvalid⟩
      · cases Process.ofProcess_cases hb'
        exact absurd (Machine.mem_of_concat hbs) hmemory
      · obtain ⟨call', hcall'⟩ := Process.exists_of_view_calls hcall
        refine ⟨bs, step, u, u', call', ctx, List.prefix_rfl, hu, hstep, hcall', hctx, hb, ?_⟩
        rw [← (Process.of_view_calls hcall' hcall).2]
        exact hvalid

/-- **A call that finds its process blocked** is told to block. -/
theorem foundFree_of_result {c : CallId} (hs₀ : Reachable upcase s₀)
    (hrun : (system upcase).run s₀ as = some t) {r : RecordResult} (hr : t.result c = some r)
    (hblock : r.shouldBlock = false) : FoundFree upcase s₀ as c := by
  constructor
  · intro r₀ hr₀
    cases (result_of_run hs₀ hrun hr₀).symm.trans hr
    exact hblock
  · intro bs step u hbs hstep hu
    by_contra hblocks
    rw [Bool.not_eq_false] at hblocks
    obtain ⟨u', hu'⟩ := Machine.exists_step hrun hbs hu
    obtain ⟨cs, rfl⟩ := hbs
    have hafter : (system upcase).run s₀ (bs ++ [.advance c step]) = some u' := by
      rw [Machine.run_concat, hu]
      exact hu'
    rw [Machine.run_append, hafter] at hrun
    have hsound := (hs₀.run hu).sound
    have hblocked : u'.result c = some RecordResult.blocked := by
      rw [← Process.view_result]
      rcases hstep with rfl | rfl
      · exact (Process.Step.of_step (Process.view_step hsound hu' (if_pos rfl))).result_of_blocks
          (.inl rfl) hblocks
      · exact (Process.Step.of_step (Process.view_step hsound hu' (if_pos rfl))).result_of_blocks
          (.inr rfl) hblocks
    cases (result_of_run (hs₀.run hafter) hrun hblocked).symm.trans hr
    cases hblock

/-- **When a pause does what it says**, in every run during which monitoring is disabled:
* a request that comes next, and whose callback is not interrupted, respects the pause exactly when
  its process is not blocked, or the callback lets it pass;
* a callback that runs interleaved with other calls, and ends, has not denied its request exactly
  when it let it pass, or it had not been told to block before the pause and found its process
  unblocked whenever it acquired the lock;
* and then it has recorded its operation, unless it had done so before the pause, or its allocation
  failed. -/
theorem pause_respected (hs₀ : Reachable upcase s₀)
    (hrun : (system upcase).run s₀ as = some t)
    (hpaused : (system upcase).Always s₀ as fun u => u.driver.Paused) :
    (∀ data, RespectsPause upcase t.driver data ↔
      (t.driver.blocks data.requestorProcessId = false ∨ data.passes upcase t.driver = true)) ∧
    (∀ c call completion, t.calls c = some call → call.completion = some completion →
      (completion ≠ .denied ↔ call.phase = .passed ∨ FoundFree upcase s₀ as c)) ∧
    ∀ c r, s₀.result c = none → t.result c = some r → FoundFree upcase s₀ as c →
      .advance c (.allocate false) ∉ as → RecordedDuring upcase s₀ as c := by
  refine ⟨?_, ?_, ?_⟩
  · intro data
    have hend : t.driver.Paused := hpaused as t List.prefix_rfl hrun
    have hiff : (preOperation upcase t.driver data).completion ≠ .denied ↔
        (t.driver.blocks data.requestorProcessId = false ∨
          data.passes upcase t.driver = true) := by
      rw [ne_eq, denied_iff_of_paused hend, not_and_or, Bool.not_eq_true, Bool.not_eq_false]
    exact ⟨fun hr => hiff.1 hr.1, fun hc => ⟨hiff.2 hc, fun ctx hctx hb hpass =>
      recorded_of_paused hend hctx hb hpass⟩⟩
  · intro c call completion hcall hcompletion
    have hresult : t.result c = call.phase.result := by
      rw [SystemState.result, hcall]
      rfl
    constructor
    · intro hnot
      unfold Call.completion at hcompletion
      split at hcompletion
      · next hphase => exact .inl hphase
      · next iopb r _ hphase =>
        rw [hphase] at hresult
        refine .inr (foundFree_of_result hs₀ hrun hresult ?_)
        by_contra hblock
        rw [Bool.not_eq_false] at hblock
        refine hnot ((Option.some.inj hcompletion).symm.trans (complete_eq_denied.2 ?_))
        exact denies_of_shouldBlock (hs₀.run hrun) hresult hblock
      · cases hcompletion
    · rintro hcase rfl
      obtain ⟨r, hr, hblock⟩ := Call.shouldBlock_of_denied hcompletion
      rcases hcase with hphase | hfree
      · rw [hphase] at hr
        cases hr
      · rw [(hfree.decided hs₀ hrun hpaused r (hresult.trans hr)).1] at hblock
        cases hblock
  · intro c r hnone hr hfree hmemory
    exact (hfree.decided hs₀ hrun hpaused r hr).2 hnone hmemory

/-! ### A pause at work, and ignored -/

/-- A write of the process 8. -/
def plainWrite (t : InterruptTime) : FltCallbackData :=
  writeRequest 8 .passiveLevel (rtlInitUnicodeString (wide "a.exe")) t true

/-- The process 8 writes for the first time, without interruption. -/
def firstWrite : List Action :=
  [.track ⟨8, 0⟩ (plainWrite (.ofTicks 5)), .advance ⟨8, 0⟩ .firstSection,
    .advance ⟨8, 0⟩ (.allocate true), .advance ⟨8, 0⟩ .secondSection]

/-- The client pauses the driver. -/
def pauseRequest : List Action := (requestControls [] .requestPause).map .control

/-- The threshold is 1, and the process 8 writes for the first time while the driver is paused: the
write is not denied, and recorded. -/
theorem pause_respected_one :
    ∃ s₀ t, (system id).run SystemState.init (.control (.applyConfig 1 1 1) :: pauseRequest) =
        some s₀ ∧
      (system id).run s₀ firstWrite = some t ∧
      (∀ completion, (t.calls ⟨8, 0⟩).bind Call.completion = some completion →
        completion ≠ .denied) ∧
      RecordedDuring id s₀ firstWrite ⟨8, 0⟩ := by
  obtain ⟨s₀, hs₀, h⟩ := Machine.exists_of_any (system id)
    (fun s => !s.driver.blocks 8 && (s.result ⟨8, 0⟩).isNone &&
      (system id).check (fun s => s.driver.config.monitoringEnabled == 0) s firstWrite &&
      ((system id).run s firstWrite).any fun t => (t.result ⟨8, 0⟩).isSome)
    SystemState.init (.control (.applyConfig 1 1 1) :: pauseRequest) (by decide +kernel)
  simp only [Bool.and_eq_true, Bool.not_eq_true', Option.isNone_iff_eq_none, Option.any_eq_true,
    Option.isSome_iff_exists] at h
  obtain ⟨⟨⟨hunblocked, hnew⟩, hcheck⟩, t, ht, r, hr⟩ := h
  have hpaused : (system id).Always s₀ firstWrite fun u => u.driver.Paused :=
    fun bs u hbs hu => beq_iff_eq.1 (Machine.always_of_check _ _ _ _ hcheck bs u hbs hu)
  have hfree : FoundFree id s₀ firstWrite ⟨8, 0⟩ := by
    refine ⟨fun r hr => (by cases hnew.symm.trans hr), ?_⟩
    intro bs step u hbs _ hu
    by_contra hblocks
    have hbefore := blocks_of_paused ⟨_, hs₀⟩ hu
      (fun ds v hds hv => hpaused ds v (hds.trans ((List.prefix_append _ _).trans hbs)) hv)
      (Bool.not_eq_false _ ▸ hblocks)
    rw [hunblocked] at hbefore
    cases hbefore
  obtain ⟨-, hdenied, hrecorded⟩ := pause_respected ⟨_, hs₀⟩ ht hpaused
  refine ⟨s₀, t, hs₀, ht, ?_, hrecorded ⟨8, 0⟩ r hnew hr hfree (by simp [firstWrite])⟩
  intro completion hcompletion
  obtain ⟨call, hcall, hcompletion⟩ := Option.bind_eq_some_iff.1 hcompletion
  exact (hdenied ⟨8, 0⟩ call completion hcall hcompletion).2 (.inr hfree)

/-- **A pause is ignored**: the threshold is 1, and the process 8 has written before the driver is
paused. -/
theorem pause_ignored :
    ∃ s, (system id).run SystemState.init
        (.control (.applyConfig 1 1 1) :: firstWrite ++ pauseRequest) = some s ∧
      s.driver.Paused ∧
      (preOperation id s.driver (plainWrite (.ofTicks 6))).completion = .denied := by
  obtain ⟨s, hrun, h⟩ := Machine.exists_of_any (system id)
    (fun s => decide (s.driver.config.monitoringEnabled = 0) &&
      decide ((preOperation id s.driver (plainWrite (.ofTicks 6))).completion = .denied))
    SystemState.init (.control (.applyConfig 1 1 1) :: firstWrite ++ pauseRequest)
    (by decide +kernel)
  rw [Bool.and_eq_true, decide_eq_true_eq, decide_eq_true_eq] at h
  exact ⟨s, hrun, h.1, h.2⟩

end RansomShield
