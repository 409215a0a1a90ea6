import RansomShield.System.View

/-!
# Uninterrupted calls

The functions of `Driver/CommPort.lean` and `Driver/Callbacks.lean` run a call or a callback in one
go.  From every state, such an execution is a run of the machine (`run_rsRecordOperation`,
`run_preOperation`): the steps of the call one after the other, with nothing in between.
-/

namespace RansomShield

variable {upcase : UInt16 → UInt16} {s : SystemState} {c : CallId} {call : Call}

theorem step_advance (hcall : s.calls c = some call) (step : CallStep) :
    (system upcase).step s (.advance c step) = callStep s c call step := by
  show (s.calls c).bind _ = _
  rw [hcall, Option.bind_some]

/-- The phase of a call whose outcome is decided. -/
def RecordResult.phase (r : RecordResult) : CallPhase :=
  match r.notification with
  | none => .returned r
  | some n => .notifying r n

/-- The driver after the notification of a call, if there is one. -/
def RecordResult.notify (r : RecordResult) (driver : DriverState) : DriverState :=
  match r.notification with
  | none => driver
  | some n => (rsSendBlockNotification driver n).1

theorem rsRecordOperation_eq (driver : DriverState) (p : UInt32) (image : Option UnicodeString)
    (t : Int64) (allocates : Bool) :
    (rsRecordOperation driver p image t allocates).state =
        (recordSections driver p image t allocates).2.notify
          (recordSections driver p image t allocates).1 ∧
      (rsRecordOperation driver p image t allocates).result =
        (recordSections driver p image t allocates).2 := by
  unfold rsRecordOperation RecordResult.notify
  simp only []
  cases (recordSections driver p image t allocates).2.notification <;> exact ⟨rfl, rfl⟩

/-- The state after some steps of a call, whose allocation ends as given if there is one. -/
structure SystemState.Advanced (upcase : UInt16 → UInt16) (allocates : Bool) (s : SystemState)
    (c : CallId) (call' : Call) (driver' : DriverState) (s' : SystemState) : Prop where
  run : ∃ steps : List CallStep, .allocate (!allocates) ∉ steps ∧
    (system upcase).run s (steps.map (Action.advance c)) = some s'
  driver : s'.driver = driver'
  calls : s'.calls = Function.update s.calls c (some call')

variable {allocates : Bool}

theorem SystemState.Advanced.cons {s₁ s' : SystemState} {call₁ call' : Call}
    {driver' : DriverState} (step : CallStep) (hcall : s.calls c = some call)
    (hstep : callStep s c call step = some s₁) (hallocate : step ≠ .allocate (!allocates))
    (hcalls : s₁.calls = Function.update s.calls c (some call₁))
    (h : s₁.Advanced upcase allocates c call' driver' s') :
    s.Advanced upcase allocates c call' driver' s' where
  run := by
    obtain ⟨steps, hsteps, hrun⟩ := h.run
    refine ⟨step :: steps, ?_, ?_⟩
    · rw [List.mem_cons, not_or]
      exact ⟨hallocate.symm, hsteps⟩
    · rw [List.map_cons, Machine.run_cons, step_advance hcall, hstep, Option.bind_some]
      exact hrun
  driver := h.driver
  calls := by rw [h.calls, hcalls, Function.update_idem]

theorem SystemState.Advanced.nil (hcall : s.calls c = some call) :
    s.Advanced upcase allocates c call s.driver s where
  run := ⟨[], List.not_mem_nil, rfl⟩
  driver := rfl
  calls := by rw [← hcall, Function.update_eq_self]

theorem advanced_decided {r : RecordResult} (hcall : s.calls c = some call)
    (hphase : call.phase = r.phase) :
    ∃ s', s.Advanced upcase allocates c { call with phase := .returned r } (r.notify s.driver)
      s' := by
  unfold RecordResult.phase at hphase
  unfold RecordResult.notify
  cases hn : r.notification with
  | none =>
    rw [hn] at hphase
    have hreturned : call.phase = .returned r := hphase
    rw [← hreturned]
    exact ⟨s, .nil hcall⟩
  | some n =>
    rw [hn] at hphase
    simp only [rsSendBlockNotification]
    cases hport : s.driver.clientPort with
    | none =>
      have hstep : callStep s c call .snapshotPort = some (s.setPhase c call (.returned r)) := by
        simp only [callStep, hphase, hport]
      exact ⟨_, .cons _ hcall hstep CallStep.noConfusion rfl (.nil (Function.update_self ..))⟩
    | some port =>
      have hstep : callStep s c call .snapshotPort =
          some (s.setPhase c call (.drawing r n port)) := by
        simp only [callStep, hphase, hport]
      exact ⟨_, .cons .snapshotPort hcall hstep CallStep.noConfusion rfl
        (.cons .drawSequence (Function.update_self ..) rfl CallStep.noConfusion rfl
          (.cons .sendMessage (Function.update_self ..) rfl CallStep.noConfusion rfl
            (.nil (Function.update_self ..))))⟩

theorem advanced_section {step : CallStep} {outcome : DriverState × SectionResult}
    {r : RecordResult} (hcall : s.calls c = some call)
    (hstep : callStep s c call step = some (s.endSection c call outcome))
    (hallocate : step ≠ .allocate (!allocates)) (hr : outcome.2.result c.processId = some r) :
    ∃ s', s.Advanced upcase allocates c { call with phase := .returned r } (r.notify outcome.1)
      s' := by
  have hphase : outcome.2.phase c.processId = r.phase := by
    rw [SectionResult.phase, hr]
    rfl
  have hcalls : (s.endSection c call outcome).calls c =
      some { call with phase := outcome.2.phase c.processId } := Function.update_self ..
  obtain ⟨s', h⟩ := advanced_decided hcalls hphase
  exact ⟨s', .cons step hcall hstep hallocate rfl h⟩

/-- A call that has allocated a context, and finds none in the table, inserts it and returns. -/
theorem advanced_insert {newContext : RsProcessContext} (hcall : s.calls c = some call)
    (hphase : call.phase = .allocated newContext)
    (hnone : rsLookupProcessContext s.driver c.processId = none) :
    ∃ s', s.Advanced upcase allocates c
      { call with
        phase := .returned ((recordAndEvaluate s.driver.config newContext
          call.currentTime.ticks).result c.processId) }
      (((recordAndEvaluate s.driver.config newContext call.currentTime.ticks).result
        c.processId).notify ((s.driver.insertContext newContext).storeContext c.processId
          (recordAndEvaluate s.driver.config newContext call.currentTime.ticks).context))
      s' := by
  have hsecond : callStep s c call .secondSection = some (s.endSection c call
      (recordSecondSection s.driver newContext c.processId call.currentTime.ticks)) := by
    simp only [callStep, hphase]
  simp only [recordSecondSection, hnone] at hsecond
  exact advanced_section hcall hsecond CallStep.noConfusion rfl

/-- **An uninterrupted `RsRecordOperation`** is a run of the driver. -/
theorem run_rsRecordOperation (upcase : UInt16 → UInt16) (hcall : s.calls c = some call)
    (hphase : call.phase = .entered) (allocates : Bool) :
    ∃ s', s.Advanced upcase allocates c
      { call with
        phase := .returned (rsRecordOperation s.driver c.processId call.processImageName
          call.currentTime.ticks allocates).result }
      (rsRecordOperation s.driver c.processId call.processImageName call.currentTime.ticks
        allocates).state s' := by
  obtain ⟨hstate, hresult⟩ := rsRecordOperation_eq s.driver c.processId call.processImageName
    call.currentTime.ticks allocates
  rw [hstate, hresult]
  have hfirst : callStep s c call .firstSection = some (s.endSection c call
      (recordFirstSection s.driver c.processId call.currentTime.ticks)) := by
    simp only [callStep, hphase]
  cases hctx : rsLookupProcessContext s.driver c.processId with
  | some ctx =>
    simp only [recordFirstSection, hctx, recordInContext] at hfirst
    cases hb : ctx.isBlocked with
    | true =>
      rw [recordSections_of_blocks _ _ hctx hb]
      rw [hb, if_pos rfl] at hfirst
      exact advanced_section hcall hfirst CallStep.noConfusion rfl
    | false =>
      rw [recordSections_of_context _ _ hctx hb]
      rw [hb, if_neg Bool.false_ne_true] at hfirst
      exact advanced_section hcall hfirst CallStep.noConfusion rfl
  | none =>
    simp only [recordFirstSection, hctx] at hfirst
    have hcalls : (s.endSection c call (s.driver, .missing)).calls c =
        some { call with phase := .allocating } := Function.update_self ..
    cases allocates with
    | false =>
      rw [recordSections_outOfMemory _ _ hctx]
      exact ⟨_, .cons .firstSection hcall hfirst CallStep.noConfusion rfl
        (.cons (.allocate false) hcalls rfl (by decide) rfl (.nil (Function.update_self ..)))⟩
    | true =>
      have hcalls' := Function.update_self c (some { call with
        phase := .allocated (rsCreateProcessContext c.processId call.processImageName) })
        (s.endSection c call (s.driver, .missing)).calls
      obtain ⟨s', h⟩ : ∃ s', SystemState.Advanced upcase true
          ((s.endSection c call (s.driver, .missing)).setPhase c { call with phase := .allocating }
            (.allocated _)) c _ _ s' := advanced_insert hcalls' rfl hctx
      rw [recordSections_of_none _ _ hctx]
      exact ⟨s', .cons .firstSection hcall hfirst CallStep.noConfusion rfl
        (.cons (.allocate true) hcalls rfl (by decide) rfl h)⟩

/-- **An uninterrupted callback** is a run of the driver, which ends as the callback does and leaves
the other calls as they are. -/
theorem run_preOperation (upcase : UInt16 → UInt16) {data : FltCallbackData}
    (hnew : s.calls c = none) (hp : data.requestorProcessId = c.processId) :
    ∃ a, ∃ steps : List CallStep, ∃ s', (a = .pass c data ∨ a = .track c data) ∧
      (system upcase).run s (a :: steps.map (Action.advance c)) = some s' ∧
      s'.driver = (preOperation upcase s.driver data).state ∧
      (s'.calls c).bind Call.completion = some (preOperation upcase s.driver data).completion ∧
      ∀ d, d ≠ c → s'.calls d = s.calls d := by
  have haccepts : s.accepts c data = true := by
    rw [SystemState.accepts, hnew, hp]
    exact Bool.and_eq_true_iff.2 ⟨rfl, beq_self_eq_true _⟩
  rw [preOperation_eq, hp]
  -- the guards of the callback decide how the call starts
  by_cases hpass : data.passes upcase s.driver = true
  · have hstep : (system upcase).step s (.pass c data) =
        some (s.start c (data.newCall .passed)) := by
      simp only [system, haccepts, hpass, Bool.and_self, if_true]
    rw [if_pos hpass]
    refine ⟨.pass c data, [], s.start c (data.newCall .passed), .inl rfl,
      (Machine.run_singleton _ _).trans hstep, rfl, ?_, fun d hd => Function.update_of_ne hd _ _⟩
    rw [SystemState.start_calls, Function.update_self]
    rfl
  · have hstep : (system upcase).step s (.track c data) =
        some (s.start c (data.newCall .entered)) := by
      simp only [system, haccepts, hpass, Bool.not_false, Bool.and_self, if_true]
    have hcall : (s.start c (data.newCall .entered)).calls c = some (data.newCall .entered) :=
      Function.update_self ..
    obtain ⟨s', h⟩ := run_rsRecordOperation upcase hcall rfl data.allocates
    obtain ⟨steps, -, hrun⟩ := h.run
    rw [if_neg hpass]
    refine ⟨.track c data, steps, s', .inr rfl, ?_, h.driver, ?_, ?_⟩
    · rw [Machine.run_cons, hstep]
      exact hrun
    · rw [h.calls, Function.update_self]
      rfl
    · intro d hd
      rw [h.calls, Function.update_of_ne hd]
      exact Function.update_of_ne hd _ _

end RansomShield
