import RansomShield.System.View

/-!
# The steps of one process

What each action can do to a process, said once: `Process.Step` lists the cases, and the invariants
below are case analyses of it.  `Process.run_induction_view` takes an invariant of one process along
a run of the driver.

The first of them is `Process.Ledger`: the log of a process and its calls agree.  A call records at
most one operation; the context exists exactly while operations are logged, and is blocked exactly
when one of them reported so.
-/

namespace RansomShield

namespace Process

variable {p : UInt32}

/-- The action is a locked section of the call. -/
def Locked (a : Action) (i : ℕ) (call : Call) : Prop :=
  (a = .firstSection i ∧ call.phase = .entered) ∨ (a = .secondSection i ∧ call.phase = .allocated)

/-- The context in which a call records: the one in the table, or else a new one. -/
def Target (p : UInt32) (s : State) (call : Call) (ctx : RsProcessContext) : Prop :=
  s.context = some ctx ∨
    (s.context = none ∧ ctx = rsCreateProcessContext p call.processImageName)

/-- The operation that a call records. -/
def operation (p : UInt32) (i : ℕ) (call : Call) (e : Evaluation) : Operation where
  call := ⟨p, i⟩
  time := call.currentTime
  recentCount := e.recentCount
  shouldBlock := e.shouldBlock

/-- The evaluation of a call in a context. -/
def evaluation (s : State) (call : Call) (ctx : RsProcessContext) : Evaluation :=
  recordAndEvaluate s.config ctx call.currentTime.ticks

/-- The state after a call has recorded its operation in a context. -/
def recordedState (p : UInt32) (s : State) (i : ℕ) (call : Call) (ctx : RsProcessContext) :
    State :=
  { s.setPhase i call (.decided ((evaluation s call ctx).result p)) with
    context := some (evaluation s call ctx).context
    log := s.log ++ [operation p i call (evaluation s call ctx)] }

/-- **What the actions do to a process.** -/
inductive Step (p : UInt32) (s : State) : Action → State → Prop
  | enter (i : ℕ) (image : Option UnicodeString) (t : InterruptTime) (hnew : s.calls i = none) :
    Step p s (.enter i image t)
      { s with calls := Function.update s.calls i (some ⟨image, t, .entered⟩) }
  | missing (i : ℕ) (call : Call) (hcall : s.calls i = some call) (hphase : call.phase = .entered)
      (hnone : s.context = none) : Step p s (.firstSection i) (s.setPhase i call .allocating)
  | allocate (i : ℕ) (call : Call) (hcall : s.calls i = some call)
      (hphase : call.phase = .allocating) :
    Step p s (.allocate i true) (s.setPhase i call .allocated)
  | outOfMemory (i : ℕ) (call : Call) (hcall : s.calls i = some call)
      (hphase : call.phase = .allocating) :
    Step p s (.allocate i false) (s.setPhase i call (.decided RecordResult.outOfMemory))
  | blocked (a : Action) (i : ℕ) (call : Call) (ctx : RsProcessContext)
      (hcall : s.calls i = some call) (ha : Locked a i call) (hctx : s.context = some ctx)
      (hblocked : ctx.isBlocked = true) :
    Step p s a (s.setPhase i call (.decided RecordResult.blocked))
  | record (a : Action) (i : ℕ) (call : Call) (ctx : RsProcessContext)
      (hcall : s.calls i = some call) (ha : Locked a i call) (hctx : Target p s call ctx)
      (hblocked : ctx.isBlocked = false) : Step p s a (recordedState p s i call ctx)
  | applyConfig (threshold seconds : UInt32) (monitoring : UInt8) :
    Step p s (.applyConfig threshold seconds monitoring)
      { s with config := configAfter s.config threshold seconds monitoring }
  | setMonitoring (value : UInt8) :
    Step p s (.setMonitoring value)
      { s with config := { s.config with monitoringEnabled := value } }
  | remove : Step p s .remove { s with context := none, log := [] }

theorem Step.of_record {s : State} {a : Action} {i : ℕ} {call : Call} {ctx : RsProcessContext}
    (hcall : s.calls i = some call) (ha : Locked a i call) (hctx : s.context = some ctx) :
    Step p s a (s.endSection p i call
      (some (ctx.record s.config call.currentTime.ticks).1,
        (ctx.record s.config call.currentTime.ticks).2)) := by
  unfold RsProcessContext.record
  by_cases hb : ctx.isBlocked = true
  · rw [if_pos hb]
    have hs : s.endSection p i call (some ctx, .alreadyBlocked) =
        s.setPhase i call (.decided RecordResult.blocked) :=
      State.ext rfl hctx.symm rfl (List.append_nil _)
    exact hs ▸ .blocked a i call ctx hcall ha hctx hb
  · rw [if_neg hb]
    exact .record a i call ctx hcall ha (.inl hctx) (by simpa using hb)

theorem Step.of_callStep {s s' : State} {i : ℕ} {call : Call} {step : CallStep} {a : Action}
    (hcall : s.calls i = some call) (h : callStep p s i call step = some s')
    (ha : ofCallStep i step = some a) : Step p s a s' := by
  unfold callStep at h
  split at h
  · next hphase =>
    cases ha
    cases h
    cases hctx : s.context with
    | none =>
      have hs : s.endSection p i call (none, .missing) = s.setPhase i call .allocating :=
        State.ext rfl hctx.symm rfl (List.append_nil _)
      exact hs ▸ .missing i call hcall hphase hctx
    | some ctx => exact .of_record hcall (.inl ⟨rfl, hphase⟩) hctx
  · next hphase =>
    cases ha
    cases h
    exact .allocate i call hcall hphase
  · next hphase =>
    cases ha
    cases h
    exact .outOfMemory i call hcall hphase
  · next hphase =>
    cases ha
    cases h
    cases hctx : s.context with
    | none => exact .record _ i call _ hcall (.inr ⟨rfl, hphase⟩) (.inr ⟨hctx, rfl⟩) rfl
    | some ctx => exact .of_record hcall (.inr ⟨rfl, hphase⟩) hctx
  · cases h

/-- **Every step is one of the cases.** -/
theorem Step.of_step {s s' : State} {a : Action} (h : (machine p).step s a = some s') :
    Step p s a s' := by
  cases a with
  | enter i image t =>
    simp only [machine, Option.ite_none_right_eq_some, Option.some.injEq,
      Option.isNone_iff_eq_none] at h
    obtain ⟨hnew, rfl⟩ := h
    exact .enter i image t hnew
  | firstSection i =>
    obtain ⟨call, hcall, h⟩ := Option.bind_eq_some_iff.1 h
    exact .of_callStep hcall h rfl
  | allocate i succeeds =>
    obtain ⟨call, hcall, h⟩ := Option.bind_eq_some_iff.1 h
    exact .of_callStep hcall h rfl
  | secondSection i =>
    obtain ⟨call, hcall, h⟩ := Option.bind_eq_some_iff.1 h
    exact .of_callStep hcall h rfl
  | applyConfig threshold seconds monitoring =>
    cases h
    exact .applyConfig threshold seconds monitoring
  | setMonitoring value =>
    cases h
    exact .setMonitoring value
  | remove =>
    cases h
    exact .remove

/-- One action of the driver, seen from a process: nothing, or one of the cases. -/
theorem view_cases {upcase : UInt16 → UInt16} {s s' : SystemState} (hs : s.Sound)
    {a : RansomShield.Action} (h : (system upcase).step s a = some s') (p : UInt32) :
    view p s' = view p s ∨
      ∃ b, a.ofProcess p = some b ∧ Step p (view p s) b (view p s') := by
  cases hb : a.ofProcess p with
  | none => exact .inl (view_step_of_none hs h hb)
  | some b => exact .inr ⟨b, rfl, .of_step (view_step hs h hb)⟩

/-- **Induction along a run, seen from a process**: only the actions that it sees matter. -/
theorem run_induction_view {upcase : UInt16 → UInt16} {s₀ s : SystemState}
    {as : List RansomShield.Action} {I : State → Prop} (hs₀ : Reachable upcase s₀)
    (hrun : (system upcase).run s₀ as = some s) (h₀ : I (view p s₀))
    (hstep : ∀ bs a t b v, bs ++ [a] <+: as → (system upcase).run s₀ bs = some t →
      Reachable upcase t → I (view p t) → a.ofProcess p = some b → Step p (view p t) b v → I v) :
    I (view p s) := by
  refine Machine.run_induction (M := system upcase) (I := fun _ t => I (view p t)) hrun h₀ ?_
  intro bs a t t' hbs ht ih hat
  have hreach : Reachable upcase t := hs₀.run ht
  rcases view_cases hreach.sound hat p with hsame | ⟨b, hb, hcase⟩
  · rw [hsame]
    exact ih
  · exact hstep bs a t b _ hbs ht hreach ih hb hcase

theorem ofProcess_cases {a : RansomShield.Action} {b : Action} (h : a.ofProcess p = some b) :
    match b with
    | .firstSection i => a = .advance ⟨p, i⟩ .firstSection
    | .allocate i succeeds => a = .advance ⟨p, i⟩ (.allocate succeeds)
    | .secondSection i => a = .advance ⟨p, i⟩ .secondSection
    | .remove => a = .control (.removeProcessContext p)
    | _ => True := by
  cases a with
  | pass c data => cases h
  | track c data =>
    simp only [Action.ofProcess, Option.ite_none_right_eq_some, Option.some.injEq] at h
    obtain ⟨-, rfl⟩ := h
    trivial
  | call c processImageName currentTime =>
    simp only [Action.ofProcess, Option.ite_none_right_eq_some, Option.some.injEq] at h
    obtain ⟨-, rfl⟩ := h
    trivial
  | advance c step =>
    simp only [Action.ofProcess, Option.ite_none_right_eq_some] at h
    obtain ⟨rfl, hstep⟩ := h
    cases step <;> cases hstep <;> rfl
  | control k =>
    have hk : ofControl p k = some b := h
    cases k with
    | removeProcessContext q =>
      simp only [ofControl, Option.ite_none_right_eq_some, Option.some.injEq] at hk
      obtain ⟨rfl, rfl⟩ := hk
      rfl
    | applyConfig | setMonitoring =>
      cases hk
      trivial
    | clearDynamicAllowlist | addDynamicAllowlistEntry | drawSequence | getBlockedPids
    | getPidCounts | connect | disconnect => cases hk

theorem Locked.advance {a : RansomShield.Action} {b : Action} (hb : a.ofProcess p = some b)
    {i : ℕ} {call : Call} (h : Locked b i call) :
    ∃ step, (step = .firstSection ∨ step = .secondSection) ∧ a = .advance ⟨p, i⟩ step := by
  rcases h with ⟨rfl, -⟩ | ⟨rfl, -⟩
  · exact ⟨.firstSection, .inl rfl, ofProcess_cases hb⟩
  · exact ⟨.secondSection, .inr rfl, ofProcess_cases hb⟩

/-! ### Outcomes -/

theorem result_update {s s' : State} {i : ℕ} {call : Call}
    (h : s'.calls = Function.update s.calls i (some call)) (j : ℕ) :
    s'.result j = if j = i then call.phase.result else s.result j :=
  bind_update h _ j

theorem result_eq_some {s : State} {i : ℕ} {r : RecordResult} (h : s.result i = some r) :
    ∃ call, s.calls i = some call ∧ call.phase = .decided r := by
  obtain ⟨call, hcall, hr⟩ := Option.bind_eq_some_iff.1 h
  refine ⟨call, hcall, ?_⟩
  cases hphase : call.phase <;> rw [hphase] at hr <;> cases hr
  rfl

/-- How the outcome of a call is decided. -/
inductive Decided (p : UInt32) (s : State) (a : Action) (s' : State) (i : ℕ) :
    RecordResult → Prop
  /-- The allocation failed. -/
  | outOfMemory (ha : a = .allocate i false) : Decided p s a s' i RecordResult.outOfMemory
  /-- A lookup found a blocked context. -/
  | blocked (call : Call) (ctx : RsProcessContext) (hcall : s.calls i = some call)
      (ha : Locked a i call) (hctx : s.context = some ctx) (hblocked : ctx.isBlocked = true) :
      Decided p s a s' i RecordResult.blocked
  /-- The operation was recorded. -/
  | record (call : Call) (ctx : RsProcessContext) (hcall : s.calls i = some call)
      (ha : Locked a i call) (hctx : Target p s call ctx) (hblocked : ctx.isBlocked = false)
      (hs' : s' = recordedState p s i call ctx) :
      Decided p s a s' i ((evaluation s call ctx).result p)

/-- **The step that decides a call.** -/
theorem Step.decided {s s' : State} {a : Action} (h : Step p s a s') {i : ℕ} {r : RecordResult}
    (hbefore : s.result i = none) (hafter : s'.result i = some r) : Decided p s a s' i r := by
  have key : ∀ {j : ℕ} {phase : Phase},
      (if i = j then phase.result else s.result i) = some r →
        i = j ∧ phase.result = some r := by
    intro j phase hr
    by_cases hij : i = j
    · rw [if_pos hij] at hr
      exact ⟨hij, hr⟩
    · rw [if_neg hij, hbefore] at hr
      cases hr
  cases h with
  | enter j image t hnew =>
    rw [result_update rfl] at hafter
    cases (key hafter).2
  | missing j call hcall hphase hnone =>
    rw [result_update rfl] at hafter
    cases (key hafter).2
  | allocate j call hcall hphase =>
    rw [result_update rfl] at hafter
    cases (key hafter).2
  | outOfMemory j call hcall hphase =>
    rw [result_update rfl] at hafter
    obtain ⟨rfl, hr⟩ := key hafter
    cases hr
    exact .outOfMemory rfl
  | blocked a j call ctx hcall ha hctx hblocked =>
    rw [result_update rfl] at hafter
    obtain ⟨rfl, hr⟩ := key hafter
    cases hr
    exact .blocked call ctx hcall ha hctx hblocked
  | record a j call ctx hcall ha hctx hblocked =>
    rw [result_update rfl] at hafter
    obtain ⟨rfl, hr⟩ := key hafter
    cases hr
    exact .record call ctx hcall ha hctx hblocked rfl
  | applyConfig | setMonitoring | remove => cases hbefore.symm.trans hafter

/-- **A decided call stays decided.** -/
theorem Step.result_eq {s s' : State} {a : Action} (h : Step p s a s') {i : ℕ} {r : RecordResult}
    (hr : s.result i = some r) : s'.result i = some r := by
  have hne : ∀ {j : ℕ}, s.result j = none → i ≠ j := by
    rintro j hj rfl
    cases hj.symm.trans hr
  have hopen : ∀ {j : ℕ} {call : Call}, s.calls j = some call → call.phase.result = none →
      s.result j = none := by
    intro j call hcall hphase
    rw [State.result, hcall]
    exact hphase
  cases h with
  | enter j image t hnew =>
    rw [result_update rfl, if_neg (hne (by rw [State.result, hnew]; rfl)), hr]
  | missing j call hcall hphase | allocate j call hcall hphase
  | outOfMemory j call hcall hphase =>
    rw [result_update rfl, if_neg (hne (hopen hcall (by rw [hphase]; rfl))), hr]
  | blocked a j call ctx hcall ha | record a j call ctx hcall ha =>
    have hphase : call.phase.result = none := by
      rcases ha with ⟨-, hphase⟩ | ⟨-, hphase⟩ <;> rw [hphase] <;> rfl
    rw [result_update rfl, if_neg (hne (hopen hcall hphase)), hr]
  | applyConfig | setMonitoring | remove => exact hr

theorem Decided.advance {a : RansomShield.Action} {b : Action} (hb : a.ofProcess p = some b)
    {s s' : State} {i : ℕ} {r : RecordResult} (h : Decided p s b s' i r) :
    ∃ step, a = .advance ⟨p, i⟩ step := by
  cases h with
  | outOfMemory ha =>
    subst ha
    exact ⟨_, ofProcess_cases hb⟩
  | blocked call ctx hcall ha | record call ctx hcall ha =>
    obtain ⟨step, -, hstep⟩ := ha.advance hb
    exact ⟨step, hstep⟩

theorem decided_of_step {upcase : UInt16 → UInt16} {s s' : SystemState} (hs : s.Sound)
    {a : RansomShield.Action} (h : (system upcase).step s a = some s') {c : CallId}
    {r : RecordResult} (hbefore : s.result c = none) (hafter : s'.result c = some r) :
    ∃ b, a.ofProcess c.processId = some b ∧
      Decided c.processId (view c.processId s) b (view c.processId s') c.serial r := by
  rw [← view_result] at hbefore hafter
  rcases view_cases hs h c.processId with hsame | ⟨b, hb, hstep⟩
  · rw [hsame, hbefore] at hafter
    cases hafter
  · exact ⟨b, hb, hstep.decided hbefore hafter⟩

theorem result_of_step {upcase : UInt16 → UInt16} {s s' : SystemState} (hs : s.Sound)
    {a : RansomShield.Action} (h : (system upcase).step s a = some s') {c : CallId}
    {r : RecordResult} (hr : s.result c = some r) : s'.result c = some r := by
  rw [← view_result] at hr ⊢
  rcases view_cases hs h c.processId with hsame | ⟨b, -, hstep⟩
  · rw [hsame]
    exact hr
  · exact hstep.result_eq hr

/-- **The threshold check of a call**, in a run of the driver. -/
theorem evaluated_of_step {upcase : UInt16 → UInt16} {s s' : SystemState} (hs : s.Sound)
    {a : RansomShield.Action} (h : (system upcase).step s a = some s') {c : CallId}
    {r : RecordResult} {n : UInt32} (hbefore : s.result c = none) (hafter : s'.result c = some r)
    (hn : r.recentCount = some n) :
    ∃ call ctx step, a = .advance c step ∧ (view c.processId s).calls c.serial = some call ∧
      Target c.processId (view c.processId s) call ctx ∧ ctx.isBlocked = false ∧
      view c.processId s' = recordedState c.processId (view c.processId s) c.serial call ctx ∧
      r = (evaluation (view c.processId s) call ctx).result c.processId := by
  obtain ⟨b, hb, hdecided⟩ := decided_of_step hs h hbefore hafter
  cases hdecided with
  | outOfMemory ha => cases hn
  | blocked call ctx hcall ha hctx hblocked => cases hn
  | record call ctx hcall ha hctx hblocked hs' =>
    obtain ⟨step, -, hadvance⟩ := ha.advance hb
    exact ⟨call, ctx, step, hadvance, hcall, hctx, hblocked, hs', rfl⟩

/-! ### The ledger -/

/-- The call is not over, or has not begun. -/
def Pending (s : State) (i : ℕ) : Prop :=
  ∀ call result, s.calls i = some call → call.phase ≠ .decided result

theorem Locked.pending {s : State} {a : Action} {i : ℕ} {call : Call}
    (h : Locked a i call) (hcall : s.calls i = some call) : Pending s i := by
  intro call' result hcall'
  cases hcall.symm.trans hcall'
  rcases h with ⟨-, hp⟩ | ⟨-, hp⟩ <;> rw [hp] <;> exact Phase.noConfusion

theorem pending_of_phase {s : State} {i : ℕ} {call : Call} (hcall : s.calls i = some call)
    (hphase : ∀ result, call.phase ≠ .decided result) : Pending s i := by
  intro call' result hcall'
  cases hcall.symm.trans hcall'
  exact hphase result

theorem pending_of_none {s : State} {i : ℕ} (h : s.calls i = none) : Pending s i := by
  intro call result hcall
  cases h.symm.trans hcall

/-- The call of a logged operation has evaluated it, and is over. -/
def Logged (p : UInt32) (s : State) (op : Operation) : Prop :=
  ∃ call e, s.calls op.call.serial = some call ∧ call.phase = .decided (Evaluation.result e p) ∧
    op = operation p op.call.serial call e

/-- The log of a process agrees with its calls and its context. -/
structure Ledger (p : UInt32) (s : State) : Prop where
  logged : ∀ op ∈ s.log, Logged p s op
  nodup : (s.log.map Operation.call).Nodup
  /-- The context exists while operations are logged. -/
  context_none : s.context = none ↔ s.log = []
  /-- The context is blocked once an operation has been answered so. -/
  blocked : ∀ ctx, s.context = some ctx →
    (ctx.isBlocked = true ↔ ∃ op ∈ s.log, op.shouldBlock = true)
  /-- The ring holds times of logged operations, each at most once, in order. -/
  valid : ∀ ctx, s.context = some ctx →
    ctx.valid.Sublist (s.log.map fun op => op.time.ticks)

theorem Logged.serial_ne {s : State} {op : Operation} (h : Logged p s op) {i : ℕ}
    (hi : Pending s i) : op.call.serial ≠ i := by
  rintro rfl
  obtain ⟨call, e, hcall, hphase, -⟩ := h
  exact hi call _ hcall hphase

theorem Logged.update {s s' : State} {op : Operation} (h : Logged p s op) {i : ℕ}
    (hi : Pending s i) {call : Option Call} (hs' : s'.calls = Function.update s.calls i call) :
    Logged p s' op := by
  have hne := h.serial_ne hi
  obtain ⟨call', e, hcall, hphase, hop⟩ := h
  refine ⟨call', e, ?_, hphase, hop⟩
  rw [hs', Function.update_of_ne hne]
  exact hcall

theorem Ledger.update {s : State} (h : Ledger p s) {i : ℕ} (hi : Pending s i)
    (call : Option Call) : Ledger p { s with calls := Function.update s.calls i call } where
  logged op hop := (h.logged op hop).update hi rfl
  nodup := h.nodup
  context_none := h.context_none
  blocked := h.blocked
  valid := h.valid

theorem Ledger.target_valid {s : State} (h : Ledger p s) {call : Call} {ctx : RsProcessContext}
    (hctx : Target p s call ctx) : ctx.valid.Sublist (s.log.map fun op => op.time.ticks) := by
  rcases hctx with hctx | ⟨-, rfl⟩
  · exact h.valid ctx hctx
  · rw [RsProcessContext.valid_rsCreateProcessContext]
    exact List.nil_sublist _

/-- No logged operation was answered with a block, as long as calls record. -/
theorem Ledger.target_unblocked {s : State} (h : Ledger p s) {call : Call}
    {ctx : RsProcessContext} (hctx : Target p s call ctx) (hb : ctx.isBlocked = false) :
    ∀ op ∈ s.log, op.shouldBlock = false := by
  rcases hctx with hctx | ⟨hnone, -⟩
  · intro op hop
    by_contra hne
    have := (h.blocked ctx hctx).2 ⟨op, hop, by simpa using hne⟩
    rw [hb] at this
    cases this
  · rw [h.context_none.1 hnone]
    exact fun op hop => by cases hop

theorem Ledger.record {s : State} (h : Ledger p s) {i : ℕ} (hi : Pending s i) {call : Call}
    {ctx : RsProcessContext} (hctx : Target p s call ctx) (hb : ctx.isBlocked = false) :
    Ledger p (recordedState p s i call ctx) where
  logged op hop := by
    -- the context was not blocked, so that only the new operation can have been answered so
    rcases List.mem_append.1 hop with hop | hop
    · exact (h.logged op hop).update hi rfl
    · rw [List.mem_singleton.1 hop]
      exact ⟨{ call with phase := .decided ((evaluation s call ctx).result p) },
        evaluation s call ctx, Function.update_self .., rfl, rfl⟩
  nodup := by
    show ((s.log ++ [operation p i call (evaluation s call ctx)]).map Operation.call).Nodup
    rw [List.map_append, List.nodup_append]
    refine ⟨h.nodup, List.nodup_singleton _, ?_⟩
    rintro c hc c' hc' rfl
    obtain ⟨op, hop, rfl⟩ := List.mem_map.1 hc
    have hserial : op.call.serial = i := congrArg CallId.serial (List.mem_singleton.1 hc')
    exact (h.logged op hop).serial_ne hi hserial
  context_none := by
    constructor
    · exact fun hnone => by cases hnone
    · exact fun hnil => absurd hnil (List.append_ne_nil_of_right_ne_nil _ (List.cons_ne_nil _ _))
  blocked ctx' hctx' := by
    cases hctx'
    rw [evaluation, recordAndEvaluate_isBlocked, hb, Bool.false_or]
    constructor
    · exact fun hblock => ⟨_, List.mem_append_right _ (List.mem_singleton_self _), hblock⟩
    · rintro ⟨op, hop, hblock⟩
      rcases List.mem_append.1 hop with hop | hop
      · rw [h.target_unblocked hctx hb op hop] at hblock
        cases hblock
      · rw [List.mem_singleton.1 hop] at hblock
        exact hblock
  valid ctx' hctx' := by
    cases hctx'
    rw [evaluation, valid_recordAndEvaluate]
    show List.Sublist _ ((s.log ++ [_]).map _)
    rw [List.map_append]
    exact RsProcessContext.slide_sublist (h.target_valid hctx)

/-- **Every step keeps the ledger.** -/
theorem Ledger.step {s s' : State} {a : Action} (h : Ledger p s) (hstep : Step p s a s') :
    Ledger p s' := by
  cases hstep with
  | enter i image t hnew => exact h.update (pending_of_none hnew) _
  | missing i call hcall hphase hnone =>
    exact h.update (pending_of_phase hcall (by rw [hphase]; exact fun _ => Phase.noConfusion)) _
  | allocate i call hcall hphase =>
    exact h.update (pending_of_phase hcall (by rw [hphase]; exact fun _ => Phase.noConfusion)) _
  | outOfMemory i call hcall hphase =>
    exact h.update (pending_of_phase hcall (by rw [hphase]; exact fun _ => Phase.noConfusion)) _
  | blocked a i call ctx hcall ha hctx hblocked => exact h.update (ha.pending hcall) _
  | record a i call ctx hcall ha hctx hblocked => exact h.record (ha.pending hcall) hctx hblocked
  | applyConfig | setMonitoring =>
    exact ⟨h.logged, h.nodup, h.context_none, h.blocked, h.valid⟩
  | remove =>
    exact ⟨fun _ hop => (by cases hop), List.nodup_nil, ⟨fun _ => rfl, fun _ => rfl⟩,
      fun _ hctx => (by cases hctx), fun _ hctx => (by cases hctx)⟩

/-! ### Accounts -/

/-- The decided calls that satisfy `P` have recorded their operation, which is among `ops`. -/
def Accounted (p : UInt32) (P : ℕ → RecordResult → Prop) (ops : List Operation) (s : State) :
    Prop :=
  ∀ i call r, s.calls i = some call → call.phase = .decided r → P i r →
    ∃ op ∈ ops, op.call = ⟨p, i⟩ ∧ op.time = call.currentTime ∧ op.shouldBlock = r.shouldBlock

section

variable {P : ℕ → RecordResult → Prop} {ops : List Operation} {s : State}

/-- A step that changes nothing but a call, and does not decide it in a way that matters. -/
theorem Accounted.update (h : Accounted p P ops s) (i : ℕ) {call : Call}
    (hcall : ∀ r, call.phase = .decided r → ¬ P i r) :
    Accounted p P ops { s with calls := Function.update s.calls i (some call) } := by
  intro j call' r hj hr hP
  by_cases hji : j = i
  · subst hji
    cases (Function.update_self j _ s.calls).symm.trans hj
    exact absurd hP (hcall r hr)
  · exact h j call' r ((Function.update_of_ne hji _ _).symm.trans hj) hr hP

theorem Accounted.record (h : Accounted p P ops s) (i : ℕ) (call : Call) (ctx : RsProcessContext) :
    Accounted p P (ops ++ [operation p i call (evaluation s call ctx)])
      (recordedState p s i call ctx) := by
  intro j call' r hj hr hP
  by_cases hji : j = i
  · subst hji
    have hself : some { call with phase := .decided ((evaluation s call ctx).result p) } =
        some call' := (Function.update_self j _ s.calls).symm.trans hj
    cases hself
    cases hr
    exact ⟨_, List.mem_append_right _ (List.mem_singleton_self _), rfl, rfl, rfl⟩
  · have hold : s.calls j = some call' := (Function.update_of_ne hji _ _).symm.trans hj
    obtain ⟨op, hop, hcases⟩ := h j call' r hold hr hP
    exact ⟨op, List.mem_append_left _ hop, hcases⟩

end

/-! ### The ledger of reachable states -/

theorem ledger_init (p : UInt32) : Ledger p State.init where
  logged _ hop := by cases hop
  nodup := List.nodup_nil
  context_none := ⟨fun _ => rfl, fun _ => rfl⟩
  blocked _ hctx := by cases hctx
  valid _ hctx := by cases hctx

theorem ledger_of_run {s s' : State} {as : List Action} (h : Ledger p s)
    (hrun : (machine p).run s as = some s') : Ledger p s' :=
  Machine.run_invariant hrun h fun _ _ _ hs _ hstep => hs.step (.of_step hstep)

/-- **The ledger of every process holds in every reachable state.** -/
theorem ledger_of_reachable {upcase : UInt16 → UInt16} {s : SystemState}
    (h : Reachable upcase s) (p : UInt32) : Ledger p (view p s) := by
  obtain ⟨as, hrun⟩ := h
  have hview := run_view p sound_init hrun
  rw [view_init] at hview
  exact ledger_of_run (ledger_init p) hview

end Process

/-! ### Phases -/

section

variable {upcase : UInt16 → UInt16}

/-- **What every step of a call keeps** holds of every call. -/
theorem phase_of_reachable {P : CallPhase → Prop} (hpassed : P .passed) (hentered : P .entered)
    (hstep : ∀ {s s' : SystemState} {c : CallId} {call : Call} {step : CallStep}, P call.phase →
      callStep s c call step = some s' →
      ∃ phase, s'.calls = Function.update s.calls c (some { call with phase := phase }) ∧ P phase)
    {s : SystemState} (h : Reachable upcase s) {c : CallId} {call : Call}
    (hcall : s.calls c = some call) : P call.phase := by
  obtain ⟨as, hrun⟩ := h
  have key : ∀ {t : SystemState} {d : CallId} {new : Call},
      (∀ c call, t.calls c = some call → P call.phase) → P new.phase →
      ∀ c call, Function.update t.calls d (some new) c = some call → P call.phase := by
    intro t d new ht hnew c call hc
    by_cases hcd : c = d
    · rw [hcd, Function.update_self] at hc
      cases hc
      exact hnew
    · rw [Function.update_of_ne hcd] at hc
      exact ht c call hc
  refine Machine.run_invariant (M := system upcase)
    (I := fun t => ∀ c call, t.calls c = some call → P call.phase) hrun (fun _ _ hc => by cases hc)
    ?_ c call hcall
  intro t a t' ht _ hat
  obtain ⟨d, new, -, hphase, rfl⟩ | ⟨d, step, old, -, hold, hcs⟩ | ⟨k, -, rfl⟩ :=
    system_step_cases hat
  · refine key ht ?_
    rcases hphase with hp | hp <;> rw [hp]
    · exact hpassed
    · exact hentered
  · obtain ⟨phase, hcalls, hphase⟩ := hstep (ht d old hold) hcs
    rw [hcalls]
    exact key ht hphase
  · exact ht

/-- The outcome denies the request. -/
def RecordResult.Denies (r : RecordResult) : Prop := r.status = .success ∧ r.shouldBlock = true

/-- A call that has something to notify denies, and no call blocks and fails. -/
def CallPhase.Settled : CallPhase → Prop
  | .notifying r _ => r.Denies
  | .drawing r _ _ => r.Denies
  | .sending r _ _ => r.Denies
  | .returned r => r.shouldBlock = true → r.status = .success
  | _ => True

theorem SectionResult.settled_phase (p : UInt32) (r : SectionResult) : (r.phase p).Settled := by
  cases r with
  | missing => trivial
  | alreadyBlocked => exact fun _ => rfl
  | evaluated e =>
    cases hblock : e.shouldBlock with
    | false =>
      simp only [SectionResult.phase, SectionResult.result, Evaluation.result, hblock]
      exact fun h => by cases h
    | true =>
      simp only [SectionResult.phase, SectionResult.result, Evaluation.result, hblock, if_true]
      exact ⟨rfl, rfl⟩

theorem settled_of_callStep {s s' : SystemState} {c : CallId} {call : Call} {step : CallStep}
    (hphase : call.phase.Settled) (h : callStep s c call step = some s') :
    ∃ phase, s'.calls = Function.update s.calls c (some { call with phase := phase }) ∧
      phase.Settled := by
  unfold callStep at h
  split at h
  · cases h
    exact ⟨_, rfl, SectionResult.settled_phase _ _⟩
  · cases h
    exact ⟨_, rfl, trivial⟩
  · cases h
    exact ⟨_, rfl, fun hblock => by cases hblock⟩
  · cases h
    exact ⟨_, rfl, SectionResult.settled_phase _ _⟩
  · next r n hp =>
    rw [hp] at hphase
    split at h
    · cases h
      exact ⟨_, rfl, fun _ => hphase.1⟩
    · cases h
      exact ⟨_, rfl, hphase⟩
  · next r n port hp =>
    rw [hp] at hphase
    cases h
    exact ⟨_, rfl, hphase⟩
  · next r port m hp =>
    rw [hp] at hphase
    cases h
    exact ⟨_, rfl, fun _ => hphase.1⟩
  · cases h

theorem settled_of_reachable {s : SystemState} (h : Reachable upcase s) {c : CallId} {call : Call}
    (hcall : s.calls c = some call) : call.phase.Settled :=
  phase_of_reachable trivial trivial settled_of_callStep h hcall

/-- **A call that is told to block denies.** -/
theorem denies_of_shouldBlock {s : SystemState} (h : Reachable upcase s) {c : CallId}
    {r : RecordResult} (hr : s.result c = some r) (hblock : r.shouldBlock = true) : r.Denies := by
  obtain ⟨call, hcall, hr⟩ := Option.bind_eq_some_iff.1 hr
  have hsettled := settled_of_reachable h hcall
  cases hphase : call.phase <;> rw [hphase] at hr hsettled <;> cases hr
  · exact hsettled
  · exact hsettled
  · exact hsettled
  · exact ⟨hsettled hblock, hblock⟩

end

end RansomShield
