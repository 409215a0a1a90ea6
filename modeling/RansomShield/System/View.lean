import RansomShield.System.Process

/-!
# The view of one process

**Every run of the driver, seen from the process `p`, is a run of `Process.machine p`** on the
actions that `p` sees (`Process.run_view`); the actions of the other processes are invisible to
it, whichever bucket they hash to.  Single actions are `Process.view_step` and
`Process.view_step_of_none`; they rest on what holds of the table and of the allocated contexts in
every reachable state (`SystemState.Sound`).
-/

namespace RansomShield

/-! ### The log of a process -/

theorem operationsOf_concat_recorded (p : UInt32) (history : List TrackerEvent) (op : Operation) :
    operationsOf p (history ++ [.recorded op]) =
      if op.call.processId = p then operationsOf p history ++ [op] else operationsOf p history := by
  rw [operationsOf, List.foldl_append]
  rfl

theorem operationsOf_concat_removed (p q : UInt32) (history : List TrackerEvent) :
    operationsOf p (history ++ [.removed q]) = if q = p then [] else operationsOf p history := by
  rw [operationsOf, List.foldl_append]
  rfl

namespace Process

variable {p : UInt32}

theorem operationsOf_events (history : List TrackerEvent) (c : CallId) (t : InterruptTime)
    (r : SectionResult) :
    operationsOf p (history ++ r.events c t) =
      if c.processId = p then operationsOf p history ++ recordedBy c t r
      else operationsOf p history := by
  cases r with
  | evaluated e => exact operationsOf_concat_recorded p history _
  | missing => simp only [SectionResult.events, recordedBy, List.append_nil, ite_self]
  | alreadyBlocked => simp only [SectionResult.events, recordedBy, List.append_nil, ite_self]

theorem viewPhase_phase (r : SectionResult) : viewPhase (r.phase p) = some (phaseAfter p r) := by
  cases r with
  | missing => rfl
  | alreadyBlocked => rfl
  | evaluated e =>
    unfold SectionResult.phase phaseAfter
    simp only [SectionResult.result]
    cases (e.result p).notification <;> rfl

/-! ### Steps seen from a process -/

theorem view_calls_update (s : SystemState) (i : ℕ) (call : RansomShield.Call) :
    (fun j => (Function.update s.calls ⟨p, i⟩ (some call) ⟨p, j⟩).bind viewCall) =
      Function.update (view p s).calls i (viewCall call) := by
  funext j
  by_cases hj : j = i
  · rw [hj, Function.update_self, Function.update_self]; rfl
  · have hne : (⟨p, j⟩ : CallId) ≠ ⟨p, i⟩ := fun h => hj (congrArg CallId.serial h)
    rw [Function.update_of_ne hne, Function.update_of_ne hj]
    rfl

theorem view_calls_update_of_ne (s : SystemState) {c : CallId} (hc : c.processId ≠ p)
    (call : Option RansomShield.Call) :
    (fun j => (Function.update s.calls c call ⟨p, j⟩).bind viewCall) = (view p s).calls := by
  funext j
  have hne : (⟨p, j⟩ : CallId) ≠ c := fun h => hc (congrArg CallId.processId h).symm
  rw [Function.update_of_ne hne]
  rfl

/-- A call as its process sees it, when the phase is known. -/
def ofCall (call : RansomShield.Call) (phase : Phase) : Call :=
  ⟨call.processImageName, call.currentTime, phase⟩

theorem viewCall_eq {call : RansomShield.Call} (phase : Phase)
    (h : viewPhase call.phase = some phase) : viewCall call = some (ofCall call phase) := by
  rw [viewCall, h]
  rfl

theorem view_calls {s : SystemState} {i : ℕ} {call : RansomShield.Call}
    (hcall : s.calls ⟨p, i⟩ = some call) (phase : Phase) (h : viewPhase call.phase = some phase) :
    (view p s).calls i = some (ofCall call phase) := by
  show (s.calls ⟨p, i⟩).bind viewCall = _
  rw [hcall, Option.bind_some, viewCall_eq phase h]

theorem view_setPhase (s : SystemState) (i : ℕ) (call : RansomShield.Call) {phase : CallPhase}
    {phase' : Phase} (h : viewPhase phase = some phase') (phase₀ : Phase) :
    view p (s.setPhase ⟨p, i⟩ call phase) =
      (view p s).setPhase i (ofCall call phase₀) phase' := by
  refine State.ext rfl rfl ?_ rfl
  show (fun j => (Function.update s.calls ⟨p, i⟩ _ ⟨p, j⟩).bind viewCall) = _
  rw [view_calls_update, viewCall_eq phase' h]
  rfl

theorem view_setPhase_same (s : SystemState) (i : ℕ) {call : RansomShield.Call}
    (hcall : s.calls ⟨p, i⟩ = some call) {phase : CallPhase}
    (h : viewPhase phase = viewPhase call.phase) :
    view p (s.setPhase ⟨p, i⟩ call phase) = view p s := by
  refine State.ext rfl rfl ?_ rfl
  show (fun j => (Function.update s.calls ⟨p, i⟩ _ ⟨p, j⟩).bind viewCall) = _
  rw [view_calls_update]
  refine Function.update_eq_self_iff.2 ?_
  show viewCall _ = (s.calls ⟨p, i⟩).bind viewCall
  rw [hcall, Option.bind_some, viewCall, viewCall, h]

theorem view_endSection (s : SystemState) (i : ℕ) (call : RansomShield.Call)
    {outcome : DriverState × SectionResult} {outcome' : Option RsProcessContext × SectionResult}
    (hglobals : s.driver.SameGlobals outcome.1)
    (hcontext : rsLookupProcessContext outcome.1 p = outcome'.1)
    (hresult : outcome.2 = outcome'.2) (phase₀ : Phase) :
    view p (s.endSection ⟨p, i⟩ call outcome) =
      (view p s).endSection p i (ofCall call phase₀) outcome' := by
  refine State.ext hglobals.config hcontext ?_ ?_
  · show (fun j => (Function.update s.calls ⟨p, i⟩ _ ⟨p, j⟩).bind viewCall) = _
    rw [view_calls_update, viewCall_eq _ (viewPhase_phase outcome.2), hresult]
    rfl
  · show operationsOf p (s.history ++ outcome.2.events ⟨p, i⟩ call.currentTime) = _
    rw [operationsOf_events, if_pos rfl, hresult]
    rfl

/-- A locked section of a call of another process is invisible. -/
theorem view_endSection_of_ne (s : SystemState) {c : CallId} (hc : c.processId ≠ p)
    (call : RansomShield.Call) {outcome : DriverState × SectionResult}
    (hglobals : s.driver.SameGlobals outcome.1)
    (hcontext : rsLookupProcessContext outcome.1 p = rsLookupProcessContext s.driver p) :
    view p (s.endSection c call outcome) = view p s := by
  refine State.ext hglobals.config hcontext (view_calls_update_of_ne s hc _) ?_
  show operationsOf p (s.history ++ outcome.2.events c call.currentTime) = _
  rw [operationsOf_events, if_neg hc]
  rfl

end Process

/-! ### Reachable states -/

/-- The table is well formed, and an allocated context that is not yet in it is a new context of
the calling process. -/
structure SystemState.Sound (s : SystemState) : Prop where
  wellFormed : s.driver.WellFormed
  fresh : ∀ c call newContext, s.calls c = some call → call.phase = .allocated newContext →
    newContext = rsCreateProcessContext c.processId call.processImageName

theorem sound_init : SystemState.init.Sound where
  wellFormed := wellFormed_init
  fresh _ _ _ hc := by cases hc

theorem SystemState.Sound.driver {s : SystemState} (h : s.Sound) {driver' : DriverState}
    (hdriver : driver'.WellFormed) (sent' : List (PortHandle × RsNotificationBlockedPid))
    (history' : List TrackerEvent) :
    SystemState.Sound { s with driver := driver', sent := sent', history := history' } where
  wellFormed := hdriver
  fresh := h.fresh

/-- Replacing a call keeps a sound state sound, if an allocated context of it is new. -/
theorem SystemState.Sound.start {s : SystemState} (h : s.Sound) {c : CallId} {call : Call}
    (hnew : ∀ newContext, call.phase = .allocated newContext →
      newContext = rsCreateProcessContext c.processId call.processImageName) :
    (s.start c call).Sound where
  wellFormed := h.wellFormed
  fresh c' call' newContext hcall hphase := by
    by_cases hc : c' = c
    · subst hc
      rw [SystemState.start_calls, Function.update_self] at hcall
      cases hcall
      exact hnew newContext hphase
    · rw [SystemState.start_calls, Function.update_of_ne hc] at hcall
      exact h.fresh c' call' newContext hcall hphase

theorem phase_ne_allocated (p : UInt32) (r : SectionResult) (newContext : RsProcessContext) :
    r.phase p ≠ .allocated newContext := by
  unfold SectionResult.phase
  split
  · exact CallPhase.noConfusion
  · split <;> exact CallPhase.noConfusion

theorem wellFormed_apply {s : DriverState} (h : s.WellFormed) (k : Control) :
    (k.apply s).WellFormed := by
  cases k with
  | removeProcessContext processId => exact h.removeProcessContext processId
  | addDynamicAllowlistEntry entry =>
    simp only [Control.apply, rsAddDynamicAllowlistEntry]
    split_ifs <;> exact h
  | applyConfig | setMonitoring | clearDynamicAllowlist | drawSequence | getBlockedPids
  | getPidCounts | connect | disconnect => exact h

/-- **Every step keeps the state sound.** -/
theorem SystemState.Sound.step {upcase : UInt16 → UInt16} {s s' : SystemState} {a : Action}
    (h : s.Sound) (hstep : (system upcase).step s a = some s') : s'.Sound := by
  obtain ⟨c, call, -, hphase, rfl⟩ | ⟨c, step, call, -, hcall, hcs⟩ | ⟨k, -, rfl⟩ :=
    system_step_cases hstep
  · refine h.start ?_
    intro newContext hnew
    rcases hphase with hp | hp <;> rw [hp] at hnew <;> cases hnew
  · obtain ⟨-, -, rfl⟩ | ⟨newContext, -, hphase, rfl⟩ | ⟨phase, driver', sent', hd, hnew, rfl⟩ :=
      callStep_cases hcs
    · -- a locked section leaves no allocated context behind
      exact (h.driver (h.wellFormed.recordFirstSection _ _) _ _).start fun newContext hp =>
        absurd hp (phase_ne_allocated _ _ _)
    · have hnew := h.fresh c call newContext hcall hphase
      have hp : newContext.processId = c.processId := by rw [hnew]; rfl
      exact (h.driver (h.wellFormed.recordSecondSection hp _) _ _).start fun newContext hp =>
        absurd hp (phase_ne_allocated _ _ _)
    · have hwf : driver'.WellFormed := by
        rcases hd with rfl | rfl
        · exact h.wellFormed
        · exact h.wellFormed
      exact (h.driver hwf sent' s.history).start hnew
  · exact h.driver (wellFormed_apply h.wellFormed k) _ _

theorem Reachable.run {upcase : UInt16 → UInt16} {s s' : SystemState} {as : List Action}
    (h : Reachable upcase s) (hrun : (system upcase).run s as = some s') : Reachable upcase s' := by
  obtain ⟨pre, hpre⟩ := h
  exact ⟨pre ++ as, by rw [Machine.run_append, hpre]; exact hrun⟩

theorem Reachable.step {upcase : UInt16 → UInt16} {s s' : SystemState} {a : Action}
    (h : Reachable upcase s) (hstep : (system upcase).step s a = some s') : Reachable upcase s' :=
  h.run ((Machine.run_singleton s a).trans hstep)

theorem sound_of_run {upcase : UInt16 → UInt16} {s s' : SystemState} {as : List Action}
    (h : s.Sound) (hrun : (system upcase).run s as = some s') : s'.Sound :=
  Machine.run_invariant hrun h fun _ _ _ hs _ hstep => hs.step hstep

theorem Reachable.sound {upcase : UInt16 → UInt16} {s : SystemState} (h : Reachable upcase s) :
    s.Sound := by
  obtain ⟨as, hrun⟩ := h
  exact sound_of_run sound_init hrun

namespace Process

variable {p : UInt32} {s s' : SystemState} {i : ℕ} {call : RansomShield.Call} {step : CallStep}

/-! ### One action -/

theorem view_callStep (hs : s.Sound) (hcall : s.calls ⟨p, i⟩ = some call)
    (h : RansomShield.callStep s ⟨p, i⟩ call step = some s') {b : Action}
    (hb : ofCallStep i step = some b) : (machine p).step (view p s) b = some (view p s') := by
  unfold RansomShield.callStep at h
  split at h
  · next hphase =>
    cases hb
    cases h
    show ((view p s).calls i).bind _ = _
    rw [view_calls hcall .entered (by rw [hphase]; rfl)]
    refine congrArg some (view_endSection s i call (sameGlobals_recordFirstSection _ _ _) ?_
      (recordFirstSection_snd _) .entered).symm
    rw [lookup_recordFirstSection, if_pos rfl]
  · next hphase =>
    cases hb
    cases h
    show ((view p s).calls i).bind _ = _
    rw [view_calls hcall .allocating (by rw [hphase]; rfl)]
    exact congrArg some (view_setPhase s i call rfl .allocating).symm
  · next hphase =>
    cases hb
    cases h
    show ((view p s).calls i).bind _ = _
    rw [view_calls hcall .allocating (by rw [hphase]; rfl)]
    exact congrArg some (view_setPhase s i call rfl .allocating).symm
  · next newContext hphase =>
    cases hb
    cases h
    have hnew : newContext = rsCreateProcessContext p call.processImageName :=
      hs.fresh _ call newContext hcall hphase
    subst hnew
    show ((view p s).calls i).bind _ = _
    rw [view_calls hcall .allocated (by rw [hphase]; rfl)]
    refine congrArg some (view_endSection s i call (sameGlobals_recordSecondSection _ _ _ _) ?_
      (recordSecondSection_snd _ _) .allocated).symm
    exact (lookup_recordSecondSection rfl _ p).trans (if_pos rfl)
  · cases hb
  · cases hb
  · cases hb
  · cases h

/-- Sending a notification is invisible. -/
theorem view_callStep_of_none (hcall : s.calls ⟨p, i⟩ = some call)
    (h : RansomShield.callStep s ⟨p, i⟩ call step = some s') (hb : ofCallStep i step = none) :
    view p s' = view p s := by
  -- the sections and the allocation are seen: what is left is the notification
  unfold RansomShield.callStep at h
  split at h
  · cases hb
  · cases hb
  · cases hb
  · cases hb
  · next hphase =>
    split at h
    · cases h
      exact view_setPhase_same s i hcall (by rw [hphase]; rfl)
    · cases h
      exact view_setPhase_same s i hcall (by rw [hphase]; rfl)
  · next hphase =>
    cases h
    exact view_setPhase_same s i hcall (by rw [hphase]; rfl)
  · next hphase =>
    cases h
    exact view_setPhase_same s i hcall (by rw [hphase]; rfl)
  · cases h

theorem view_callStep_of_ne (hs : s.Sound) {c : CallId} (hc : c.processId ≠ p)
    (hcall : s.calls c = some call) (h : RansomShield.callStep s c call step = some s') :
    view p s' = view p s := by
  obtain ⟨-, -, rfl⟩ | ⟨newContext, -, hphase, rfl⟩ | ⟨phase, driver', sent', hd, -, rfl⟩ :=
    callStep_cases h
  · refine view_endSection_of_ne s hc call (sameGlobals_recordFirstSection _ _ _) ?_
    rw [lookup_recordFirstSection, if_neg (Ne.symm hc)]
  · have hp : newContext.processId = c.processId := by
      rw [hs.fresh c call newContext hcall hphase]; rfl
    refine view_endSection_of_ne s hc call (sameGlobals_recordSecondSection _ _ _ _) ?_
    rw [lookup_recordSecondSection hp, if_neg (Ne.symm hc)]
  · have hcalls := view_calls_update_of_ne s hc (some { call with phase := phase })
    rcases hd with rfl | rfl <;> exact State.ext rfl rfl hcalls rfl

theorem view_control (hs : s.Sound) {k : Control} {b : Action} (hb : ofControl p k = some b) :
    (machine p).step (view p s) b =
      some (view p { s with driver := k.apply s.driver, history := s.history ++ k.events }) := by
  have hlog := congrArg (operationsOf p) (List.append_nil s.history)
  cases k with
  | removeProcessContext q =>
    simp only [ofControl, Option.ite_none_right_eq_some, Option.some.injEq] at hb
    obtain ⟨rfl, rfl⟩ := hb
    refine congrArg some (State.ext ?_ ?_ rfl ?_)
    · exact (sameGlobals_removeProcessContext s.driver q).config.symm
    · show none = rsLookupProcessContext (rsRemoveProcessContext s.driver q) q
      rw [lookup_removeProcessContext hs.wellFormed, if_pos rfl]
    · show [] = operationsOf q (s.history ++ [.removed q])
      rw [operationsOf_concat_removed, if_pos rfl]
  | applyConfig threshold seconds monitoring =>
    cases hb
    exact congrArg some (State.ext rfl rfl rfl hlog.symm)
  | setMonitoring value =>
    cases hb
    exact congrArg some (State.ext rfl rfl rfl hlog.symm)
  | clearDynamicAllowlist | addDynamicAllowlistEntry | drawSequence | getBlockedPids
  | getPidCounts | connect | disconnect => cases hb

theorem view_control_of_none (hs : s.Sound) {k : Control} (hb : ofControl p k = none) :
    view p { s with driver := k.apply s.driver, history := s.history ++ k.events } =
      view p s := by
  have hlog := congrArg (operationsOf p) (List.append_nil s.history)
  cases k with
  | removeProcessContext q =>
    have hq : q ≠ p := by
      rintro rfl
      simp only [ofControl, if_pos, reduceCtorEq] at hb
    refine State.ext (sameGlobals_removeProcessContext s.driver q).config ?_ rfl ?_
    · show rsLookupProcessContext (rsRemoveProcessContext s.driver q) p = _
      rw [lookup_removeProcessContext hs.wellFormed, if_neg (Ne.symm hq)]
      rfl
    · show operationsOf p (s.history ++ [.removed q]) = _
      rw [operationsOf_concat_removed, if_neg hq]
      rfl
  | addDynamicAllowlistEntry entry =>
    simp only [Control.apply, rsAddDynamicAllowlistEntry]
    split_ifs <;> exact State.ext rfl rfl rfl hlog
  | applyConfig | setMonitoring => cases hb
  | clearDynamicAllowlist | drawSequence | getBlockedPids | getPidCounts | connect
  | disconnect => exact State.ext rfl rfl rfl hlog

theorem view_start {s : SystemState} {c : CallId} (hnew : s.calls c = none)
    (call : RansomShield.Call) (hphase : call.phase = .entered) (hc : c.processId = p) :
    (machine p).step (view p s) (.enter c.serial call.processImageName call.currentTime) =
      some (view p (s.start c call)) := by
  subst hc
  have hnone : (view c.processId s).calls c.serial = none := by
    show (s.calls c).bind viewCall = none
    rw [hnew]
    rfl
  have hcalls := view_calls_update (p := c.processId) s c.serial call
  rw [viewCall_eq .entered (by rw [hphase]; rfl)] at hcalls
  show (if ((view c.processId s).calls c.serial).isNone then _ else none) = _
  rw [hnone, if_pos Option.isNone_none]
  exact congrArg some (State.ext rfl rfl hcalls.symm rfl)

theorem view_start_same {s : SystemState} {c : CallId} (hnew : s.calls c = none)
    {call : RansomShield.Call} (h : c.processId = p → call.phase = .passed) :
    view p (s.start c call) = view p s := by
  refine State.ext rfl rfl ?_ rfl
  -- a call of the process itself is invisible only when its callback lets the request pass
  by_cases hc : c.processId = p
  · subst hc
    have hnone : (view c.processId s).calls c.serial = none := by
      show (s.calls c).bind viewCall = none
      rw [hnew]
      rfl
    refine (view_calls_update s c.serial call).trans (Function.update_eq_self_iff.2 ?_)
    rw [hnone, viewCall, h rfl]
    rfl
  · exact view_calls_update_of_ne s hc _

variable {upcase : UInt16 → UInt16}

/-- **An action that the process sees** is a step of its machine. -/
theorem view_step (hs : s.Sound) {a : RansomShield.Action}
    (h : (system upcase).step s a = some s') {b : Action} (hb : a.ofProcess p = some b) :
    (machine p).step (view p s) b = some (view p s') := by
  cases a with
  | pass c data => cases hb
  | track c data =>
    simp only [Action.ofProcess, Option.ite_none_right_eq_some, Option.some.injEq] at hb
    simp only [system, SystemState.accepts, Option.ite_none_right_eq_some, Option.some.injEq,
      Bool.and_eq_true, Option.isNone_iff_eq_none] at h
    obtain ⟨⟨⟨hnew, -⟩, -⟩, rfl⟩ := h
    obtain ⟨hc, rfl⟩ := hb
    exact view_start hnew
      ⟨some data.iopb, data.processImageName, data.interruptTime, .entered⟩ rfl hc
  | call c processImageName currentTime =>
    simp only [Action.ofProcess, Option.ite_none_right_eq_some, Option.some.injEq] at hb
    simp only [system, Option.ite_none_right_eq_some, Option.some.injEq,
      Option.isNone_iff_eq_none] at h
    obtain ⟨hnew, rfl⟩ := h
    obtain ⟨hc, rfl⟩ := hb
    exact view_start hnew ⟨none, processImageName, currentTime, .entered⟩ rfl hc
  | advance c step =>
    obtain ⟨call, hcall, hstep⟩ := Option.bind_eq_some_iff.1 h
    simp only [Action.ofProcess, Option.ite_none_right_eq_some] at hb
    obtain ⟨rfl, hb⟩ := hb
    exact view_callStep hs hcall hstep hb
  | control k =>
    cases h
    exact view_control hs hb

/-- **An action that the process does not see** leaves its view as it is. -/
theorem view_step_of_none (hs : s.Sound) {a : RansomShield.Action}
    (h : (system upcase).step s a = some s') (ha : a.ofProcess p = none) :
    view p s' = view p s := by
  cases a with
  | pass c data =>
    simp only [system, SystemState.accepts, Option.ite_none_right_eq_some, Option.some.injEq,
      Bool.and_eq_true, Option.isNone_iff_eq_none] at h
    obtain ⟨⟨⟨hnew, -⟩, -⟩, rfl⟩ := h
    exact view_start_same hnew fun _ => rfl
  | track c data =>
    simp only [Action.ofProcess, ite_eq_right_iff, reduceCtorEq, imp_false] at ha
    simp only [system, SystemState.accepts, Option.ite_none_right_eq_some, Option.some.injEq,
      Bool.and_eq_true, Option.isNone_iff_eq_none] at h
    obtain ⟨⟨⟨hnew, -⟩, -⟩, rfl⟩ := h
    exact view_start_same hnew fun hc => absurd hc ha
  | call c processImageName currentTime =>
    simp only [Action.ofProcess, ite_eq_right_iff, reduceCtorEq, imp_false] at ha
    simp only [system, Option.ite_none_right_eq_some, Option.some.injEq,
      Option.isNone_iff_eq_none] at h
    obtain ⟨hnew, rfl⟩ := h
    exact view_start_same hnew fun hc => absurd hc ha
  | advance c step =>
    obtain ⟨call, hcall, hstep⟩ := Option.bind_eq_some_iff.1 h
    by_cases hc : c.processId = p
    · subst hc
      simp only [Action.ofProcess, if_pos] at ha
      exact view_callStep_of_none hcall hstep ha
    · exact view_callStep_of_ne hs hc hcall hstep
  | control k =>
    cases h
    exact view_control_of_none hs ha

/-- **A run of the driver, seen from a process**, is a run of the machine of that process on the
actions that it sees. -/
theorem run_view (p : UInt32) (hs : s.Sound) {as : List RansomShield.Action}
    (h : (system upcase).run s as = some s') :
    (machine p).run (view p s) (as.filterMap (Action.ofProcess p)) = some (view p s') :=
  Machine.run_project (I := SystemState.Sound) (fun _ _ _ hs hstep => hs.step hstep)
    (fun _ _ _ _ hs hstep hb => view_step hs hstep hb)
    (fun _ _ _ hs hstep ha => view_step_of_none hs hstep ha) hs h

/-- What a process sees after each action that it sees. -/
def observations (upcase : UInt16 → UInt16) (p : UInt32) (s : SystemState)
    (as : List RansomShield.Action) : List State :=
  (system upcase).observe (view p) (Action.ofProcess p) s as

/-- What a process sees is determined by the actions that it sees. -/
theorem observations_eq (p : UInt32) (hs : s.Sound) {as : List RansomShield.Action}
    (h : (system upcase).run s as = some s') :
    observations upcase p s as =
      (machine p).trace (view p s) (as.filterMap (Action.ofProcess p)) :=
  Machine.observe_project (I := SystemState.Sound) (fun _ _ _ hs hstep => hs.step hstep)
    (fun _ _ _ _ hs hstep hb => view_step hs hstep hb)
    (fun _ _ _ hs hstep ha => view_step_of_none hs hstep ha) hs h

theorem view_result (p : UInt32) (s : SystemState) (i : ℕ) :
    (view p s).result i = s.result ⟨p, i⟩ := by
  show ((s.calls ⟨p, i⟩).bind viewCall).bind _ = (s.calls ⟨p, i⟩).bind _
  cases s.calls ⟨p, i⟩ with
  | none => rfl
  | some call =>
    rw [Option.bind_some, Option.bind_some, viewCall]
    cases call.phase <;> rfl

theorem exists_of_view_calls {s : SystemState} {i : ℕ} {call' : Call}
    (hview : (view p s).calls i = some call') : ∃ call, s.calls ⟨p, i⟩ = some call := by
  obtain ⟨call, hcall, -⟩ := Option.bind_eq_some_iff.1 hview
  exact ⟨call, hcall⟩

theorem of_view_calls {s : SystemState} {i : ℕ} {call : RansomShield.Call} {call' : Call}
    (hcall : s.calls ⟨p, i⟩ = some call) (hview : (view p s).calls i = some call') :
    call'.processImageName = call.processImageName ∧ call'.currentTime = call.currentTime := by
  have h : (s.calls ⟨p, i⟩).bind viewCall = some call' := hview
  rw [hcall, Option.bind_some, viewCall, Option.map_eq_some_iff] at h
  obtain ⟨phase, -, rfl⟩ := h
  exact ⟨rfl, rfl⟩

/-- The process has not been seen yet. -/
def State.init : State where
  config := RsConfig.default
  context := none
  calls := fun _ => none
  log := []

theorem view_init (p : UInt32) : view p SystemState.init = State.init := rfl

end Process

end RansomShield
