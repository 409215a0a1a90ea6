import RansomShield.Guarantees.RegistryRoundTrip
import RansomShield.Guarantees.TrayEvents
import RansomShield.Machine.Since

/-!
# The status of the tray agent

The tray shows what its events announced last (`showsActive_iff_since`), and what is true is what
was secured without a fault since (`live_iff_since`).  So the status is truthful in a run as long as
no startup, tick or toggle ends with active monitoring announced and a fault since
(`tray_truthful_iff`).
-/

namespace RansomShield

/-! ### Runs -/

namespace TrayState

section

variable {env : TrayEnvironment} {s t : TrayState} {e : TrayEvent}

/-- Whether the tray runs after an event. -/
def runsAfter (before : Bool) : TrayEvent → Bool
  | .start .. => true
  | .destroy => false
  | _ => before

theorem timer_running (answer : Except FailureCode PortHandle) :
    (s.timer env answer).running = s.running := by
  unfold timer
  split_ifs <;> (try dsimp only) <;> (try split_ifs) <;> rfl

theorem togglePause_running (faults : SaveFaults) :
    (s.togglePause env faults).running = s.running := by
  unfold togglePause switchMonitoring
  dsimp only
  split_ifs <;> rfl

theorem running_of_step (h : (traySystem env).step s e = some t) :
    t.running = runsAfter s.running e := by
  cases e with
  | start configOpens allowlistOpens answer =>
    simp only [traySystem] at h
    split_ifs at h
    obtain ⟨⟨config, opened⟩, -, rfl⟩ := Option.map_eq_some_iff.1 h
    dsimp only
    split_ifs <;> rfl
  | timer answer =>
    simp only [traySystem] at h
    split_ifs at h
    cases h
    exact timer_running answer
  | togglePause faults =>
    simp only [traySystem] at h
    split_ifs at h
    cases h
    exact togglePause_running faults
  | showStatus | destroy | connectionLost | driverLoads | driverUnloads =>
    simp only [traySystem] at h
    split_ifs at h
    cases h
    rfl
  | driverRuns driver =>
    simp only [traySystem] at h
    split at h
    · cases h
    · split_ifs at h
      cases h
      rfl
  | registryChanges registry =>
    cases h
    rfl

/-- What holds while the tray runs: a startup decides it, and the end of the process ends it. -/
theorem running_and_iff {φ : TrayState → Prop} {P Q : TrayState → TrayEvent → Prop}
    (h : (traySystem env).step s e = some t)
    (hφ : t.running = true → (φ t ↔ P s e ∨ (¬ Q s e ∧ φ s)))
    (hP : P s e → e.isHandled = true)
    (hstart : ∀ a b answer, P s (.start a b answer) ∨ Q s (.start a b answer))
    (hdestroy : Q s .destroy) :
    (t.running = true ∧ φ t) ↔ P s e ∨ (¬ Q s e ∧ s.running = true ∧ φ s) := by
  have hrunning := running_of_step h
  cases e with
  | start a b answer =>
    have ht : t.running = true := hrunning
    rw [hφ ht]
    have hdecided := hstart a b answer
    tauto
  | destroy =>
    have ht : t.running = false := hrunning
    have hnot : ¬ P s .destroy := fun hset => by cases hP hset
    simp [ht, hnot, hdestroy]
  | timer | togglePause | showStatus | connectionLost =>
    have hs : s.running = true := by
      by_contra hs
      simp [traySystem, hs] at h
    have ht : t.running = true := hrunning.trans hs
    rw [hφ ht, ht, hs]
    simp
  | driverLoads | driverUnloads | driverRuns | registryChanges =>
    have ht : t.running = s.running := hrunning
    have hnot : ¬ P s _ := fun hset => by cases hP hset
    cases hs : s.running with
    | true => simp [hφ (ht.trans hs), ht, hs, hnot]
    | false => simp [ht, hs, hnot]

theorem isHandled_of_announces (h : s.Announces env e) : e.isHandled = true := by
  cases e with
  | start | timer | togglePause => rfl
  | _ => exact absurd h id

theorem isHandled_of_secures (h : s.Secures env e) : e.isHandled = true := by
  cases e with
  | start | timer | togglePause => rfl
  | _ => exact absurd h id

variable {s₀ : TrayState} {events : List TrayEvent}

theorem driverGone_of_run (hs₀ : s₀.running = false)
    (hrun : (traySystem env).run s₀ events = some s) : s.running = true → s.DriverGone :=
  Machine.run_invariant (I := fun u => u.running = true → u.DriverGone) hrun
    (fun h => by cases hs₀.symm.trans h)
    fun _ _ _ hgone _ hstep hrunning => (step_follows hstep hrunning hgone).2

/-- **What the tray shows** is what it announced last. -/
theorem showsActive_iff_since (hs₀ : s₀.running = false)
    (hrun : (traySystem env).run s₀ events = some s) :
    (s.running = true ∧ s.ShowsActive) ↔
      (traySystem env).Since s₀ events (Announces env) (Withdraws env) := by
  refine Machine.flag_iff_since (F := fun u => u.running = true ∧ u.ShowsActive) hrun
    (fun h => by cases hs₀.symm.trans h.1) ?_
  intro bs b u v _ hu hstep
  have hgone := driverGone_of_run hs₀ hu
  refine running_and_iff hstep (fun hv => (step_follows hstep hv hgone).1.shows)
    isHandled_of_announces (fun _ _ answer => ?_) trivial
  exact (em (u.accepting answer = none)).symm

/-- **What is true of the driver and the connection** is what was secured, without a fault since. -/
theorem live_iff_since (hs₀ : s₀.running = false)
    (hrun : (traySystem env).run s₀ events = some s) :
    (s.running = true ∧ s.Live) ↔
      (traySystem env).Since s₀ events (Secures env) (Fault env) := by
  refine Machine.flag_iff_since (F := fun u => u.running = true ∧ u.Live) hrun
    (fun h => by cases hs₀.symm.trans h.1) ?_
  intro bs b u v _ hu hstep
  have hgone := driverGone_of_run hs₀ hu
  exact running_and_iff hstep (fun hv => (step_follows hstep hv hgone).1.live)
    isHandled_of_secures (fun _ _ _ => em _) trivial

theorem running_of_isHandled (h : (traySystem env).step s e = some t) (he : e.isHandled = true) :
    t.running = true := by
  have hrunning := running_of_step h
  cases e with
  | start => exact hrunning
  | timer | togglePause =>
    refine hrunning.trans ?_
    by_contra hs
    simp only [runsAfter] at hs
    simp [traySystem, hs] at h
  | _ => simp [TrayEvent.isHandled] at he

end

end TrayState

/-- **When the status of the tray is truthful.**  In every run of the tray agent, its driver and its
other surroundings that begins before the tray starts, with restarts, and whatever becomes of the
requests: the status is truthful after each startup, timer tick and toggle if and only if none of
them ends with active monitoring announced, by a connect or a resume, and a fault since. -/
theorem tray_truthful_iff (env : TrayEnvironment) (s₀ s : TrayState) (events : List TrayEvent)
    (hs₀ : s₀.running = false) (hrun : (traySystem env).run s₀ events = some s) :
    (∀ before e t, before ++ [e] <+: events → e.isHandled = true →
      (traySystem env).run s₀ (before ++ [e]) = some t → t.Truthful) ↔
      ∀ before e, before ++ [e] <+: events → e.isHandled = true →
        ¬ ((traySystem env).Since s₀ (before ++ [e]) (TrayState.Announces env)
            (TrayState.Withdraws env) ∧
          (traySystem env).Since s₀ (before ++ [e]) (TrayState.Fault env)
            (TrayState.Secures env)) := by
  have key : ∀ before e t, e.isHandled = true →
      (traySystem env).run s₀ (before ++ [e]) = some t → (t.Truthful ↔
        ¬ ((traySystem env).Since s₀ (before ++ [e]) (TrayState.Announces env)
            (TrayState.Withdraws env) ∧
          (traySystem env).Since s₀ (before ++ [e]) (TrayState.Fault env)
            (TrayState.Secures env))) := by
    intro before e t he ht
    obtain ⟨u, -, hstep⟩ := Machine.run_concat_eq_some ht
    have hrunning := TrayState.running_of_isHandled hstep he
    have hshows := TrayState.showsActive_iff_since hs₀ ht
    have hlive := TrayState.live_iff_since hs₀ ht
    rw [hrunning] at hshows hlive
    rw [TrayState.Truthful, ← hshows]
    constructor
    · rintro htruthful ⟨⟨-, hactive⟩, hfault⟩
      have hsecured := hlive.1 ⟨rfl, htruthful hactive⟩
      exact hsecured.not_since ht (fun _ _ => TrayState.not_fault_of_secures) hfault
    · intro hfaultless hactive
      have hannounced := hshows.1 ⟨rfl, hactive⟩
      rcases hannounced.or_since ht (fun _ _ => TrayState.secures_or_fault) with hsecured | hfault
      · exact (hlive.2 hsecured).2
      · exact absurd ⟨⟨rfl, hactive⟩, hfault⟩ hfaultless
  constructor
  · intro htruthful before e hbefore he
    obtain ⟨t, ht⟩ := Machine.exists_run_of_prefix hrun hbefore
    exact (key before e t he ht).1 (htruthful before e t hbefore he ht)
  · intro hfaultless before e t hbefore he ht
    exact (key before e t he ht).2 (hfaultless before e hbefore he)

/-! ### A pause that is not shown -/

/-- All requests succeed. -/
def quietTray : TrayEnvironment where
  deliveries _ := Delivery.success
  numbers n := UInt32.ofNat n

/-- Before the tray agent starts: the driver is loaded. -/
def trayBefore (registry : Registry) : TrayState where
  running := false
  session := ⟨false, some DriverState.init, 0⟩
  stale := false
  config := ConfigManager.new
  registry := registry
  status := ⟨false, false⟩
  healthTick := 0

/-- The registry after monitoring was paused. -/
def pausedRegistry : Registry :=
  ⟨Function.update (fun _ => none) rsRegvalMonitoring (some (dwordValue 0)), fun _ => none⟩

/-- The settings that are read from it. -/
def pausedSettings : ConfigManager where
  fileCountThreshold := rsDefaultFileCountThreshold
  timeWindowSeconds := rsDefaultTimeWindowSeconds
  monitoringEnabled := false
  allowlist := []
  length_le := Nat.zero_le _
  initialized := true
  hConfigKey := true
  hAllowlistKey := true

theorem runInitialize_pausedRegistry :
    ConfigManager.new.runInitialize true true pausedRegistry = some (pausedSettings, true) := rfl

/-- The tray agent when it has connected at its start. -/
def trayConnected (registry : Registry) (config : ConfigManager) : TrayState where
  running := true
  session := ⟨true, some (rsConnectNotifyCallback DriverState.init 0), 0⟩
  stale := false
  config := config
  registry := registry
  status := ⟨false, false⟩
  healthTick := 0

theorem run_start {registry : Registry} {config : ConfigManager}
    (h : ConfigManager.new.runInitialize true true registry = some (config, true)) :
    (traySystem quietTray).run (trayBefore registry) [.start true true (.ok 0)] =
      some ((trayConnected registry config).goOnline quietTray) := by
  have hregistry : (trayBefore registry).registry = registry := rfl
  rw [Machine.run_singleton]
  simp only [traySystem, TrayState.start, hregistry, h, Option.map_some]
  rfl

/-- The tray agent after its first start. -/
def trayOnline : TrayState :=
  (trayConnected emptyRegistry (firstStart [] (Nat.zero_le _))).goOnline quietTray

/-- The first start, a loss of the connection, and the tick after it. -/
def reconnecting : List TrayEvent :=
  [.start true true (.ok 0), .connectionLost, .timer (.ok 0)]

/-- With the default settings, the status is truthful after the first start, and when the tray has
connected again. -/
theorem tray_truthful_firstStart :
    ∃ s t, (traySystem quietTray).run (trayBefore emptyRegistry) [.start true true (.ok 0)] =
        some s ∧ s.Truthful ∧
      (traySystem quietTray).run (trayBefore emptyRegistry) reconnecting = some t ∧ t.Truthful := by
  have hstart : (traySystem quietTray).run (trayBefore emptyRegistry)
      [.start true true (.ok 0)] = some trayOnline := run_start runInitialize_emptyRegistry
  have hrun : (traySystem quietTray).run (trayBefore emptyRegistry) reconnecting =
      some (TrayState.timer quietTray
        { trayOnline with session := { trayOnline.session with connected := false } }
        (.ok 0)) := by
    show (traySystem quietTray).run _
      ([.start true true (.ok 0)] ++ [.connectionLost, .timer _]) = _
    rw [Machine.run_append, hstart]
    rfl
  obtain ⟨driver, hdriver⟩ := Option.ne_none_iff_exists'.1 (TrayState.goOnline_spec quietTray
    (s := trayConnected emptyRegistry (firstStart [] (Nat.zero_le _))) rfl rfl rfl).2.1
  have hsecures : (traySystem quietTray).EveryStep (trayBefore emptyRegistry) reconnecting
      fun s e => e.isHandled = true → s.Secures quietTray e := by
    refine Machine.everyStep_cons (fun _ => ?_) fun u hu => ?_
    · exact ⟨_, _, _, runInitialize_emptyRegistry, rfl, rfl, rfl⟩
    · cases (Machine.run_singleton _ _).symm.trans hstart |>.symm.trans hu
      refine Machine.everyStep_cons (fun he => by cases he) fun v hv => ?_
      cases hv
      refine Machine.everyStep_cons (fun _ => ?_) fun _ _ => Machine.everyStep_nil _
      exact ⟨rfl, driver, hdriver, rfl, rfl⟩
  have htruthful := (tray_truthful_iff quietTray _ _ reconnecting rfl hrun).2 (by
    rintro before e hbefore he ⟨-, hfault⟩
    obtain ⟨u, hu⟩ := Machine.exists_run_of_prefix hrun ((List.prefix_append _ _).trans hbefore)
    obtain ⟨v, hv⟩ := Machine.exists_step hrun hbefore hu
    have hsecured := hsecures before e u hbefore hu he
    rw [Machine.since_concat_iff hu hv] at hfault
    exact hfault.elim (TrayState.not_fault_of_secures hsecured) fun h => h.1 hsecured)
  refine ⟨_, _, hstart, ?_, hrun, ?_⟩
  · exact htruthful [] _ _ ⟨_, rfl⟩ rfl hstart
  · exact htruthful [_, _] _ _ List.prefix_rfl rfl hrun

/-- **Monitoring is shown as active while it is paused**: the tray starts with settings that were
saved after a pause, pushes them to the driver, and shows active monitoring. -/
theorem paused_shown_active :
    ∃ s driver, (traySystem quietTray).run (trayBefore pausedRegistry)
        [.start true true (.ok 0)] = some s ∧
      s.status = ⟨true, false⟩ ∧ s.session.driver = some driver ∧
      driver.config.monitoringEnabled = 0 := by
  obtain ⟨driver, n, hrun, hflag⟩ := run_pushToDriver_spec
    ((trayConnected pausedRegistry pausedSettings).deliveries quietTray)
    ((trayConnected pausedRegistry pausedSettings).numbers quietTray) pausedSettings
    (c := (trayConnected pausedRegistry pausedSettings).session) rfl rfl
  refine ⟨_, driver, run_start runInitialize_pausedRegistry, rfl, ?_, hflag⟩
  exact congrArg Session.driver hrun

end RansomShield
