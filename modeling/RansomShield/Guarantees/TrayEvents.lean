import RansomShield.Client.SessionRequests
import RansomShield.Client.Tray

/-!
# What an event does to the status of the tray

After every successful connect, the handlers set the status to the constants for active monitoring:
whatever the settings are that were pushed, and whether they arrived or not.  A request or a
reconnect that fails leaves the status as it was.

So some events set the status (`TrayState.Announces`, `TrayState.Withdraws`), and others decide
what is true of the driver and the connection (`TrayState.Secures`, `TrayState.Fault`).
`step_follows` says what each event does to both.
-/

namespace RansomShield

/-! ### Truthful states -/

namespace TrayState

/-- The driver of the connection is loaded and monitors. -/
def Monitors (s : TrayState) : Prop :=
  s.stale = false ∧
    ∃ driver, s.session.driver = some driver ∧ driver.config.monitoringEnabled ≠ 0

/-- The client is connected, and its driver monitors. -/
def Live (s : TrayState) : Prop := s.session.connected = true ∧ s.Monitors

/-- The tray shows that monitoring is active. -/
def ShowsActive (s : TrayState) : Prop := s.status.tip = .monitoringActive

/-- The tray shows active monitoring only if the client is connected and its driver monitors. -/
def Truthful (s : TrayState) : Prop := s.ShowsActive → s.Live

/-! ### What the events do -/

/-- What becomes of the next requests. -/
def delivery (env : TrayEnvironment) (s : TrayState) (n : ℕ) : Delivery :=
  s.deliveries env (s.session.requests + n)

/-- A push with some settings to a driver ends with a driver that monitors, on an open
connection. -/
def PushesActive (env : TrayEnvironment) (requests : ℕ) (config : ConfigManager)
    (driver : DriverState) : Prop :=
  (if (env.deliveries requests).arrives then config.monitoringEnabled = true
    else driver.config.monitoringEnabled ≠ 0) ∧
    keepsAll [env.deliveries requests, env.deliveries (requests + 1),
      env.deliveries (requests + 2)] = true

/-- The driver that accepts the connection. -/
def accepting (s : TrayState) : Except FailureCode PortHandle → Option DriverState
  | .ok _ => s.session.driver
  | .error _ => none

/-- The next request is answered. -/
def Answers (env : TrayEnvironment) (s : TrayState) : Prop :=
  s.session.driver ≠ none ∧ (s.delivery env 0).succeeds = true

/-- The query of a toggle is answered, and its second request is for the other value of the flag. -/
def Asks (env : TrayEnvironment) (s : TrayState) (enabled : Bool) : Prop :=
  s.session.connected = true ∧ (s.delivery env 0).succeeds = true ∧
    ∃ driver, s.session.driver = some driver ∧
      (enabled = true ↔ driver.config.monitoringEnabled = 0)

/-- The event announces active monitoring: a connection was opened, or a pause ended. -/
def Announces (env : TrayEnvironment) (s : TrayState) : TrayEvent → Prop
  | .start _ _ answer => s.accepting answer ≠ none
  | .timer answer => s.session.connected = false ∧ s.accepting answer ≠ none
  | .togglePause _ => s.Asks env true ∧ (s.delivery env 1).succeeds = true
  | _ => False

/-- The event sets another status, or ends the process. -/
def Withdraws (env : TrayEnvironment) (s : TrayState) : TrayEvent → Prop
  | .start _ _ answer => s.accepting answer = none
  | .timer _ =>
    s.session.connected = true ∧ healthTicksPerQuery ≤ s.healthTick + 1 ∧ ¬ s.Answers env
  | .togglePause _ => s.Asks env false ∧ (s.delivery env 1).succeeds = true
  | .destroy => True
  | _ => False

/-- The event makes the driver of an open connection monitor: by a push, or by a resume. -/
def Secures (env : TrayEnvironment) (s : TrayState) : TrayEvent → Prop
  | .start configOpens allowlistOpens answer =>
    ∃ config opened driver, ConfigManager.new.runInitialize configOpens allowlistOpens s.registry =
      some (config, opened) ∧ s.accepting answer = some driver ∧
        PushesActive env s.session.requests config driver
  | .timer answer =>
    s.session.connected = false ∧ ∃ driver, s.accepting answer = some driver ∧
      PushesActive env s.session.requests s.config driver
  | .togglePause _ =>
    s.Asks env true ∧ (s.delivery env 1).arrives = true ∧ (s.delivery env 1).keeps = true
  | _ => False

/-- What goes wrong: a startup or reconnect whose push does not make the driver monitor, or loses
the connection; a request that finds the connection lost; a pause that the driver handles; and the
loss of the connection, of the driver or of the process. -/
def Fault (env : TrayEnvironment) (s : TrayState) : TrayEvent → Prop
  | .start configOpens allowlistOpens answer =>
    ¬ s.Secures env (.start configOpens allowlistOpens answer)
  | .timer answer =>
    (s.session.connected = false ∧ ∃ driver, s.accepting answer = some driver ∧
      ¬ PushesActive env s.session.requests s.config driver) ∨
    (s.session.connected = true ∧ healthTicksPerQuery ≤ s.healthTick + 1 ∧ ¬ s.Answers env)
  | .togglePause _ =>
    s.session.connected = true ∧
      ((¬ s.Answers env ∧ (s.delivery env 0).keeps = false) ∨
        ∃ enabled, s.Asks env enabled ∧ ((s.delivery env 1).keeps = false ∨
          (enabled = false ∧ (s.delivery env 1).arrives = true)))
  | .showStatus => s.session.connected = true ∧ (s.delivery env 0).keeps = false
  | .connectionLost => True
  | .driverUnloads => True
  | .destroy => True
  | _ => False

section

variable {env : TrayEnvironment} {s t : TrayState} {driver : DriverState} {e : TrayEvent}

theorem showsActive_iff : s.ShowsActive ↔ s.status = ⟨true, false⟩ := by
  unfold ShowsActive TrayStatus.tip
  rcases s.status with ⟨_ | _, _ | _⟩ <;> simp

theorem not_showsActive_offline : ¬ (s.setStatus false false).ShowsActive := by
  rw [showsActive_iff]
  simp [setStatus]

theorem not_live_of_not_connected (h : s.session.connected = false) : ¬ s.Live := by
  intro hlive
  cases h.symm.trans hlive.1

theorem not_live_of_none (h : s.session.driver = none) : ¬ s.Live := by
  rintro ⟨-, -, driver, hdriver, -⟩
  cases h.symm.trans hdriver

theorem live_iff {d : DriverState} (hdriver : s.session.driver = some d) :
    s.Live ↔ s.session.connected = true ∧ s.stale = false ∧ d.config.monitoringEnabled ≠ 0 := by
  unfold Live Monitors
  simp only [hdriver, Option.some.injEq, exists_eq_left']

/-- The events that announce active monitoring decide what is true of it. -/
theorem secures_or_fault (h : s.Announces env e) : s.Secures env e ∨ s.Fault env e := by
  cases e with
  | start configOpens allowlistOpens answer =>
    exact em (s.Secures env (.start configOpens allowlistOpens answer))
  | timer answer =>
    obtain ⟨hconnected, haccepting⟩ := h
    obtain ⟨driver, hdriver⟩ := Option.ne_none_iff_exists'.1 haccepting
    by_cases hpush : PushesActive env s.session.requests s.config driver
    · exact .inl ⟨hconnected, driver, hdriver, hpush⟩
    · exact .inr (.inl ⟨hconnected, driver, hdriver, hpush⟩)
  | togglePause faults =>
    obtain ⟨hasks, hsucceeds⟩ := h
    refine .inl ⟨hasks, ?_, Delivery.keeps_of_succeeds hsucceeds⟩
    rw [Delivery.arrives, hsucceeds, Bool.true_or]
  | _ => exact absurd h id

theorem not_fault_of_secures (h : s.Secures env e) : ¬ s.Fault env e := by
  cases e with
  | start => exact not_not_intro h
  | timer answer =>
    obtain ⟨hconnected, driver, hdriver, hpush⟩ := h
    rintro (⟨-, driver', hdriver', hfails⟩ | ⟨hconnected', -⟩)
    · cases hdriver.symm.trans hdriver'
      exact hfails hpush
    · cases hconnected.symm.trans hconnected'
  | togglePause faults =>
    obtain ⟨⟨-, hsucceeds, driver, hdriver, hflag⟩, harrives, hkeeps⟩ := h
    rintro ⟨-, ⟨hanswers, -⟩ | ⟨enabled, ⟨-, -, driver', hdriver', hflag'⟩, hcase⟩⟩
    · exact hanswers ⟨by rw [hdriver]; exact Option.some_ne_none _, hsucceeds⟩
    · cases hdriver.symm.trans hdriver'
      obtain rfl : enabled = true := hflag'.2 (hflag.1 rfl)
      rcases hcase with hlost | ⟨hpause, -⟩
      · cases hkeeps.symm.trans hlost
      · cases hpause
  | _ => exact absurd h id

/-! ### Going online -/

theorem succeeds_deliveries {n : ℕ} (h : (s.deliveries env n).succeeds = true) :
    s.stale = false := by
  unfold deliveries at h
  split_ifs at h with hstale
  · cases h
  · exact Bool.eq_false_iff.2 hstale

theorem deliveries_of_not_stale (h : s.stale = false) : s.deliveries env = env.deliveries := by
  funext n
  rw [deliveries, h]
  rfl

/-- An attempt to connect opens a connection to the driver, or changes nothing. -/
theorem connect_cases (hconnected : s.session.connected = false)
    (answer : Except FailureCode PortHandle) :
    (∃ port driver, s.accepting answer = some driver ∧
      s.connect answer =
        ({ s with
            session := ⟨true, some (rsConnectNotifyCallback driver port), s.session.requests⟩
            stale := false }, .sOk)) ∨
      (s.accepting answer = none ∧ (s.connect answer).1 = s ∧
        (s.connect answer).2.failed = true) := by
  unfold connect Session.connect accepting
  simp only [hconnected, Bool.false_eq_true, if_false, Bool.false_or]
  cases answer with
  | error hr =>
    refine .inr ⟨rfl, ?_, hr.2⟩
    simp only [hr.2, Bool.and_true]
  | ok port =>
    cases hdriver : s.session.driver with
    | none =>
      have hfailed : (HResult.fromWin32 2).failed = true := by decide
      refine .inr ⟨rfl, ?_, hfailed⟩
      simp only [hfailed, Bool.and_true]
    | some driver =>
      have hok : HResult.sOk.failed = false := by decide
      refine .inl ⟨port, driver, rfl, ?_⟩
      simp only [hok, Bool.and_false]

/-- **Going online** announces active monitoring; it is true if and only if the driver monitors
after the push, and the connection is still there. -/
theorem goOnline_spec (env : TrayEnvironment) (hconnected : s.session.connected = true)
    (hstale : s.stale = false) (hdriver : s.session.driver = some driver) :
    (s.goOnline env).ShowsActive ∧ (s.goOnline env).session.driver ≠ none ∧
      ((s.goOnline env).Live ↔ PushesActive env s.session.requests s.config driver) := by
  obtain ⟨driver', n, hrun, hflag⟩ := run_pushToDriver_spec env.deliveries
    (s.numbers env) s.config hconnected hdriver
  have hsession : (s.goOnline env).session = ⟨keepsAll [env.deliveries s.session.requests,
      env.deliveries (s.session.requests + 1), env.deliveries (s.session.requests + 2)],
      some driver', n⟩ := by
    rw [← hrun, goOnline, setStatus, push, hconnected, deliveries_of_not_stale hstale]
  have hstale' : (s.goOnline env).stale = false := hstale
  have hmonitors : driver'.config.monitoringEnabled ≠ 0 ↔
      if (env.deliveries s.session.requests).arrives then s.config.monitoringEnabled = true
      else driver.config.monitoringEnabled ≠ 0 := by
    rw [hflag]
    split_ifs with harrives hmonitoring
    · simp [hmonitoring]
    · simp [hmonitoring]
    · rfl
  refine ⟨showsActive_iff.2 rfl, ?_, ?_⟩
  · rw [hsession]
    exact Option.some_ne_none _
  · rw [live_iff (d := driver') (by rw [hsession]), hsession, hstale', hmonitors]
    unfold PushesActive
    simp only [true_and]
    exact and_comm

/-! ### Requests of the handlers -/

/-- **A request** of a handler on a connection to a driver. -/
theorem request_eq (hconnected : s.session.connected = true)
    (hdriver : s.session.driver = some driver) (bytes : List UInt8) (replySize : ℕ) :
    s.request env bytes replySize =
      ({ s with session := ⟨(s.delivery env 0).keeps,
          some (if (s.delivery env 0).arrives then
            (rsMessageNotifyCallback driver (some bytes) (some replySize)).state else driver),
          s.session.requests + 1⟩ },
        if (s.delivery env 0).succeeds then
          (.ofStatus (rsMessageNotifyCallback driver (some bytes) (some replySize)).status,
            (rsMessageNotifyCallback driver (some bytes) (some replySize)).reply)
        else ((s.delivery env 0).code.1, none)) := by
  rw [request, Session.send_eq hconnected hdriver]
  rfl

/-- A query leaves the parameters of the driver alone, and reports its monitoring flag. -/
theorem query_spec (sequenceNumber : UInt32) (driver : DriverState) :
    (rsMessageNotifyCallback driver (some (queryConfigRequest sequenceNumber))
        (some sizeofReplyConfig)).state.config = driver.config ∧
      (rsMessageNotifyCallback driver (some (queryConfigRequest sequenceNumber))
        (some sizeofReplyConfig)).status = .success ∧
      replyMonitoring (rsMessageNotifyCallback driver (some (queryConfigRequest sequenceNumber))
        (some sizeofReplyConfig)).reply = driver.config.monitoringEnabled := by
  have hrequest : IsRequest (queryConfigRequest sequenceNumber) .queryConfig :=
    isRequest_header sequenceNumber (by decide)
  rw [hrequest.eq_requestCase]
  exact ⟨rfl, rfl, rfl⟩

/-- **A query** of a handler: the connection stays open unless it is found lost. -/
theorem request_query (env : TrayEnvironment) (hconnected : s.session.connected = true)
    (hdriver : s.session.driver = some driver) (sequenceNumber : UInt32) :
    ∃ driver', driver'.config = driver.config ∧
      (s.request env (queryConfigRequest sequenceNumber) sizeofReplyConfig).1 =
        { s with session :=
            ⟨(s.delivery env 0).keeps, some driver', s.session.requests + 1⟩ } ∧
      (s.request env (queryConfigRequest sequenceNumber) sizeofReplyConfig).2.1.failed =
        !(s.delivery env 0).succeeds ∧
      ((s.delivery env 0).succeeds = true →
        replyMonitoring (s.request env (queryConfigRequest sequenceNumber)
          sizeofReplyConfig).2.2 = driver.config.monitoringEnabled) := by
  obtain ⟨hconfig, hstatus, hreply⟩ := query_spec sequenceNumber driver
  rw [request_eq hconnected hdriver, hstatus]
  refine ⟨_, ?_, rfl, ?_, ?_⟩
  · split_ifs
    · exact hconfig
    · rfl
  · cases hsucceeds : (s.delivery env 0).succeeds with
    | true => rfl
    | false => exact (s.delivery env 0).code.2
  · intro hsucceeds
    rw [if_pos hsucceeds]
    exact hreply

theorem request_of_none (env : TrayEnvironment) (hconnected : s.session.connected = true)
    (hdriver : s.session.driver = none) (bytes : List UInt8) (replySize : ℕ) :
    (s.request env bytes replySize).2.1.failed = true ∧
      (s.request env bytes replySize).1.status = s.status ∧
      (s.request env bytes replySize).1.stale = s.stale ∧
      (s.request env bytes replySize).1.session.driver = none := by
  rw [request, Session.send_of_none hconnected hdriver]
  exact ⟨(s.deliveries env s.session.requests).code.2, rfl, rfl, rfl⟩

/-! ### The handlers -/

/-- While no driver is loaded, the client has no connection that it could lose. -/
def DriverGone (s : TrayState) : Prop :=
  s.session.driver = none → s.session.connected = true → s.stale = true

/-- What an event does to the status, and to what the status is about. -/
structure Follows (env : TrayEnvironment) (s : TrayState) (e : TrayEvent) (t : TrayState) :
    Prop where
  shows : t.ShowsActive ↔ s.Announces env e ∨ (¬ s.Withdraws env e ∧ s.ShowsActive)
  live : t.Live ↔ s.Secures env e ∨ (¬ s.Fault env e ∧ s.Live)
  gone : s.DriverGone → t.DriverGone

theorem start_follows {configOpens allowlistOpens : Bool}
    {answer : Except FailureCode PortHandle}
    (h : s.start env configOpens allowlistOpens answer = some t) :
    s.Follows env (.start configOpens allowlistOpens answer) t ∧ t.DriverGone := by
  obtain ⟨⟨config, opened⟩, hconfig, rfl⟩ := Option.map_eq_some_iff.1 h
  have hsecures : s.Secures env (.start configOpens allowlistOpens answer) ↔
      ∃ driver, s.accepting answer = some driver ∧
        PushesActive env s.session.requests config driver := by
    constructor
    · rintro ⟨config', opened', driver, hconfig', hdriver, hpush⟩
      cases hconfig.symm.trans hconfig'
      exact ⟨driver, hdriver, hpush⟩
    · rintro ⟨driver, hdriver, hpush⟩
      exact ⟨config, opened, driver, hconfig, hdriver, hpush⟩
  have hfault : ¬ s.Fault env (.start configOpens allowlistOpens answer) ↔
      s.Secures env (.start configOpens allowlistOpens answer) := not_not
  rcases connect_cases (s := { s with
      running := true
      session := { s.session with connected := false }
      config := config
      status := ⟨false, false⟩
      healthTick := 0 }) rfl answer with
    ⟨port, driver, haccepting, hconnect⟩ | ⟨haccepting, hsame, hfailed⟩
  · have hok : HResult.sOk.failed = false := by decide
    simp only [hconnect, hok, Bool.false_eq_true, if_false]
    obtain ⟨hshows, hdriver, hlive⟩ := goOnline_spec env
      (s := { s with
        running := true
        session := ⟨true, some (rsConnectNotifyCallback driver port), s.session.requests⟩
        stale := false
        config := config
        status := ⟨false, false⟩
        healthTick := 0 }) rfl rfl rfl
    have haccepting' : s.accepting answer = some driver := haccepting
    refine ⟨⟨?_, ?_, fun _ hnone => absurd hnone hdriver⟩, fun hnone => absurd hnone hdriver⟩
    · refine iff_of_true hshows (.inl ?_)
      show s.accepting answer ≠ none
      rw [haccepting']
      exact Option.some_ne_none _
    · rw [hlive, hfault, hsecures, haccepting']
      simp only [Option.some.injEq, exists_eq_left']
      exact ⟨fun h => .inl h, fun h => h.elim id And.left⟩
  · have haccepting' : s.accepting answer = none := haccepting
    simp only [hsame, hfailed, if_true]
    refine ⟨⟨?_, ?_, fun _ _ hopen => by cases hopen⟩, fun _ hopen => by cases hopen⟩
    · refine iff_of_false not_showsActive_offline ?_
      rintro (hannounces | ⟨hwithdraws, -⟩)
      · exact hannounces haccepting'
      · exact hwithdraws haccepting'
    · refine iff_of_false (not_live_of_not_connected rfl) ?_
      rw [hfault, hsecures, haccepting']
      simp

theorem timer_connect_follows (hconnected : s.session.connected = false)
    (answer : Except FailureCode PortHandle) :
    s.Follows env (.timer answer) (s.timer env answer) := by
  have hfault : s.Fault env (.timer answer) ↔ ∃ driver, s.accepting answer = some driver ∧
      ¬ PushesActive env s.session.requests s.config driver := by
    simp [Fault, hconnected]
  have hwithdraws : ¬ s.Withdraws env (.timer answer) := by simp [Withdraws, hconnected]
  unfold timer
  rw [hconnected]
  rcases connect_cases hconnected answer with
    ⟨port, driver, haccepting, hconnect⟩ | ⟨haccepting, hsame, hfailed⟩
  · have hok : HResult.sOk.failed = false := by decide
    simp only [hconnect, hok, Bool.not_false, Bool.false_eq_true, if_true, if_false]
    obtain ⟨hshows, hdriver, hlive⟩ := goOnline_spec env
      (s := { s with
        session := ⟨true, some (rsConnectNotifyCallback driver port), s.session.requests⟩
        stale := false }) rfl rfl rfl
    refine ⟨?_, ?_, fun _ hnone => absurd hnone hdriver⟩
    · refine iff_of_true hshows (.inl ⟨hconnected, ?_⟩)
      rw [haccepting]
      exact Option.some_ne_none _
    · have hlive' : _ ↔ PushesActive env s.session.requests s.config driver := hlive
      refine Iff.trans hlive' ?_
      rw [hfault]
      simp [Secures, hconnected, haccepting, not_live_of_not_connected hconnected]
  · simp only [hsame, hfailed, Bool.not_false, if_true]
    refine ⟨?_, ?_, id⟩
    · simp [Announces, hwithdraws, haccepting]
    · simp [Secures, haccepting, not_live_of_not_connected hconnected]

theorem timer_query_follows (hconnected : s.session.connected = true)
    (htick : healthTicksPerQuery ≤ s.healthTick + 1) (answer : Except FailureCode PortHandle) :
    s.Follows env (.timer answer) (s.timer env answer) := by
  have hannounces : ¬ s.Announces env (.timer answer) := by simp [Announces, hconnected]
  have hsecures : ¬ s.Secures env (.timer answer) := by simp [Secures, hconnected]
  have hwithdraws : s.Withdraws env (.timer answer) ↔ ¬ s.Answers env := by
    simp [Withdraws, hconnected, htick]
  have hfault : s.Fault env (.timer answer) ↔ ¬ s.Answers env := by
    simp [Fault, hconnected, htick]
  unfold timer
  simp only [hconnected, Bool.not_true, Bool.false_eq_true, if_false, if_pos htick]
  have hoffline : ∀ {u : TrayState}, ¬ s.Answers env →
      s.Follows env (.timer answer) (u.disconnect.setStatus false false) := by
    intro u hanswers
    refine ⟨?_, ?_, ?_⟩
    · refine iff_of_false not_showsActive_offline ?_
      simp [hannounces, hwithdraws, hanswers]
    · refine iff_of_false (not_live_of_not_connected rfl) ?_
      simp [hsecures, hfault, hanswers]
    · rintro - - hopen
      cases hopen
  cases hdriver : s.session.driver with
  | none =>
    have hfailed := (request_of_none env (s := { s with healthTick := 0 }) hconnected
      hdriver (queryConfigRequest (numbers env { s with healthTick := 0 } 0)) sizeofReplyConfig).1
    simp only [hfailed, if_true]
    exact hoffline fun hanswers => hanswers.1 hdriver
  | some driver =>
    obtain ⟨driver', hconfig, hsession, hfailed, -⟩ := request_query env
      (s := { s with healthTick := 0 }) hconnected hdriver
      (numbers env { s with healthTick := 0 } 0)
    have hdelivery : delivery env { s with healthTick := 0 } 0 = s.delivery env 0 := rfl
    rw [hdelivery] at hsession hfailed
    simp only [hfailed]
    cases hsucceeds : (s.delivery env 0).succeeds with
    | false =>
      refine hoffline fun hanswers => ?_
      cases hsucceeds.symm.trans hanswers.2
    | true =>
      have hanswers : s.Answers env :=
        ⟨by rw [hdriver]; exact Option.some_ne_none _, hsucceeds⟩
      simp only [Bool.not_true, Bool.false_eq_true, if_false]
      rw [hsession, Delivery.keeps_of_succeeds hsucceeds]
      refine ⟨?_, ?_, fun _ hnone => by cases hnone⟩
      · simp only [hannounces, hwithdraws, hanswers, not_true_eq_false, not_false_eq_true,
          true_and, false_or]
        rfl
      · rw [live_iff (d := driver') rfl, live_iff hdriver, hconfig, hconnected]
        simp [hsecures, hfault, hanswers]

theorem timer_follows (env : TrayEnvironment) (s : TrayState)
    (answer : Except FailureCode PortHandle) :
    s.Follows env (.timer answer) (s.timer env answer) := by
  cases hconnected : s.session.connected with
  | false => exact timer_connect_follows hconnected answer
  | true =>
    by_cases htick : healthTicksPerQuery ≤ s.healthTick + 1
    · exact timer_query_follows hconnected htick answer
    · -- nothing is sent
      unfold timer
      simp only [hconnected, Bool.not_true, Bool.false_eq_true, if_false, if_neg htick]
      refine ⟨?_, ?_, id⟩
      · simp only [Announces, Withdraws, hconnected, htick, Bool.true_eq_false, false_and,
          and_false, not_false_eq_true, true_and, false_or]
        rfl
      · simp only [Secures, Fault, hconnected, htick, Bool.true_eq_false, false_and, and_false,
          or_false, not_false_eq_true, true_and, false_or]
        rfl

/-- **The second request of a toggle**, for the flag that the driver does not have. -/
theorem switchMonitoring_spec (hconnected : s.session.connected = true)
    (hdriver : s.session.driver = some driver) (enabled : Bool) (sequenceNumber : UInt32)
    (faults : SaveFaults) {t : TrayState}
    (ht : s.switchMonitoring env (if enabled then resumeMonitoringRequest sequenceNumber
      else pauseMonitoringRequest sequenceNumber) enabled faults = t) :
    ∃ driver' n, t.session = ⟨(s.delivery env 0).keeps, some driver', n⟩ ∧ t.stale = s.stale ∧
      (driver'.config.monitoringEnabled ≠ 0 ↔
        if (s.delivery env 0).arrives then enabled = true
        else driver.config.monitoringEnabled ≠ 0) ∧
      t.status = if (s.delivery env 0).succeeds then ⟨true, !enabled⟩ else s.status := by
  obtain ⟨hstatus, hflag⟩ := monitoring_request driver sequenceNumber enabled
  subst ht
  unfold switchMonitoring
  rw [request_eq hconnected hdriver, hstatus]
  have hmonitors : ∀ driver' : DriverState,
      driver'.config.monitoringEnabled = (if enabled then 1 else 0) →
      ((if (s.delivery env 0).arrives then driver' else driver).config.monitoringEnabled ≠ 0 ↔
        if (s.delivery env 0).arrives then enabled = true
        else driver.config.monitoringEnabled ≠ 0) := by
    intro driver' hflag'
    cases (s.delivery env 0).arrives with
    | false => exact Iff.rfl
    | true =>
      simp only [if_true, hflag']
      cases enabled <;> decide
  cases hsucceeds : (s.delivery env 0).succeeds with
  | true =>
    have hok : (HResult.ofStatus .success).failed = false := by decide
    simp only [if_true, hok, Bool.false_eq_true, if_false]
    exact ⟨_, _, rfl, rfl, hmonitors _ hflag, rfl⟩
  | false =>
    have hfailed : (s.delivery env 0).code.1.failed = true := (s.delivery env 0).code.2
    simp only [Bool.false_eq_true, if_false, hfailed, if_true]
    exact ⟨_, _, rfl, trivial, hmonitors _ hflag, trivial⟩

theorem togglePause_follows_of_asks {enabled : Bool} (hasks : s.Asks env enabled)
    (faults : SaveFaults) :
    s.Follows env (.togglePause faults) (s.togglePause env faults) := by
  obtain ⟨hconnected, hsucceeds, driver, hdriver, hflag⟩ := hasks
  have hstale : s.stale = false := succeeds_deliveries hsucceeds
  have hasks : ∀ b, s.Asks env b ↔ b = enabled := by
    intro b
    refine ⟨?_, fun hb => hb ▸ ⟨hconnected, hsucceeds, driver, hdriver, hflag⟩⟩
    rintro ⟨-, -, driver', hdriver', hb⟩
    cases hdriver.symm.trans hdriver'
    exact Bool.eq_iff_iff.2 (hb.trans hflag.symm)
  have hanswers : s.Answers env := ⟨by rw [hdriver]; exact Option.some_ne_none _, hsucceeds⟩
  obtain ⟨driver', hconfig, hsession, hfailed, hreply⟩ := request_query env hconnected
    hdriver (s.numbers env 0)
  -- the second request is for the flag that the driver does not have
  obtain ⟨driver'', n, hsession', hstale', hmonitors, hstatus⟩ :=
    switchMonitoring_spec (t := s.togglePause env faults)
      (s := { s with session := ⟨true, some driver', s.session.requests + 1⟩ }) rfl rfl enabled
      (numbers env { s with session := ⟨true, some driver', s.session.requests + 1⟩ } 0) faults
      (by
        unfold togglePause
        simp only [hfailed, hsucceeds, Bool.not_true, Bool.false_eq_true, if_false,
          hreply hsucceeds]
        rw [hsession, Delivery.keeps_of_succeeds hsucceeds]
        cases enabled with
        | true => rw [if_neg (not_not.2 (hflag.1 rfl)), if_pos rfl]
        | false =>
          rw [if_pos fun hzero => Bool.false_ne_true (hflag.2 hzero), if_neg Bool.false_ne_true])
  have hdelivery : delivery env
      { s with session := ⟨true, some driver', s.session.requests + 1⟩ } 0 = s.delivery env 1 :=
    rfl
  rw [hdelivery] at hsession' hmonitors hstatus
  simp only [hconfig, ne_eq, ← hflag] at hmonitors
  refine ⟨?_, ?_, fun _ hnone => by rw [hsession'] at hnone; cases hnone⟩
  · rw [showsActive_iff, hstatus, showsActive_iff]
    simp only [Announces, Withdraws, hasks]
    cases (s.delivery env 1).succeeds <;> cases enabled <;> simp
  · rw [live_iff (d := driver'') (by rw [hsession']), hsession', hstale', ne_eq, hmonitors,
      live_iff hdriver, ne_eq, ← hflag]
    simp only [Secures, Fault, hasks, hanswers, hconnected, hstale, exists_eq_left]
    cases (s.delivery env 1).arrives <;> cases (s.delivery env 1).keeps <;> cases enabled <;> simp

theorem togglePause_follows (env : TrayEnvironment) (s : TrayState) (faults : SaveFaults) :
    s.Follows env (.togglePause faults) (s.togglePause env faults) := by
  by_cases hasks : ∃ enabled, s.Asks env enabled
  · obtain ⟨enabled, hasks⟩ := hasks
    exact togglePause_follows_of_asks hasks faults
  rw [not_exists] at hasks
  have hannounces : ¬ s.Announces env (.togglePause faults) := fun h => hasks true h.1
  have hwithdraws : ¬ s.Withdraws env (.togglePause faults) := fun h => hasks false h.1
  have hsecures : ¬ s.Secures env (.togglePause faults) := fun h => hasks true h.1
  have hfault : s.Fault env (.togglePause faults) ↔
      s.session.connected = true ∧ ¬ s.Answers env ∧ (s.delivery env 0).keeps = false := by
    simp [Fault, hasks]
  unfold togglePause
  cases hconnected : s.session.connected with
  | false =>
    have hfailed : HResult.notConnected.failed = true := by decide
    have hsend : s.request env (queryConfigRequest (s.numbers env 0)) sizeofReplyConfig =
        (s, .notConnected, none) := by
      rw [request, Session.send_of_not_connected hconnected]
    simp only [hsend, hfailed, if_true]
    refine ⟨?_, ?_, id⟩
    · simp [hannounces, hwithdraws]
    · simp [hsecures, not_live_of_not_connected hconnected]
  | true =>
    cases hdriver : s.session.driver with
    | none =>
      obtain ⟨hfailed, hstatus, hstale, hnone⟩ := request_of_none env hconnected hdriver
        (queryConfigRequest (s.numbers env 0)) sizeofReplyConfig
      simp only [hfailed, if_true]
      refine ⟨?_, ?_, fun hgone _ _ => hstale.trans (hgone hdriver hconnected)⟩
      · rw [showsActive_iff, hstatus, ← showsActive_iff]
        simp [hannounces, hwithdraws]
      · simp [hsecures, not_live_of_none hnone, not_live_of_none hdriver]
    | some driver =>
      obtain ⟨driver', hconfig, hsession, hfailed, -⟩ := request_query env hconnected
        hdriver (s.numbers env 0)
      have hsucceeds : (s.delivery env 0).succeeds = false := by
        by_contra hsucceeds
        rw [Bool.not_eq_false] at hsucceeds
        refine hasks (decide (driver.config.monitoringEnabled = 0))
          ⟨hconnected, hsucceeds, driver, hdriver, decide_eq_true_iff⟩
      have hanswers : ¬ s.Answers env := fun h => by cases hsucceeds.symm.trans h.2
      simp only [hfailed, hsucceeds, Bool.not_false, if_true]
      rw [hsession]
      refine ⟨?_, ?_, fun _ hnone => by cases hnone⟩
      · simp only [hannounces, hwithdraws, not_false_eq_true, true_and, false_or]
        rfl
      · rw [live_iff (d := driver') rfl, live_iff hdriver, hconfig, hconnected, hfault]
        simp [hsecures, hanswers, hconnected]

theorem showStatus_follows (env : TrayEnvironment) (s : TrayState) :
    s.Follows env .showStatus (s.showStatusDialog env) := by
  unfold showStatusDialog
  cases hconnected : s.session.connected with
  | false =>
    rw [request, Session.send_of_not_connected hconnected]
    refine ⟨?_, ?_, id⟩
    · simp [Announces, Withdraws]
    · simp [Secures, Fault, hconnected]
  | true =>
    cases hdriver : s.session.driver with
    | none =>
      obtain ⟨-, hstatus, hstale, hnone⟩ := request_of_none env hconnected hdriver
        (queryConfigRequest (s.numbers env 0)) sizeofReplyConfig
      refine ⟨?_, ?_, fun hgone _ _ => hstale.trans (hgone hdriver hconnected)⟩
      · rw [showsActive_iff, hstatus, ← showsActive_iff]
        simp [Announces, Withdraws]
      · simp [Secures, not_live_of_none hnone, not_live_of_none hdriver]
    | some driver =>
      obtain ⟨driver', hconfig, hsession, -⟩ := request_query env hconnected hdriver
        (s.numbers env 0)
      rw [hsession]
      refine ⟨?_, ?_, fun _ hnone => by cases hnone⟩
      · simp only [Announces, Withdraws, not_false_eq_true, true_and, false_or]
        rfl
      · rw [live_iff (d := driver') rfl, live_iff hdriver, hconfig, hconnected]
        simp [Secures, Fault, hconnected]

/-! ### All events -/

/-- **What an event does**, while the tray runs or when it starts. -/
theorem step_follows (h : (traySystem env).step s e = some t) (ht : t.running = true)
    (hgone : s.running = true → s.DriverGone) : s.Follows env e t ∧ t.DriverGone := by
  have hsame : (∀ u : TrayState, ¬ u.Announces env e ∧ ¬ u.Withdraws env e ∧ ¬ u.Secures env e ∧
      ¬ u.Fault env e) → t.status = s.status → (t.Live ↔ s.Live) → t.DriverGone →
      s.Follows env e t ∧ t.DriverGone := by
    intro hnone hstatus hlive hgone'
    obtain ⟨hannounces, hwithdraws, hsecures, hfault⟩ := hnone s
    refine ⟨⟨?_, ?_, fun _ => hgone'⟩, hgone'⟩
    · rw [showsActive_iff, hstatus, ← showsActive_iff]
      simp [hannounces, hwithdraws]
    · simp [hsecures, hfault, hlive]
  have hkept : s.Follows env e t → s.running = true → s.Follows env e t ∧ t.DriverGone :=
    fun hfollows hrunning => ⟨hfollows, hfollows.gone (hgone hrunning)⟩
  cases e with
  | start configOpens allowlistOpens answer =>
    simp only [traySystem] at h
    split_ifs at h
    exact start_follows h
  | timer answer =>
    simp only [traySystem] at h
    split_ifs at h with hrunning
    cases h
    exact hkept (timer_follows env s answer) hrunning
  | togglePause faults =>
    simp only [traySystem] at h
    split_ifs at h with hrunning
    cases h
    exact hkept (togglePause_follows env s faults) hrunning
  | showStatus =>
    simp only [traySystem] at h
    split_ifs at h with hrunning
    cases h
    exact hkept (showStatus_follows env s) hrunning
  | destroy =>
    simp only [traySystem] at h
    split_ifs at h
    cases h
    cases ht
  | connectionLost =>
    simp only [traySystem] at h
    split_ifs at h with hrunning
    cases h
    refine hkept ⟨?_, ?_, fun _ _ hopen => by cases hopen⟩ hrunning
    · simp only [Announces, Withdraws, not_false_eq_true, true_and, false_or]
      rfl
    · simp [Secures, Fault, not_live_of_not_connected]
  | driverLoads =>
    simp only [traySystem] at h
    split_ifs at h with hdriver
    cases h
    rw [Option.isNone_iff_eq_none] at hdriver
    refine hsame (fun u => ⟨id, id, id, id⟩) rfl ?_ fun hnone => by cases hnone
    -- the connection, if there is one, belongs to the driver that was unloaded
    refine iff_of_false ?_ (not_live_of_none hdriver)
    rintro ⟨hconnected, hstale, -⟩
    cases (hgone ht hdriver hconnected).symm.trans hstale
  | driverUnloads =>
    simp only [traySystem] at h
    split_ifs at h
    cases h
    refine ⟨⟨?_, ?_, fun _ _ _ => rfl⟩, fun _ _ => rfl⟩
    · simp only [Announces, Withdraws, not_false_eq_true, true_and, false_or]
      rfl
    · simp [Secures, Fault, not_live_of_none]
  | driverRuns driver =>
    simp only [traySystem] at h
    split at h
    · cases h
    · next old hold =>
      split_ifs at h with hconfig
      cases h
      refine hsame (fun u => ⟨id, id, id, id⟩) rfl ?_ fun hnone => by cases hnone
      rw [live_iff (d := driver) rfl, live_iff hold, hconfig]
  | registryChanges registry =>
    cases h
    exact hsame (fun u => ⟨id, id, id, id⟩) rfl Iff.rfl (hgone ht)

end

end TrayState

end RansomShield
