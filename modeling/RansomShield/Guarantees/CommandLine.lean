import RansomShield.Client.CommandLine
import RansomShield.Guarantees.RegistryRoundTrip

/-!
# Commands that take effect

`--pause` and `--resume` connect to the driver.  The other commands that change something push the
settings only on an open connection, and a process starts without one: they change the registry and
leave the driver as it is.  So the change that such a command names is in the driver afterwards if
and only if it was there before (`cli_change_iff`), and a new threshold does not reach the driver
(`set_threshold_not_pushed`).
-/

namespace RansomShield

/-! ### Changes -/

/-- What a command is to change. -/
inductive Change
  | threshold (fileCount seconds : UInt32)
  | exception (imageName : Argument)
  | noException (imageName : Argument)
  | monitoring (enabled : Bool)

/-- The change that a command line names. -/
def Change.named (lower : UInt16 → UInt16) (argv : List Argument) : Option Change :=
  match argv with
  | _ :: name :: arguments =>
    match CliCommand.parse (name.1.chars.map lower), arguments with
    | some .setThreshold, count :: secs :: _ =>
      some (.threshold (ulongArgument count) (ulongArgument secs))
    | some .addException, imageName :: _ => some (.exception imageName)
    | some .removeException, imageName :: _ => some (.noException imageName)
    | some .pause, _ => some (.monitoring false)
    | some .resume, _ => some (.monitoring true)
    | _, _ => none
  | _ => none

/-- A value of the key holds the string. -/
def Lists (key : RegKey) (e : WString) : Prop :=
  ∃ i < rsMaxAllowlistEntries, key (entryName i) = some ⟨.regSz, stringBytes e⟩

section

variable (lower : UInt16 → UInt16)

/-- The change is present in the registry. -/
def Change.InRegistry (reg : Registry) : Change → Prop
  | .threshold fileCount seconds =>
    reg.config rsRegvalThreshold = some (dwordValue fileCount) ∧
      reg.config rsRegvalTimewindow = some (dwordValue seconds)
  | .exception imageName => Lists reg.allowlist imageName.1
  | .noException imageName =>
    ∀ e, Lists reg.allowlist e → ConfigManager.sameName lower imageName.1 e = false
  | .monitoring enabled =>
    reg.config rsRegvalMonitoring = some (dwordValue (if enabled then 1 else 0))

/-- The change is present in the driver. -/
def Change.InDriver (driver : DriverState) : Change → Prop
  | .threshold fileCount seconds =>
    driver.config.fileCountThreshold = fileCount ∧ driver.config.timeWindowSeconds = seconds
  | .exception imageName => storedName imageName.1 ∈ dynamicNames driver
  | .noException imageName =>
    ∀ name ∈ dynamicNames driver, name.map lower ≠ (storedName imageName.1).map lower
  | .monitoring enabled => driver.config.monitoringEnabled = if enabled then 1 else 0

/-- The registry has no second entry that is equal to the removed one up to case. -/
def Change.Unique (reg : Registry) : Change → Prop
  | .noException imageName =>
    ∀ entries, loadEntries true reg.allowlist rsMaxAllowlistEntries 0 = some entries →
      entries.countP (ConfigManager.sameName lower imageName.1) ≤ 1
  | _ => True

end

/-- All calls of the system succeed. -/
structure CliEnvironment.AllSucceed (env : CliEnvironment) : Prop where
  isElevated : env.isElevated = true
  configOpens : env.configOpens = true
  allowlistOpens : env.allowlistOpens = true
  saveFaults : ∀ n, env.saveFaults n = SaveFaults.none
  port : ∃ port, env.port = .ok port
  deliveries : ∀ n, (env.deliveries n).succeeds = true

/-! ### Saves that succeed -/

theorem stringBytes_inj {e e' : WString} (h : stringBytes e = stringBytes e') : e = e' := by
  have hn : ∃ n, e.chars.length < n ∧ e'.chars.length < n :=
    ⟨max e.chars.length e'.chars.length + 1, by omega, by omega⟩
  obtain ⟨n, hlt, hlt'⟩ := hn
  have hread := bufferString_stringBytes hlt
  rw [h, bufferString_stringBytes hlt'] at hread
  exact (Option.some.inj hread).symm

theorem stringValue_of_length_lt {e : WString} (h : e.chars.length < 32768) :
    stringValue e = ⟨.regSz, stringBytes e⟩ := by
  rw [stringValue, Nat.mod_eq_of_lt (by omega), ← length_stringBytes, List.take_length]

theorem writeEntries_none (entries : List WString) (i : ℕ) (key : RegKey) :
    (writeEntries true (fun _ => false) entries i key).2 = true := by
  induction entries generalizing i key with
  | nil => rfl
  | cons e entries ih =>
    simp only [writeEntries, regSetValueEx, Bool.not_false, Bool.and_self, if_true, Bool.true_and]
    exact ih _ _

/-- **A save without faults** succeeds. -/
theorem saved_none {m : ConfigManager} (hm : m.Opened) (reg : Registry) :
    Saved m SaveFaults.none reg (m.saveToRegistry SaveFaults.none reg).1 := by
  refine saved_of_success (Prod.ext rfl ?_)
  unfold ConfigManager.saveToRegistry
  simp only [SaveFaults.none, hm.hConfigKey, hm.hAllowlistKey, writeDWord, regSetValueEx,
    writeEntries_none, Bool.not_false, Bool.and_self, if_true]

/-- The entries that are in the registry after a save, when none of them was too long to be read
or to be an argument. -/
theorem lists_iff_of_saved {m : ConfigManager} {reg reg' : Registry} (hm : m.Opened)
    (h : Saved m SaveFaults.none reg reg') (hlen : ∀ e ∈ m.allowlist, e.chars.length < 32768)
    (e : WString) : Lists reg'.allowlist e ↔ e ∈ m.allowlist := by
  constructor
  · rintro ⟨i, hi, hvalue⟩
    by_cases hlt : i < m.allowlist.length
    · rw [h.entries i _ (List.getElem?_eq_getElem hlt),
        stringValue_of_length_lt (hlen _ (List.getElem_mem hlt))] at hvalue
      rw [← stringBytes_inj (RegValue.mk.inj (Option.some.inj hvalue)).2]
      exact List.getElem_mem hlt
    · rw [h.others i (not_lt.1 hlt) hi, hm.hAllowlistKey] at hvalue
      simp [SaveFaults.none] at hvalue
  · intro he
    obtain ⟨i, hi⟩ := List.getElem?_of_mem he
    have hlt := (List.getElem?_eq_some_iff.1 hi).1
    exact ⟨i, hlt.trans_le m.length_le, by
      rw [h.entries i e hi, stringValue_of_length_lt (hlen e he)]⟩

theorem addException_spec {m m' : ConfigManager} {lower : UInt16 → UInt16} {imageName : WString}
    (hm : m.Opened) (h : m.addException lower imageName = (m', true)) :
    m'.allowlist = m.allowlist ++ [imageName] ∧ m'.Opened := by
  unfold ConfigManager.addException at h
  split_ifs at h with hany hroom
  · simp at h
  · obtain rfl := (Prod.mk.inj h).1
    exact ⟨rfl, hm.1, hm.2, hm.3⟩
  · simp at h

theorem removeException_spec {m m' : ConfigManager} {lower : UInt16 → UInt16}
    {imageName : WString} (hm : m.Opened) (h : m.removeException lower imageName = (m', true)) :
    m'.allowlist = m.allowlist.eraseP (ConfigManager.sameName lower imageName) ∧ m'.Opened := by
  unfold ConfigManager.removeException at h
  split_ifs at h with hany
  · obtain rfl := (Prod.mk.inj h).1
    exact ⟨rfl, hm.1, hm.2, hm.3⟩
  · simp at h

/-! ### Commands without a connection -/

theorem CliState.pushIfConnected_of_not_connected (env : CliEnvironment) {session : Session}
    (h : session.connected = false) (config : ConfigManager) (registry : Registry) :
    pushIfConnected env ⟨config, session, registry⟩ = ⟨config, session, registry⟩ := by
  unfold pushIfConnected
  simp [h]

section

variable {env : CliEnvironment} {s s' : CliState} {lower : UInt16 → UInt16}

/-- **A threshold** is saved, and not pushed. -/
theorem cmdSetThreshold_spec (lower : UInt16 → UInt16) (henv : env.AllSucceed)
    (hm : s.config.Opened) (hconnected : s.session.connected = false) (count secs : Argument)
    (arguments : List Argument)
    (h : s.cmdSetThreshold env (count :: secs :: arguments) = (s', 0)) :
    s'.session = s.session ∧
      (Change.threshold (ulongArgument count) (ulongArgument secs)).InRegistry lower
        s'.registry := by
  rw [CliState.cmdSetThreshold] at h
  split_ifs at h with hzero
  · simp at h
  simp only [CliState.pushIfConnected_of_not_connected env hconnected] at h
  obtain rfl := (Prod.mk.inj h).1
  refine ⟨rfl, ?_⟩
  simp only [ConfigManager.setFileCountThreshold, ConfigManager.setTimeWindowSeconds,
    henv.saveFaults]
  have hsaved := saved_none (m := { s.config with
    fileCountThreshold := ulongArgument count
    timeWindowSeconds := ulongArgument secs }) ⟨hm.1, hm.2, hm.3⟩
  exact ⟨(hsaved _).threshold, (hsaved _).timeWindow⟩

/-- **An added name** is saved, and not pushed. -/
theorem cmdAddException_spec (henv : env.AllSucceed) (hm : s.config.Opened)
    (hlen : ∀ e ∈ s.config.allowlist, e.chars.length < 32768)
    (hconnected : s.session.connected = false) {imageName : Argument}
    (h : s.cmdAddException env lower imageName = (s', 0)) :
    s'.session = s.session ∧ (Change.exception imageName).InRegistry lower s'.registry := by
  rw [CliState.cmdAddException] at h
  split_ifs at h with hempty
  · simp at h
  cases hadd : s.config.addException lower imageName.1 with
  | mk config added =>
    cases added with
    | false => simp [hadd] at h
    | true =>
      obtain ⟨hlist, hopened⟩ := addException_spec hm hadd
      simp only [hadd, if_true, henv.saveFaults,
        CliState.pushIfConnected_of_not_connected env hconnected] at h
      obtain rfl := (Prod.mk.inj h).1
      refine ⟨rfl, (lists_iff_of_saved hopened (saved_none hopened _) ?_ _).2 ?_⟩
      · intro e he
        rw [hlist] at he
        rcases List.mem_append.1 he with he | he
        · exact hlen e he
        · rw [List.mem_singleton.1 he]
          exact imageName.2
      · rw [hlist]
        exact List.mem_append_right _ (List.mem_singleton_self _)

theorem forall_mem_eraseP_iff {A : Type*} (p : A → Bool) (l : List A) :
    (∀ a ∈ l.eraseP p, p a = false) ↔ l.countP p ≤ 1 := by
  induction l with
  | nil => simp
  | cons a l ih =>
    cases hp : p a with
    | true =>
      rw [List.eraseP_cons_of_pos hp, List.countP_cons_of_pos hp]
      simp [List.countP_eq_zero]
    | false =>
      have hne : ¬ p a = true := by simp [hp]
      rw [List.eraseP_cons_of_neg hne, List.countP_cons_of_neg hne, ← ih]
      simp [hp]

/-- **A removed name** is erased once in the registry, and stays in the driver. -/
theorem cmdRemoveException_spec (henv : env.AllSucceed) (hm : s.config.Opened)
    (hlen : ∀ e ∈ s.config.allowlist, e.chars.length < 32768)
    (hconnected : s.session.connected = false) {imageName : Argument}
    (h : s.cmdRemoveException env lower imageName = (s', 0)) :
    s'.session = s.session ∧
      ((Change.noException imageName).InRegistry lower s'.registry ↔
        s.config.allowlist.countP (ConfigManager.sameName lower imageName.1) ≤ 1) := by
  rw [CliState.cmdRemoveException] at h
  split_ifs at h with hempty
  · simp at h
  cases hremove : s.config.removeException lower imageName.1 with
  | mk config removed =>
    cases removed with
    | false => simp [hremove] at h
    | true =>
      obtain ⟨hlist, hopened⟩ := removeException_spec hm hremove
      simp only [hremove, if_true, henv.saveFaults,
        CliState.pushIfConnected_of_not_connected env hconnected] at h
      obtain rfl := (Prod.mk.inj h).1
      have hlists := lists_iff_of_saved hopened (saved_none hopened s.registry) fun e he =>
        hlen e (List.mem_of_mem_eraseP (hlist ▸ he))
      refine ⟨rfl, ?_⟩
      simp only [Change.InRegistry, hlists, hlist]
      exact forall_mem_eraseP_iff _ _

end

/-! ### Pause and resume -/

theorem CliState.runCommand_pause (env : CliEnvironment) (s : CliState) (lower : UInt16 → UInt16)
    (arguments : List Argument) :
    s.runCommand env lower (some .pause) arguments = s.cmdPause env := by
  cases arguments <;> rfl

theorem CliState.runCommand_resume (env : CliEnvironment) (s : CliState)
    (lower : UInt16 → UInt16) (arguments : List Argument) :
    s.runCommand env lower (some .resume) arguments = s.cmdResume env := by
  cases arguments <;> rfl

/-- **A flag** is set in the driver and saved. -/
theorem cmdMonitoring_spec (lower : UInt16 → UInt16) {env : CliEnvironment} {s s' : CliState}
    {bytes : List UInt8} {enabled : Bool} {driver : DriverState} (henv : env.AllSucceed)
    (hm : s.config.Opened) (h : s.cmdMonitoring env bytes enabled = (s', 0))
    (hconnected : s.session.connected = false) (hdriver : s.session.driver = some driver)
    (hbytes : bytes =
      if enabled then resumeMonitoringRequest (env.numbers 0)
      else pauseMonitoringRequest (env.numbers 0)) :
    ∃ driver', s'.session.driver = some driver' ∧
      (Change.monitoring enabled).InRegistry lower s'.registry ∧
      (Change.monitoring enabled).InDriver lower driver' := by
  obtain ⟨port, hport⟩ := henv.port
  have hconnect : s.connect env =
      ({ s with session :=
          { s.session with
            connected := true
            driver := some (rsConnectNotifyCallback driver port) } }, .sOk) := by
    unfold CliState.connect Session.connect
    simp only [hconnected, hport, hdriver, Bool.false_eq_true, if_false]
  have hok : HResult.sOk.failed = false := by decide
  rw [CliState.cmdMonitoring, CliState.withConnection, hconnected, hconnect] at h
  simp only [Bool.false_eq_true, if_false, hok] at h
  rw [CliState.request, Session.send_of_success rfl rfl (henv.deliveries _)] at h
  dsimp only at h
  split_ifs at h with hfailed
  · simp at h
  obtain rfl := (Prod.mk.inj h).1
  refine ⟨_, rfl, ?_, ?_⟩
  · simp only [ConfigManager.setMonitoringEnabled, henv.saveFaults]
    exact (saved_none (m := { s.config with monitoringEnabled := enabled })
      ⟨hm.1, hm.2, hm.3⟩ _).monitoring
  · rw [hbytes]
    exact (monitoring_request ..).2

/-! ### Command lines -/

section

variable {lower : UInt16 → UInt16} {env : CliEnvironment} {registry : Registry}
  {driver : DriverState}

/-- **A command runs without a connection**, on the settings of the registry. -/
theorem runCommand_of_wmain (henv : env.AllSucceed) {program name : Argument}
    {arguments : List Argument} {s : CliState}
    (hhelp : CliCommand.parse (name.1.chars.map lower) ≠ some .help)
    (h : wmain lower env (program :: name :: arguments) registry (some driver) = .exit s 0) :
    ∃ config : ConfigManager, config.Opened ∧
      loadEntries true registry.allowlist rsMaxAllowlistEntries 0 = some config.allowlist ∧
      CliState.runCommand env ⟨config, ⟨false, some driver, 0⟩, registry⟩ lower
        (CliCommand.parse (name.1.chars.map lower)) arguments = (s, 0) := by
  rw [wmain, henv.isElevated, henv.configOpens, henv.allowlistOpens] at h
  simp only [Bool.not_true, Bool.false_eq_true, if_false, hhelp] at h
  cases hinit : ConfigManager.new.runInitialize true true registry with
  | none => simp [hinit] at h
  | some result =>
    obtain ⟨config, success⟩ := result
    rw [hinit] at h
    have hread := hinit
    rw [ConfigManager.runInitialize, if_neg (by decide), if_neg (by decide),
      if_neg (by decide)] at hread
    obtain ⟨m, hvalues, hm⟩ := Option.map_eq_some_iff.1 hread
    obtain ⟨rfl, rfl⟩ := Prod.mk.inj hm
    have hlist := congrArg (Option.map ConfigManager.allowlist) hvalues
    rw [readValues_allowlist] at hlist
    refine ⟨_, opened_of_runInitialize rfl hinit, hlist, ?_⟩
    obtain ⟨rfl, hcode⟩ := CliResult.exit.inj h
    exact Prod.ext rfl hcode

theorem named_cases {argv : List Argument} {change : Change}
    (h : Change.named lower argv = some change) :
    ∃ program name arguments, argv = program :: name :: arguments ∧
      CliCommand.parse (name.1.chars.map lower) ≠ some .help := by
  unfold Change.named at h
  split at h
  · next program name arguments =>
    refine ⟨program, name, arguments, rfl, fun hhelp => ?_⟩
    rw [hhelp] at h
    cases arguments <;> cases h
  · cases h

variable (lower) in
/-- The condition under which a change takes effect: it is made by a request to the driver, or the
driver has it already. -/
def Change.Effective (registry : Registry) (driver : DriverState) : Change → Prop
  | .monitoring _ => True
  | change => change.InDriver lower driver ∧ change.Unique lower registry

/-- **When a change takes effect.**  For every registry and every driver that is loaded, when all
calls succeed: after a command line that changes something and returns 0, the change is in the
registry and in the driver if and only if the command is `--pause` or `--resume`, or the driver had
the change already and, for `--remove-exception`, the registry had no second entry equal to the
name. -/
theorem cli_change_iff (lower : UInt16 → UInt16) (env : CliEnvironment) (henv : env.AllSucceed)
    (registry : Registry) (driver : DriverState) (argv : List Argument) (change : Change)
    (hnamed : Change.named lower argv = some change) (s : CliState)
    (hexit : wmain lower env argv registry (some driver) = .exit s 0) :
    ∃ driver', s.session.driver = some driver' ∧
      (change.InRegistry lower s.registry ∧ change.InDriver lower driver' ↔
        change.Effective lower registry driver) := by
  obtain ⟨program, name, arguments, rfl, hhelp⟩ := named_cases hnamed
  obtain ⟨config, hopened, hload, hrun⟩ := runCommand_of_wmain henv hhelp hexit
  have hlen : ∀ e ∈ config.allowlist, e.chars.length < 32768 := fun e he =>
    (length_lt_of_loadEntries hload e he).trans (by decide)
  simp only [Change.named] at hnamed
  split at hnamed
  · next count secs rest hparse =>
    cases hnamed
    rw [hparse] at hrun
    obtain ⟨hsession, hregistry⟩ := cmdSetThreshold_spec lower henv hopened rfl count secs rest hrun
    refine ⟨driver, by rw [hsession], ?_⟩
    simp only [hregistry, Change.Effective, Change.Unique, true_and, and_true]
  · next imageName _ hparse =>
    cases hnamed
    rw [hparse] at hrun
    obtain ⟨hsession, hregistry⟩ := cmdAddException_spec henv hopened hlen rfl hrun
    refine ⟨driver, by rw [hsession], ?_⟩
    simp only [hregistry, Change.Effective, Change.Unique, true_and, and_true]
  · next imageName _ hparse =>
    cases hnamed
    rw [hparse] at hrun
    obtain ⟨hsession, hregistry⟩ := cmdRemoveException_spec henv hopened hlen rfl hrun
    refine ⟨driver, by rw [hsession], ?_⟩
    have hunique : (Change.noException imageName).Unique lower registry ↔
        config.allowlist.countP (ConfigManager.sameName lower imageName.1) ≤ 1 := by
      simp only [Change.Unique, hload, Option.some.injEq, forall_eq']
    rw [hregistry, Change.Effective, hunique, and_comm]
    · intro enabled h
      cases h
  · next hparse =>
    cases hnamed
    rw [hparse, CliState.runCommand_pause] at hrun
    obtain ⟨driver', hdriver', hregistry, hdriver⟩ :=
      cmdMonitoring_spec lower henv hopened hrun rfl rfl rfl
    exact ⟨driver', hdriver', iff_of_true ⟨hregistry, hdriver⟩ trivial⟩
  · next hparse =>
    cases hnamed
    rw [hparse, CliState.runCommand_resume] at hrun
    obtain ⟨driver', hdriver', hregistry, hdriver⟩ :=
      cmdMonitoring_spec lower henv hopened hrun rfl rfl rfl
    exact ⟨driver', hdriver', iff_of_true ⟨hregistry, hdriver⟩ trivial⟩
  · cases hnamed

end

/-! ### A threshold that stays in the registry -/

/-- All calls succeed. -/
def quietEnvironment : CliEnvironment where
  isElevated := true
  configOpens := true
  allowlistOpens := true
  saveFaults _ := SaveFaults.none
  port := .ok 0
  deliveries _ := Delivery.success
  numbers n := UInt32.ofNat n

theorem allSucceed_quietEnvironment : quietEnvironment.AllSucceed where
  isElevated := rfl
  configOpens := rfl
  allowlistOpens := rfl
  saveFaults _ := rfl
  port := ⟨0, rfl⟩
  deliveries _ := rfl

/-- The name of the program. -/
def programName : Argument := ⟨⟨wide "RansomShield.exe", by decide⟩, by decide⟩

def setThresholdArgument : Argument := ⟨⟨wide "--set-threshold", by decide⟩, by decide⟩

def pauseArgument : Argument := ⟨⟨wide "--pause", by decide⟩, by decide⟩

def fiveArgument : Argument := ⟨⟨wide "5", by decide⟩, by decide⟩

/-- How a command runs on the registry before the first start. -/
theorem wmain_emptyRegistry {name : Argument} {arguments : List Argument} {command : CliCommand}
    {s : CliState} (hparse : CliCommand.parse (name.1.chars.map id) = some command)
    (hhelp : command ≠ .help)
    (hrun : CliState.runCommand quietEnvironment
      ⟨firstStart [] (Nat.zero_le _), ⟨false, some DriverState.init, 0⟩, emptyRegistry⟩ id
      (some command) arguments = (s, 0)) :
    wmain id quietEnvironment (programName :: name :: arguments) emptyRegistry
      (some DriverState.init) = .exit s 0 := by
  have hne : some command ≠ some CliCommand.help := fun h => hhelp (Option.some.inj h)
  have hinit : ConfigManager.new.runInitialize quietEnvironment.configOpens
      quietEnvironment.allowlistOpens emptyRegistry = some (firstStart [] (Nat.zero_le _), true) :=
    runInitialize_emptyRegistry
  unfold wmain
  simp only [hparse, hne, hinit, hrun, if_false]
  rfl

/-- A pause reaches the driver. -/
theorem cli_change_pause :
    ∃ s driver', wmain id quietEnvironment [programName, pauseArgument] emptyRegistry
        (some DriverState.init) = .exit s 0 ∧
      s.session.driver = some driver' ∧
      (Change.monitoring false).InRegistry id s.registry ∧
      (Change.monitoring false).InDriver id driver' := by
  obtain ⟨s, hrun⟩ : ∃ s, CliState.runCommand quietEnvironment
      ⟨firstStart [] (Nat.zero_le _), ⟨false, some DriverState.init, 0⟩, emptyRegistry⟩ id
      (some .pause) [] = (s, 0) := ⟨_, Prod.ext rfl (by decide +kernel)⟩
  have hparse : CliCommand.parse (pauseArgument.1.chars.map id) = some .pause := by decide
  have hexit := wmain_emptyRegistry hparse (by decide) hrun
  obtain ⟨driver', hdriver', hiff⟩ := cli_change_iff id quietEnvironment
    allSucceed_quietEnvironment emptyRegistry DriverState.init [programName, pauseArgument]
    (.monitoring false) (by rfl) s hexit
  obtain ⟨hregistry, hdriver⟩ := hiff.2 trivial
  exact ⟨s, driver', hexit, hdriver', hregistry, hdriver⟩

/-- **A threshold that does not reach the driver**: the command returns 0, the registry has the
new values, and the driver still has its defaults. -/
theorem set_threshold_not_pushed :
    ∃ s, wmain id quietEnvironment
        [programName, setThresholdArgument, fiveArgument, fiveArgument] emptyRegistry
        (some DriverState.init) = .exit s 0 ∧
      (Change.threshold 5 5).InRegistry id s.registry ∧
      s.session.driver = some DriverState.init ∧
      ¬ (Change.threshold 5 5).InDriver id DriverState.init := by
  obtain ⟨s, hrun⟩ : ∃ s, CliState.runCommand quietEnvironment
      ⟨firstStart [] (Nat.zero_le _), ⟨false, some DriverState.init, 0⟩, emptyRegistry⟩ id
      (some .setThreshold) [fiveArgument, fiveArgument] = (s, 0) :=
    ⟨_, Prod.ext rfl (by decide +kernel)⟩
  obtain ⟨hsession, hregistry⟩ := cmdSetThreshold_spec id allSucceed_quietEnvironment
    ⟨rfl, rfl, rfl⟩ rfl fiveArgument fiveArgument [] hrun
  have hfive : ulongArgument fiveArgument = 5 := by decide
  rw [hfive] at hregistry
  refine ⟨s, wmain_emptyRegistry (by decide) (by decide) hrun, hregistry, ?_, ?_⟩
  · rw [hsession]
  · rintro ⟨hthreshold, -⟩
    exact absurd hthreshold (by decide)

end RansomShield
