import RansomShield.Guarantees.SharedSettings

/-!
# Commands that run one after the other

A command line starts a process that loads the settings, changes them and saves them.  Command lines
that run one after the other (`runCommands`) are processes that each start after the last save of
the others, so no change is lost: the registry holds the first settings with the changes of all
commands that have returned 0 (`command_lines_accumulate`).  Whether the requests of a command reach
the driver makes no difference.
-/

namespace RansomShield

/-! ### Command lines -/

/-- A command line, what the system answers to it, and the driver that it finds. -/
structure CommandRun where
  env : CliEnvironment
  argv : List Argument
  driver : Option DriverState

/-- Command lines on one registry, and what they return.  `none` if one does not return, or reads a
string without a terminator. -/
def runCommands (lower : UInt16 → UInt16) (reg : Registry) :
    List CommandRun → Option (Registry × List ℕ)
  | [] => some (reg, [])
  | r :: rs =>
    match wmain lower r.env r.argv reg r.driver with
    | .exit s code =>
      (runCommands lower s.registry rs).map fun (reg', codes) => (reg', code :: codes)
    | _ => none

/-- How a change is saved. -/
def Change.saves : Change → List SettingsChange
  | .threshold fileCount seconds => [.fileCountThreshold fileCount, .timeWindowSeconds seconds]
  | .exception imageName => [.addException imageName]
  | .noException imageName => [.removeException imageName]
  | .monitoring enabled => [.monitoringEnabled enabled]

/-- The changes that a command line makes, if it returns 0. -/
def commandChanges (lower : UInt16 → UInt16) (argv : List Argument) (code : ℕ) :
    List SettingsChange :=
  if code = 0 then ((Change.named lower argv).map Change.saves).getD [] else []

/-- The calls of the registry succeed. -/
structure CliEnvironment.RegistryWorks (env : CliEnvironment) : Prop where
  configOpens : env.configOpens = true
  allowlistOpens : env.allowlistOpens = true
  saveFaults : ∀ n, env.saveFaults n = SaveFaults.none

/-- Changes, one after the other. -/
def ConfigManager.changes (lower : UInt16 → UInt16) (m : ConfigManager) (reg : Registry)
    (cs : List SettingsChange) : ConfigManager × Registry :=
  cs.foldl (fun s c => s.1.change lower s.2 c) (m, reg)

/-! ### One command -/

section

variable {lower : UInt16 → UInt16} {env : CliEnvironment} {s st : CliState} {code : ℕ}

theorem CliState.pushIfConnected_registry (env : CliEnvironment) (s : CliState) :
    (s.pushIfConnected env).registry = s.registry := by
  unfold CliState.pushIfConnected CliState.push
  split_ifs <;> rfl

/-- **A command that needs a connection** starts on the settings that were loaded, or fails and
leaves the registry alone. -/
theorem withConnection_cases {go : CliState → CliState × ℕ}
    (h : s.withConnection env go = (st, code)) :
    ∃ s', s'.config = s.config ∧ s'.registry = s.registry ∧
      ((s', 1) = (st, code) ∨ go s' = (st, code)) := by
  unfold CliState.withConnection at h
  split_ifs at h with hconnected
  · exact ⟨s, rfl, rfl, .inr h⟩
  · refine ⟨(s.connect env).1, rfl, rfl, ?_⟩
    dsimp only at h
    split_ifs at h
    · exact .inl h
    · exact .inr h

theorem withConnection_registry {go : CliState → CliState × ℕ}
    (hgo : ∀ s, (go s).1.registry = s.registry) (h : s.withConnection env go = (st, code)) :
    st.registry = s.registry := by
  obtain ⟨s', -, hregistry, hend | hend⟩ := withConnection_cases h
  · cases hend
    exact hregistry
  · rw [← hregistry, ← hgo s', hend]

theorem cmdStatus_registry (h : s.cmdStatus env = (st, code)) : st.registry = s.registry := by
  refine withConnection_registry (fun s => ?_) h
  dsimp only [CliState.request]
  split_ifs
  · rfl
  · split
    · split_ifs <;> rfl
    · rfl

theorem cmdUnblock_registry {pid : UInt32} (h : s.cmdUnblock env pid = (st, code)) :
    st.registry = s.registry := by
  unfold CliState.cmdUnblock at h
  split_ifs at h
  · cases h
    rfl
  · exact withConnection_registry (fun _ => rfl) h

theorem cmdSetThreshold_registry (henv : env.RegistryWorks) (count secs : Argument)
    (arguments : List Argument)
    (h : s.cmdSetThreshold env (count :: secs :: arguments) = (st, code)) :
    st.registry = (s.config.changes lower s.registry (if code = 0 then
      (Change.threshold (ulongArgument count) (ulongArgument secs)).saves else [])).2 := by
  simp only [CliState.cmdSetThreshold] at h
  split_ifs at h
  · cases h
    rfl
  · cases h
    rw [CliState.pushIfConnected_registry, henv.saveFaults, henv.saveFaults]
    rfl

theorem cmdAddException_registry (henv : env.RegistryWorks) {imageName : Argument}
    (h : s.cmdAddException env lower imageName = (st, code)) :
    st.registry = (s.config.changes lower s.registry
      (if code = 0 then (Change.exception imageName).saves else [])).2 := by
  unfold CliState.cmdAddException at h
  split_ifs at h
  · cases h
    rfl
  · dsimp only at h
    split_ifs at h with hadded
    · cases h
      rw [CliState.pushIfConnected_registry, henv.saveFaults]
      exact (if_pos hadded).symm
    · cases h
      rfl

theorem cmdRemoveException_registry (henv : env.RegistryWorks) {imageName : Argument}
    (h : s.cmdRemoveException env lower imageName = (st, code)) :
    st.registry = (s.config.changes lower s.registry
      (if code = 0 then (Change.noException imageName).saves else [])).2 := by
  unfold CliState.cmdRemoveException at h
  split_ifs at h
  · cases h
    rfl
  · dsimp only at h
    split_ifs at h with hremoved
    · cases h
      rw [CliState.pushIfConnected_registry, henv.saveFaults]
      exact (if_pos hremoved).symm
    · cases h
      rfl

theorem cmdMonitoring_registry (henv : env.RegistryWorks) {bytes : List UInt8} {enabled : Bool}
    (h : s.cmdMonitoring env bytes enabled = (st, code)) :
    st.registry = (s.config.changes lower s.registry
      (if code = 0 then (Change.monitoring enabled).saves else [])).2 := by
  unfold CliState.cmdMonitoring at h
  obtain ⟨s', hconfig, hregistry, hend | hend⟩ := withConnection_cases h
  · cases hend
    exact hregistry
  · dsimp only [CliState.request] at hend
    split_ifs at hend
    · cases hend
      exact hregistry
    · cases hend
      rw [henv.saveFaults, hconfig, hregistry]
      rfl

/-- **A command** leaves the registry that its changes leave. -/
theorem runCommand_registry (henv : env.RegistryWorks) (program name : Argument)
    {arguments : List Argument}
    (h : s.runCommand env lower (CliCommand.parse (name.1.chars.map lower)) arguments =
      (st, code)) :
    st.registry = (s.config.changes lower s.registry
      (commandChanges lower (program :: name :: arguments) code)).2 := by
  simp only [commandChanges, Change.named]
  generalize CliCommand.parse (name.1.chars.map lower) = command at h
  have hunchanged : st.registry = s.registry → st.registry =
      (s.config.changes lower s.registry (if code = 0 then [] else [])).2 := by
    rw [ite_self]
    exact id
  cases command with
  | none => cases arguments <;> (cases h; rfl)
  | some command =>
    cases command with
    | status =>
      have hstatus : s.cmdStatus env = (st, code) := by cases arguments <;> exact h
      exact hunchanged (cmdStatus_registry hstatus)
    | listBlocked =>
      have hlist : s.cmdListBlocked env = (st, code) := by cases arguments <;> exact h
      exact hunchanged (withConnection_registry (fun _ => rfl) hlist)
    | pushConfig =>
      have hpush : s.cmdPushConfig env = (st, code) := by cases arguments <;> exact h
      exact hunchanged (withConnection_registry (fun _ => rfl) hpush)
    | pause =>
      have hpause : s.cmdPause env = (st, code) := by cases arguments <;> exact h
      exact cmdMonitoring_registry henv hpause
    | resume =>
      have hresume : s.cmdResume env = (st, code) := by cases arguments <;> exact h
      exact cmdMonitoring_registry henv hresume
    | help | listExceptions => cases arguments <;> (cases h; rfl)
    | setThreshold =>
      rcases arguments with _ | ⟨count, _ | ⟨secs, rest⟩⟩
      · cases h
        rfl
      · cases h
        rfl
      · exact cmdSetThreshold_registry henv count secs rest h
    | addException =>
      cases arguments with
      | nil =>
        cases h
        rfl
      | cons imageName rest => exact cmdAddException_registry henv h
    | removeException =>
      cases arguments with
      | nil =>
        cases h
        rfl
      | cons imageName rest => exact cmdRemoveException_registry henv h
    | unblock =>
      cases arguments with
      | nil =>
        cases h
        rfl
      | cons pid rest => exact hunchanged (cmdUnblock_registry h)

/-- **A command line** leaves the registry that its changes leave, if it starts at all. -/
theorem wmain_registry (henv : env.RegistryWorks) {argv : List Argument} {reg : Registry}
    {driver : Option DriverState} {m : ConfigManager} {success : Bool}
    (hload : ConfigManager.new.runInitialize true true reg = some (m, success))
    (h : wmain lower env argv reg driver = .exit st code) :
    st.registry = (m.changes lower reg (commandChanges lower argv code)).2 := by
  unfold wmain at h
  split_ifs at h
  · cases h
    rfl
  split at h
  · cases h
  · cases h
  · next program name arguments =>
    dsimp only at h
    split_ifs at h with hhelp
    · cases h
      simp only [commandChanges, Change.named, hhelp]
      cases arguments <;> rfl
    · rw [henv.configOpens, henv.allowlistOpens, hload] at h
      cases h
      exact runCommand_registry henv program name rfl

end

/-! ### Many commands -/

section

variable {lower : UInt16 → UInt16} {s : SettingsState}

variable (lower) in
theorem run_changes {p : ClientId} {m : ConfigManager} (hp : s.processes p = some m)
    (cs : List SettingsChange) :
    ∃ s', (settingsSystem lower).run s (cs.map (.change p)) = some s' ∧
      s'.registry = (m.changes lower s.registry cs).2 := by
  induction cs generalizing s m with
  | nil => exact ⟨s, rfl, rfl⟩
  | cons c cs ih =>
    have hstep : (settingsSystem lower).step s (.change p c) =
        some ⟨Function.update s.processes p (some (m.change lower s.registry c).1),
          (m.change lower s.registry c).2⟩ := Option.map_eq_some_iff.2 ⟨m, hp, rfl⟩
    obtain ⟨s', hs', hregistry⟩ := ih (s := ⟨Function.update s.processes p
      (some (m.change lower s.registry c).1), (m.change lower s.registry c).2⟩)
      (Function.update_self ..)
    refine ⟨s', ?_, hregistry⟩
    rw [List.map_cons, Machine.run_cons, hstep]
    exact hs'

/-- The changes of command lines, with what they have returned. -/
def changesOf (lower : UInt16 → UInt16) (rs : List CommandRun) (codes : List ℕ) :
    List (List SettingsChange) :=
  (rs.zip codes).map fun rc => commandChanges lower rc.1.argv rc.2

/-- The processes of command lines that run one after the other, numbered from `p`. -/
def commandProcesses (p : ClientId) : List (List SettingsChange) → List SettingsAction
  | [] => []
  | cs :: css => .start p :: cs.map (.change p) ++ commandProcesses (p + 1) css

theorem undisturbed_commandProcesses (p : ClientId) (css : List (List SettingsChange)) :
    Undisturbed ((commandProcesses p css).map SettingsAction.replica) := by
  induction css generalizing p with
  | nil =>
    intro bs k u hprefix
    simp [commandProcesses] at hprefix
  | cons cs css ih =>
    rw [commandProcesses, List.map_append, List.map_cons, List.map_map]
    exact (undisturbed_updates p cs).append (ih (p + 1))

theorem filterMap_made_commandProcesses (p : ClientId) (css : List (List SettingsChange)) :
    (commandProcesses p css).filterMap SettingsAction.made = css.flatten := by
  induction css generalizing p with
  | nil => rfl
  | cons cs css ih =>
    have hcs : (cs.map (SettingsAction.change p)).filterMap SettingsAction.made = cs := by
      rw [List.filterMap_map]
      exact List.filterMap_some
    rw [commandProcesses, List.filterMap_append, ih, List.filterMap_cons_none rfl, hcs,
      List.flatten_cons]

/-- **Command lines are processes** that start one after the other. -/
theorem run_commandProcesses {r : Replicas ClientId Settings} (hr : Mirrors s r)
    {rs : List CommandRun} (henv : ∀ r ∈ rs, r.env.RegistryWorks) {reg : Registry}
    {codes : List ℕ} (h : runCommands lower s.registry rs = some (reg, codes)) (p : ClientId) :
    ∃ s', (settingsSystem lower).run s
        (commandProcesses p (changesOf lower rs codes)) = some s' ∧
      s'.registry = reg := by
  induction rs generalizing s r codes p with
  | nil =>
    cases h
    exact ⟨s, rfl, rfl⟩
  | cons c rs ih =>
    rw [List.forall_mem_cons] at henv
    unfold runCommands at h
    split at h
    · next st code hexit =>
      obtain ⟨⟨reg', codes'⟩, hrest, hcodes⟩ := Option.map_eq_some_iff.1 h
      obtain ⟨rfl, rfl⟩ := Prod.mk.inj hcodes
      obtain ⟨⟨m, success⟩, hload, -⟩ := Option.map_eq_some_iff.1 hr.stored
      have hstart : (settingsSystem lower).step s (.start p) =
          some { s with processes := Function.update s.processes p (some m) } := by
        simp only [settingsSystem, hload, Option.map_some]
      obtain ⟨s₁, hs₁, hregistry⟩ := run_changes lower
        (s := { s with processes := Function.update s.processes p (some m) })
        (Function.update_self ..) (commandChanges lower c.argv code)
      have hblock : (settingsSystem lower).run s
          (.start p :: (commandChanges lower c.argv code).map (.change p)) = some s₁ := by
        rw [Machine.run_cons, hstart]
        exact hs₁
      have hsame : s₁.registry = st.registry :=
        hregistry.trans (wmain_registry henv.1 hload hexit).symm
      obtain ⟨r₁, -, hr₁⟩ := mirrors_of_run hr hblock
      obtain ⟨s', hs', hend⟩ := ih hr₁ henv.2 (hsame ▸ hrest) (p + 1)
      refine ⟨s', ?_, hend⟩
      rw [changesOf, List.zip_cons_cons, List.map_cons, commandProcesses, Machine.run_append,
        hblock]
      exact hs'
    · cases h

end

/-- **Commands that run one after the other lose nothing.**  Take any registry that can be loaded,
and any command lines, whatever the driver answers to them, while the calls of the registry succeed
and no name that is added is too long to be read back.  What is stored in the end is what was
stored, with the changes of the commands that have returned 0, in their order. -/
theorem command_lines_accumulate (lower : UInt16 → UInt16) (reg : Registry) (v : Settings)
    (hload : storedSettings reg = some v) (rs : List CommandRun)
    (henv : ∀ r ∈ rs, r.env.RegistryWorks)
    (hshort : ∀ r ∈ rs, ∀ c ∈ commandChanges lower r.argv 0, c.Short) (reg' : Registry)
    (codes : List ℕ) (h : runCommands lower reg rs = some (reg', codes)) :
    storedSettings reg' =
      some ((changesOf lower rs codes).flatten.foldl (updated (SettingsChange.apply lower)) v) := by
  obtain ⟨s, hrun, rfl⟩ := run_commandProcesses (mirrors_init hload) henv h 0
  have hmade := filterMap_made_commandProcesses 0 (changesOf lower rs codes)
  have hall : ∀ p c, .change p c ∈ commandProcesses 0 (changesOf lower rs codes) → c.Short := by
    intro p c hmem
    have hc : c ∈ (changesOf lower rs codes).flatten :=
      hmade ▸ List.mem_filterMap.2 ⟨_, hmem, rfl⟩
    obtain ⟨cs, hcs, hc⟩ := List.mem_flatten.1 hc
    obtain ⟨rc, hrc, rfl⟩ := List.mem_map.1 hcs
    unfold commandChanges at hc
    split_ifs at hc
    · exact hshort rc.1 (List.of_mem_zip hrc).1 c hc
    · cases hc
  rw [stored_of_undisturbed hload hall (undisturbed_commandProcesses 0 _) hrun, hmade]

def addExceptionArgument : Argument := ⟨⟨wide "--add-exception", by decide⟩, by decide⟩

def appArgument : Argument := ⟨shortException, by decide⟩

/-- A command line whose calls succeed. -/
def quietRun (arguments : List Argument) : CommandRun :=
  ⟨quietEnvironment, programName :: arguments, some DriverState.init⟩

theorem registryWorks_quietEnvironment : quietEnvironment.RegistryWorks := ⟨rfl, rfl, fun _ => rfl⟩

/-- Both limits, a name, the same name again, and a pause. -/
def fourRuns : List CommandRun :=
  [quietRun [setThresholdArgument, fiveArgument, fiveArgument],
    quietRun [addExceptionArgument, appArgument], quietRun [addExceptionArgument, appArgument],
    quietRun [pauseArgument]]

/-- Four command lines, of which the third one is refused. -/
theorem command_lines_accumulate_fourRuns :
    ∃ reg, runCommands id emptyRegistry fourRuns = some (reg, [0, 0, 1, 0]) ∧
      storedSettings reg = some (5, 5, false, [shortException]) := by
  have hcodes : (runCommands id emptyRegistry fourRuns).map Prod.snd = some [0, 0, 1, 0] := by
    decide +kernel
  obtain ⟨⟨reg, codes⟩, hruns, rfl⟩ := Option.map_eq_some_iff.1 hcodes
  have hlimits : commandChanges id [programName, setThresholdArgument, fiveArgument, fiveArgument]
      0 = [.fileCountThreshold 5, .timeWindowSeconds 5] := rfl
  have hname : commandChanges id [programName, addExceptionArgument, appArgument] 0 =
      [.addException appArgument] := rfl
  have hpause : commandChanges id [programName, pauseArgument] 0 = [.monitoringEnabled false] := rfl
  have hshort : appArgument.1.chars.length < rsMaxAllowlistNameLen := by decide
  refine ⟨reg, hruns, ?_⟩
  rw [command_lines_accumulate id emptyRegistry _ storedSettings_emptyRegistry fourRuns
    (by simp [fourRuns, quietRun, registryWorks_quietEnvironment])
    (by simp [fourRuns, quietRun, hlimits, hname, hpause, SettingsChange.Short, hshort])
    reg _ hruns]
  decide +kernel

end RansomShield
