import RansomShield.Client.CommandLine
import RansomShield.Machine.Replicas

/-!
# Processes that share the registry

Every process of the client, a command or the tray agent, loads the settings when it starts and
changes its own copy.  `SaveToRegistry` writes all settings of the copy, not only the one that was
changed, and nothing tells a process that another one has saved.  So the registry is a shared value
and the processes hold replicas of it: `settingsSystem` has them start and make a
`SettingsChange`, each with its save, and `SettingsChange.apply` is the same without a registry.

A save is one step here: these are the runs in which no two saves overlap, and in which the calls of
the registry succeed.
-/

namespace RansomShield

/-! ### The processes -/

/-- What a client does to the settings. -/
inductive SettingsChange
  | fileCountThreshold (threshold : UInt32)
  | timeWindowSeconds (seconds : UInt32)
  | monitoringEnabled (enabled : Bool)
  | addException (imageName : Argument)
  | removeException (imageName : Argument)

/-- A change as the commands and the tray agent make it: the setters save, and so do the callers of
`AddException` and `RemoveException` when these succeed. -/
def ConfigManager.change (lower : UInt16 → UInt16) (m : ConfigManager) (reg : Registry) :
    SettingsChange → ConfigManager × Registry
  | .fileCountThreshold threshold => m.setFileCountThreshold threshold SaveFaults.none reg
  | .timeWindowSeconds seconds => m.setTimeWindowSeconds seconds SaveFaults.none reg
  | .monitoringEnabled enabled => m.setMonitoringEnabled enabled SaveFaults.none reg
  | .addException imageName =>
    let (config, added) := m.addException lower imageName.1
    (config, if added then (config.saveToRegistry SaveFaults.none reg).1 else reg)
  | .removeException imageName =>
    let (config, removed) := m.removeException lower imageName.1
    (config, if removed then (config.saveToRegistry SaveFaults.none reg).1 else reg)

/-- A process of the client. -/
abbrev ClientId := ℕ

/-- The processes and the registry. -/
structure SettingsState where
  processes : ClientId → Option ConfigManager
  registry : Registry

/-- No process runs. -/
def SettingsState.init (reg : Registry) : SettingsState := ⟨fun _ => none, reg⟩

inductive SettingsAction
  /-- A process starts with `Initialize`. -/
  | start (p : ClientId)
  | change (p : ClientId) (c : SettingsChange)

/-- The process that acts. -/
def SettingsAction.process : SettingsAction → ClientId
  | .start p => p
  | .change p _ => p

/-- The change that an action makes. -/
def SettingsAction.made : SettingsAction → Option SettingsChange
  | .start _ => none
  | .change _ c => some c

/-- The processes and the registry. -/
def settingsSystem (lower : UInt16 → UInt16) : Machine SettingsState SettingsAction where
  step s
    | .start p =>
      (ConfigManager.new.runInitialize true true s.registry).map fun r =>
        { s with processes := Function.update s.processes p (some r.1) }
    | .change p c =>
      (s.processes p).map fun m =>
        { processes := Function.update s.processes p (some (m.change lower s.registry c).1)
          registry := (m.change lower s.registry c).2 }

/-! ### Settings -/

/-- The settings: threshold, window, monitoring and exceptions. -/
abbrev Settings := UInt32 × UInt32 × Bool × List WString

/-- What a process loads. -/
def storedSettings (reg : Registry) : Option Settings :=
  (ConfigManager.new.runInitialize true true reg).map fun r => r.1.settings

/-- The part of the settings that is read back: a name that is too long ends the list. -/
def Settings.readable (v : Settings) : Settings :=
  (v.1, v.2.1, v.2.2.1, v.2.2.2.takeWhile fun e => e.chars.length < rsMaxAllowlistNameLen)

section

variable (lower : UInt16 → UInt16)

/-- What a change does to the settings, `none` if it is refused. -/
def SettingsChange.apply (v : Settings) : SettingsChange → Option Settings
  | .fileCountThreshold threshold => some (threshold, v.2)
  | .timeWindowSeconds seconds => some (v.1, seconds, v.2.2)
  | .monitoringEnabled enabled => some (v.1, v.2.1, enabled, v.2.2.2)
  | .addException imageName =>
    if v.2.2.2.any (ConfigManager.sameName lower imageName.1) then none
    else if v.2.2.2.length < rsMaxAllowlistEntries then
      some (v.1, v.2.1, v.2.2.1, v.2.2.2 ++ [imageName.1])
    else none
  | .removeException imageName =>
    if v.2.2.2.any (ConfigManager.sameName lower imageName.1) then
      some (v.1, v.2.1, v.2.2.1, v.2.2.2.eraseP (ConfigManager.sameName lower imageName.1))
    else none

/-- The action without a registry. -/
def SettingsAction.replica : SettingsAction → ReplicaAction ClientId SettingsChange
  | .start p => .fetch p
  | .change p c => .commit p c

end

/-- No name is longer than a command line. -/
def Settings.Bounded (v : Settings) : Prop := ∀ e ∈ v.2.2.2, e.chars.length < 32768

/-- Every name is read back. -/
def Settings.Short (v : Settings) : Prop := ∀ e ∈ v.2.2.2, e.chars.length < rsMaxAllowlistNameLen

/-- A name that is added is read back. -/
def SettingsChange.Short : SettingsChange → Prop
  | .addException imageName => imageName.1.chars.length < rsMaxAllowlistNameLen
  | _ => True

end RansomShield
