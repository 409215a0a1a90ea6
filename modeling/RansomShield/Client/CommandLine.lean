import RansomShield.Client.Session

/-!
# The command line

The commands of `usermode/cli/Main.cpp` (`CliCommand`), and `wmain`, a whole run of the program on a
registry and a driver.  A process starts without a connection, and each command decides for itself
whether it connects, pushes the settings, or saves them only.  What the system answers is given by a
`CliEnvironment`; the daemon mode, which is not a command, is not modelled here.
-/

namespace RansomShield

/-! ### Arguments -/

/-- An argument: the command line of a process has at most 32767 characters. -/
abbrev Argument := { e : WString // e.chars.length < 32768 }

/-- `_wtoi`: white space, a sign and digits; a number that is too large is cut to the range. -/
def wtoi (string : List UInt16) : Int32 :=
  let trimmed := string.dropWhile fun c => c = 32 ∨ c = 9
  let (negative, digits) :=
    match trimmed with
    | [] => (false, [])
    | c :: rest => if c = 45 then (true, rest) else (false, if c = 43 then rest else c :: rest)
  let n : ℕ := (digits.takeWhile fun c => 48 ≤ c ∧ c ≤ 57).foldl
    (fun n c => 10 * n + (c.toNat - 48)) 0
  if negative then Int32.ofInt (max (-(n : ℤ)) (-2147483648))
  else Int32.ofInt (min (n : ℤ) 2147483647)

/-- `static_cast<ULONG>(_wtoi(argument))`. -/
def ulongArgument (argument : Argument) : UInt32 := (wtoi argument.1.chars).toUInt32

/-- The commands. -/
inductive CliCommand
  | help
  | status
  | setThreshold
  | addException
  | removeException
  | listExceptions
  | unblock
  | listBlocked
  | pause
  | resume
  | pushConfig
  deriving DecidableEq, Repr

/-- The command of a name in lower case. -/
def CliCommand.parse (name : List UInt16) : Option CliCommand :=
  if name = wide "--help" ∨ name = wide "-h" ∨ name = wide "/?" then some .help
  else if name = wide "--status" then some .status
  else if name = wide "--set-threshold" then some .setThreshold
  else if name = wide "--add-exception" then some .addException
  else if name = wide "--remove-exception" then some .removeException
  else if name = wide "--list-exceptions" then some .listExceptions
  else if name = wide "--unblock" then some .unblock
  else if name = wide "--list-blocked" then some .listBlocked
  else if name = wide "--pause" then some .pause
  else if name = wide "--resume" then some .resume
  else if name = wide "--push-config" then some .pushConfig
  else none

/-! ### A process -/

/-- What the system answers. -/
structure CliEnvironment where
  isElevated : Bool
  configOpens : Bool
  allowlistOpens : Bool
  /-- The calls of the registry that fail, for each save. -/
  saveFaults : ℕ → SaveFaults
  /-- The answer of `FilterConnectCommunicationPort`. -/
  port : Except FailureCode PortHandle
  deliveries : ℕ → Delivery
  /-- The sequence numbers that `MakeHeader` draws. -/
  numbers : ℕ → UInt32

/-- A process, the registry and the driver. -/
structure CliState where
  config : ConfigManager
  session : Session
  registry : Registry

namespace CliState

variable (env : CliEnvironment) (s : CliState)

/-- `g_module.Connect()`. -/
def connect : CliState × HResult :=
  let (session, hr) := s.session.connect env.port
  ({ s with session := session }, hr)

/-- `g_module.PushToDriver()`. -/
def push : CliState × Bool :=
  let (session, pushed) := (pushToDriver s.session.connected env.numbers s.config).run
    (Session.serve env.deliveries) s.session
  ({ s with session := session }, pushed)

/-- A request of `g_module.Comm()`. -/
def request (bytes : List UInt8) (replySize : ℕ) : CliState × SendReply :=
  let (session, reply) := s.session.send env.deliveries (bytes, replySize)
  ({ s with session := session }, reply)

/-- `if (g_module.Comm().IsConnected()) g_module.PushToDriver()`. -/
def pushIfConnected : CliState := if s.session.connected then (s.push env).1 else s

/-- The commands that need a connection: they connect, and return 1 when this fails. -/
def withConnection (go : CliState → CliState × ℕ) : CliState × ℕ :=
  if s.session.connected then go s
  else
    let (s, hr) := s.connect env
    if hr.failed then (s, 1) else go s

/-- `CmdStatus`. -/
def cmdStatus : CliState × ℕ :=
  s.withConnection env fun s =>
    let (s, hr, reply) := s.request env (queryConfigRequest (env.numbers 0)) sizeofReplyConfig
    if hr.failed then (s, 1)
    else
      match reply with
      | some (.config _ _ _ _ _ blockedPidCount) =>
        if 0 < blockedPidCount then
          ((s.request env (makeHeader (env.numbers 1) .queryBlockedPids sizeofMessageHeader)
            sizeofReplyBlockedPids).1, 0)
        else (s, 0)
      | _ => (s, 0)

/-- `CmdSetThreshold`, with the arguments behind the command. -/
def cmdSetThreshold (arguments : List Argument) : CliState × ℕ :=
  match arguments with
  | count :: secs :: _ =>
    let fileCount := ulongArgument count
    let seconds := ulongArgument secs
    if fileCount = 0 ∨ seconds = 0 then (s, 1)
    else
      let (config, registry) :=
        s.config.setFileCountThreshold fileCount (env.saveFaults 0) s.registry
      let (config, registry) := config.setTimeWindowSeconds seconds (env.saveFaults 1) registry
      (pushIfConnected env { s with config := config, registry := registry }, 0)
  | _ => (s, 1)

section

variable (lower : UInt16 → UInt16)

/-- `CmdAddException`. -/
def cmdAddException (imageName : Argument) : CliState × ℕ :=
  if imageName.1.chars = [] then (s, 1)
  else
    let (config, added) := s.config.addException lower imageName.1
    if added then
      let registry := (config.saveToRegistry (env.saveFaults 0) s.registry).1
      (pushIfConnected env { s with config := config, registry := registry }, 0)
    else (s, 1)

/-- `CmdRemoveException`. -/
def cmdRemoveException (imageName : Argument) : CliState × ℕ :=
  if imageName.1.chars = [] then (s, 1)
  else
    let (config, removed) := s.config.removeException lower imageName.1
    if removed then
      let registry := (config.saveToRegistry (env.saveFaults 0) s.registry).1
      (pushIfConnected env { s with config := config, registry := registry }, 0)
    else (s, 1)

end

/-- `CmdUnblock`. -/
def cmdUnblock (pid : UInt32) : CliState × ℕ :=
  if pid = 0 then (s, 1)
  else
    s.withConnection env fun s =>
      let (s, hr, _) := s.request env
        (makeHeader (env.numbers 0) .requestUnblockPid sizeofRequestUnblockPid ++ ulongBytes pid)
        sizeofReplyUnblockPid
      (s, if hr.failed then 1 else 0)

/-- `CmdListBlocked`. -/
def cmdListBlocked : CliState × ℕ :=
  s.withConnection env fun s =>
    let (s, hr, _) := s.request env
      (makeHeader (env.numbers 0) .queryBlockedPids sizeofMessageHeader) sizeofReplyBlockedPids
    (s, if hr.failed then 1 else 0)

/-- `CmdPause` and `CmdResume`: one request, and then the setting is saved. -/
def cmdMonitoring (bytes : List UInt8) (enabled : Bool) : CliState × ℕ :=
  s.withConnection env fun s =>
    let (s, hr, _) := s.request env bytes sizeofReplyGeneric
    if hr.failed then (s, 1)
    else
      let (config, registry) :=
        s.config.setMonitoringEnabled enabled (env.saveFaults 0) s.registry
      ({ s with config := config, registry := registry }, 0)

/-- `CmdPause`. -/
def cmdPause : CliState × ℕ := s.cmdMonitoring env (pauseMonitoringRequest (env.numbers 0)) false

/-- `CmdResume`. -/
def cmdResume : CliState × ℕ := s.cmdMonitoring env (resumeMonitoringRequest (env.numbers 0)) true

/-- `CmdPushConfig`. -/
def cmdPushConfig : CliState × ℕ :=
  s.withConnection env fun s =>
    let (s, pushed) := s.push env
    (s, if pushed then 0 else 1)

/-- The command with its arguments. -/
def runCommand (lower : UInt16 → UInt16) (command : Option CliCommand)
    (arguments : List Argument) : CliState × ℕ :=
  match command, arguments with
  | some .status, _ => s.cmdStatus env
  | some .setThreshold, arguments => s.cmdSetThreshold env arguments
  | some .addException, name :: _ => s.cmdAddException env lower name
  | some .removeException, name :: _ => s.cmdRemoveException env lower name
  | some .listExceptions, _ => (s, 0)
  | some .unblock, pid :: _ => s.cmdUnblock env (ulongArgument pid)
  | some .listBlocked, _ => s.cmdListBlocked env
  | some .pause, _ => s.cmdPause env
  | some .resume, _ => s.cmdResume env
  | some .pushConfig, _ => s.cmdPushConfig env
  -- an argument is missing, or the command is unknown
  | _, _ => (s, 1)

end CliState

/-- How a run of the program ends. -/
inductive CliResult
  | exit (s : CliState) (code : ℕ)
  /-- `RunDaemonMode`. -/
  | daemon
  /-- The registry holds a string without a terminator. -/
  | undefined

/-- `wmain`, for the lower case of the locale. -/
def wmain (lower : UInt16 → UInt16) (env : CliEnvironment) (argv : List Argument)
    (registry : Registry) (driver : Option DriverState) : CliResult :=
  let session : Session := ⟨false, driver, 0⟩
  if !env.isElevated then .exit ⟨ConfigManager.new, session, registry⟩ 1
  else
    match argv with
    | [] | [_] => .daemon
    | _ :: name :: arguments =>
      let command := CliCommand.parse (name.1.chars.map lower)
      if command = some .help then .exit ⟨ConfigManager.new, session, registry⟩ 0
      else
        -- the answer of `Initialize` is ignored
        match ConfigManager.new.runInitialize env.configOpens env.allowlistOpens registry with
        | none => .undefined
        | some (config, _) =>
          let (s, code) :=
            CliState.runCommand env ⟨config, session, registry⟩ lower command arguments
          .exit s code

end RansomShield
