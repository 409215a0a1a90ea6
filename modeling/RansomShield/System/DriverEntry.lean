import RansomShield.Heap.Moves
import RansomShield.System.ClientPorts

/-!
# Loading the driver

`DriverEntry` of `kernel/RansomShield.c` with `RsInitializeCommPort`, step by step (`driverEntry`,
`EntryStep`): each call of the filter manager may fail, and the labels at the end of `DriverEntry`
then undo the steps before it.  The port exists before `FltStartFiltering` is called, so clients
connect, send messages and disconnect while `DriverEntry` goes on, or tears the port down again.

What the globals of the tracker hold before `RsInitializeContextTracking` is left open.
-/

namespace RansomShield

/-- An `NTSTATUS` as a number, which the filter manager returns. -/
abbrev StatusCode := Int32

/-- `NT_SUCCESS`. -/
def ntSuccess (status : StatusCode) : Bool := decide (0 ≤ status)

/-- `STATUS_SUCCESS`. -/
def statusSuccess : StatusCode := 0

/-! ### The tracker -/

/-- `RsInitializeContextTracking`. -/
def rsInitializeContextTracking (s : DriverState) : DriverState :=
  { s with contextHashTable := fun _ => [], trackedPidCount := 0, messageSequence := 0 }

/-- `RsDestroyContextTracking`. -/
def rsDestroyContextTracking (s : DriverState) : DriverState :=
  { s with contextHashTable := fun _ => [], trackedPidCount := 0 }

/-! ### States -/

/-- What `DriverEntry` acquires from the filter manager. -/
inductive EntryResource
  /-- The filter, which `FltRegisterFilter` registers. -/
  | filter
  /-- The result of `FltBuildDefaultSecurityDescriptor`. -/
  | securityDescriptor
  | serverPort
  deriving DecidableEq

/-- Where the call of `DriverEntry` is. -/
inductive EntryPhase
  /-- Before `FltRegisterFilter`. -/
  | registering
  /-- Before `RsInitializeContextTracking`. -/
  | initializing
  /-- Before `FltBuildDefaultSecurityDescriptor`. -/
  | buildingDescriptor
  /-- Before `FltCreateCommunicationPort`. -/
  | creatingPort
  /-- Before `FltFreeSecurityDescriptor`. -/
  | freeingDescriptor (status : StatusCode)
  /-- Before `FltStartFiltering`. -/
  | startingFiltering
  /-- `Error_DestroyCommPort`. -/
  | destroyingPort (status : StatusCode)
  /-- `Error_DestroyContextTracking`. -/
  | destroyingContexts (status : StatusCode)
  /-- `Error_UnregisterFilter`. -/
  | unregistering (status : StatusCode)
  | returned (status : StatusCode)
  deriving DecidableEq

/-- The driver while it is loaded. -/
structure EntryState where
  /-- The globals, the calls and the ports. -/
  ports : PortState
  /-- `g_FilterHandle` is not `NULL`. -/
  filterHandle : Bool
  /-- `RsInitializeContextTracking` has returned. -/
  initialized : Bool
  /-- `FltStartFiltering` has succeeded. -/
  filtering : Bool
  phase : EntryPhase
  /-- What `DriverEntry` has acquired and released. -/
  moves : List (Heap.Move EntryResource)

/-- The image of the driver is mapped.  `globals` are the contents of the globals that have no
initialiser. -/
def EntryState.init (globals : DriverState) : EntryState where
  ports :=
    { PortState.init with
      serverPort := false
      system :=
        { SystemState.init with
          driver :=
            { DriverState.init with
              contextHashTable := globals.contextHashTable
              trackedPidCount := globals.trackedPidCount
              messageSequence := globals.messageSequence } } }
  filterHandle := false
  initialized := false
  filtering := false
  phase := .registering
  moves := []

namespace EntryState

variable (s : EntryState)

/-- The state with other globals. -/
def setDriver (driver : DriverState) : EntryState :=
  { s with ports := { s.ports with system := { s.ports.system with driver := driver } } }

/-- The next step of `DriverEntry`, for what the filter manager returns if it is called. -/
def next (status : StatusCode) : Option EntryState :=
  match s.phase with
  | .registering =>
    if ntSuccess status then
      some { s with
        filterHandle := true, moves := s.moves ++ [.acquire .filter], phase := .initializing }
    else some { s with phase := .returned status }
  | .initializing =>
    -- `RsInitializeContextTracking` cannot fail
    some { s.setDriver (rsInitializeContextTracking s.ports.system.driver) with
      initialized := true, phase := .buildingDescriptor }
  | .buildingDescriptor =>
    if ntSuccess status then
      some { s with
        moves := s.moves ++ [.acquire .securityDescriptor], phase := .creatingPort }
    else some { s with phase := .destroyingContexts status }
  | .creatingPort =>
    if ntSuccess status then
      some { s with
        ports := { s.ports with serverPort := true }
        moves := s.moves ++ [.acquire .serverPort], phase := .freeingDescriptor status }
    else some { s with phase := .freeingDescriptor status }
  | .freeingDescriptor created =>
    let moves := s.moves ++ [Heap.Move.release .securityDescriptor]
    if ntSuccess created then some { s with moves := moves, phase := .startingFiltering }
    else
      -- `g_ServerPort = NULL`
      some { s with
        ports := { s.ports with serverPort := false }
        moves := moves, phase := .destroyingContexts created }
  | .startingFiltering =>
    if ntSuccess status then
      some { s with filtering := true, phase := .returned statusSuccess }
    else some { s with phase := .destroyingPort status }
  | .destroyingPort failed =>
    match s.ports.rsDestroyCommPort with
    | some ports =>
      some { s with
        ports := ports
        moves :=
          if s.ports.serverPort && !ports.serverPort then s.moves ++ [Heap.Move.release .serverPort]
          else s.moves }
    | none => some { s with phase := .destroyingContexts failed }
  | .destroyingContexts failed =>
    some { s.setDriver (rsDestroyContextTracking s.ports.system.driver) with
      phase := .unregistering failed }
  | .unregistering failed =>
    some { s with
      filterHandle := false, moves := s.moves ++ [.release .filter], phase := .returned failed }
  | .returned _ => none

/-- The filter manager calls the driver only while the filter is registered; it passes on messages
only of clients, and calls the pre-operation callbacks only after `FltStartFiltering`. -/
def delivers (a : PortAction) : Bool :=
  (match Heap.held s.moves with
    | some rs => decide (.filter ∈ rs)
    | none => false) &&
  match a with
  | .destroy => false
  | .connect | .disconnect _ | .other (.advance _ _) => true
  | .other (.control _) => decide (0 < s.ports.issued)
  | .other _ => s.filtering

end EntryState

/-! ### What a step of `DriverEntry` can do -/

/-- What a step of `DriverEntry` does, one case for each branch of the source. -/
inductive EntryStep (s : EntryState) (status : StatusCode) : EntryState → Prop
  | registers (hphase : s.phase = .registering) (hok : ntSuccess status = true) :
    EntryStep s status { s with
      filterHandle := true, moves := s.moves ++ [.acquire .filter], phase := .initializing }
  | cannotRegister (hphase : s.phase = .registering) (hfailed : ¬ ntSuccess status = true) :
    EntryStep s status { s with phase := .returned status }
  | initializes (hphase : s.phase = .initializing) :
    EntryStep s status { s.setDriver (rsInitializeContextTracking s.ports.system.driver) with
      initialized := true, phase := .buildingDescriptor }
  | builds (hphase : s.phase = .buildingDescriptor) (hok : ntSuccess status = true) :
    EntryStep s status { s with
      moves := s.moves ++ [.acquire .securityDescriptor], phase := .creatingPort }
  | cannotBuild (hphase : s.phase = .buildingDescriptor) (hfailed : ¬ ntSuccess status = true) :
    EntryStep s status { s with phase := .destroyingContexts status }
  | creates (hphase : s.phase = .creatingPort) (hok : ntSuccess status = true) :
    EntryStep s status { s with
      ports := { s.ports with serverPort := true }
      moves := s.moves ++ [.acquire .serverPort], phase := .freeingDescriptor status }
  | cannotCreate (hphase : s.phase = .creatingPort) (hfailed : ¬ ntSuccess status = true) :
    EntryStep s status { s with phase := .freeingDescriptor status }
  | frees {created} (hphase : s.phase = .freeingDescriptor created)
    (hok : ntSuccess created = true) :
    EntryStep s status { s with
      moves := s.moves ++ [.release .securityDescriptor], phase := .startingFiltering }
  | freesAndFails {created} (hphase : s.phase = .freeingDescriptor created)
    (hfailed : ¬ ntSuccess created = true) :
    EntryStep s status { s with
      ports := { s.ports with serverPort := false }
      moves := s.moves ++ [.release .securityDescriptor], phase := .destroyingContexts created }
  | starts (hphase : s.phase = .startingFiltering) (hok : ntSuccess status = true) :
    EntryStep s status { s with filtering := true, phase := .returned statusSuccess }
  | cannotStart (hphase : s.phase = .startingFiltering) (hfailed : ¬ ntSuccess status = true) :
    EntryStep s status { s with phase := .destroyingPort status }
  | destroysPort {failed ports} (hphase : s.phase = .destroyingPort failed)
    (hports : s.ports.rsDestroyCommPort = some ports) :
    EntryStep s status { s with
      ports := ports
      moves :=
        if s.ports.serverPort && !ports.serverPort then s.moves ++ [.release .serverPort]
        else s.moves }
  | portDestroyed {failed} (hphase : s.phase = .destroyingPort failed)
    (hreturned : s.ports.teardown = .returned) :
    EntryStep s status { s with phase := .destroyingContexts failed }
  | destroysContexts {failed} (hphase : s.phase = .destroyingContexts failed) :
    EntryStep s status { s.setDriver (rsDestroyContextTracking s.ports.system.driver) with
      phase := .unregistering failed }
  | unregisters {failed} (hphase : s.phase = .unregistering failed) :
    EntryStep s status { s with
      filterHandle := false, moves := s.moves ++ [.release .filter], phase := .returned failed }

theorem teardown_of_none {ports : PortState} (h : ports.rsDestroyCommPort = none) :
    ports.teardown = .returned := by
  unfold PortState.rsDestroyCommPort at h
  split at h
  case h_6 hreturned => exact hreturned
  all_goals cases h

/-- **What a step of `DriverEntry` can do.** -/
theorem entryStep_of_next {s s' : EntryState} {status : StatusCode}
    (h : s.next status = some s') : EntryStep s status s' := by
  unfold EntryState.next at h
  split at h
  · next hphase =>
    split_ifs at h with hok <;> cases h
    · exact .registers hphase hok
    · exact .cannotRegister hphase hok
  · next hphase =>
    cases h
    exact .initializes hphase
  · next hphase =>
    split_ifs at h with hok <;> cases h
    · exact .builds hphase hok
    · exact .cannotBuild hphase hok
  · next hphase =>
    split_ifs at h with hok <;> cases h
    · exact .creates hphase hok
    · exact .cannotCreate hphase hok
  · next created hphase =>
    split_ifs at h with hok <;> cases h
    · exact .frees hphase hok
    · exact .freesAndFails hphase hok
  · next hphase =>
    split_ifs at h with hok <;> cases h
    · exact .starts hphase hok
    · exact .cannotStart hphase hok
  · next failed hphase =>
    split at h
    · next ports hports =>
      cases h
      exact .destroysPort hphase hports
    · next hnone =>
      cases h
      exact .portDestroyed hphase (teardown_of_none hnone)
  · next failed hphase =>
    cases h
    exact .destroysContexts hphase
  · next failed hphase =>
    cases h
    exact .unregisters hphase
  · cases h

/-! ### The machine -/

/-- The actions while the driver is loaded, and afterwards. -/
inductive EntryAction
  /-- The next step of `DriverEntry`; `status` is what the filter manager returns. -/
  | next (status : StatusCode)
  /-- A client, or a call of the driver. -/
  | port (a : PortAction)

/-- Loading the driver. -/
def driverEntry (upcase : UInt16 → UInt16) : Machine EntryState EntryAction where
  step s
    | .next status => s.next status
    | .port a =>
      if s.delivers a then
        ((portSystem upcase).step s.ports a).map fun ports => { s with ports := ports }
      else none

end RansomShield
