import RansomShield.System.DriverEntry

/-!
# A driver that is loaded, or not at all

`DriverEntry` undoes what it has done when one of its calls fails.  Whatever the clients do in the
meantime, it returns with everything in place or with nothing left
(`driver_entry_all_or_nothing`): what it has acquired from the filter manager is released once, no
context was allocated, and the failure is passed on.  When it succeeds, the driver is in a state
that the port reaches from its first one, which is where the other results about the ports begin;
and nobody calls the driver before the table is initialised.

The invariant is `EntryState.Sound`, with what each step finds acquired (`EntryState.resources`).
-/

namespace RansomShield

namespace EntryState

variable (upcase : UInt16 → UInt16) (globals : DriverState) (s : EntryState)

/-! ### The invariant -/

/-- What is acquired, the last first. -/
def resources : List EntryResource :=
  match s.phase with
  | .registering => []
  | .initializing | .buildingDescriptor => [.filter]
  | .creatingPort => [.securityDescriptor, .filter]
  | .freeingDescriptor created =>
    if ntSuccess created then [.serverPort, .securityDescriptor, .filter]
    else [.securityDescriptor, .filter]
  | .startingFiltering => [.serverPort, .filter]
  | .destroyingPort _ => if s.ports.serverPort then [.serverPort, .filter] else [.filter]
  | .destroyingContexts _ | .unregistering _ => [.filter]
  | .returned status => if ntSuccess status then [.serverPort, .filter] else []

/-- The ports before `FltCreateCommunicationPort`. -/
def noPort : PortState := { PortState.init with serverPort := false }

/-- The ports are as clients and calls of the driver have left them since the port was created. -/
def Reached : Prop :=
  ∃ as, .destroy ∉ as ∧ (portSystem upcase).run PortState.init as = some s.ports

/-- No call was made, and no context was allocated. -/
structure Quiet : Prop where
  calls : ∀ c, s.ports.system.calls c = none
  contexts : s.initialized = true → s.ports.system.driver.contextHashTable = fun _ => []

/-- What each phase knows. -/
def Knows : EntryPhase → Prop
  | .registering | .initializing =>
    s.initialized = false ∧ s.filtering = false ∧ s.ports = (EntryState.init globals).ports
  | .buildingDescriptor | .creatingPort =>
    s.initialized = true ∧ s.filtering = false ∧ s.ports = noPort
  | .freeingDescriptor created =>
    s.initialized = true ∧ s.filtering = false ∧
      if ntSuccess created then s.Reached upcase else s.ports = noPort
  | .startingFiltering => s.initialized = true ∧ s.filtering = false ∧ s.Reached upcase
  | .destroyingPort failed =>
    s.initialized = true ∧ s.filtering = false ∧ ntSuccess failed = false ∧
      (s.ports.teardown = .returned → s.ports.serverPort = false)
  | .destroyingContexts failed | .unregistering failed =>
    s.initialized = true ∧ s.filtering = false ∧ ntSuccess failed = false
  | .returned status =>
    if ntSuccess status then
      s.initialized = true ∧ s.filtering = true ∧ status = statusSuccess ∧ s.Reached upcase
    else s.filtering = false

/-- **The invariant.** -/
structure Sound : Prop where
  held : Heap.held s.moves = some s.resources
  filterHandle : s.filterHandle = decide (.filter ∈ s.resources)
  serverPort : s.ports.serverPort = decide (.serverPort ∈ s.resources)
  quiet : s.filtering = false → s.Quiet
  knows : s.Knows upcase globals s.phase

variable {upcase globals s}

theorem sound_init : (EntryState.init globals).Sound upcase globals where
  held := rfl
  filterHandle := rfl
  serverPort := rfl
  quiet _ := ⟨fun _ => rfl, fun h => by cases h⟩
  knows := ⟨rfl, rfl, rfl⟩

theorem Sound.knows_of_eq (h : s.Sound upcase globals) {phase : EntryPhase}
    (hphase : s.phase = phase) : s.Knows upcase globals phase :=
  hphase ▸ h.knows

/-! ### A step of `DriverEntry` -/

/-- `RsDestroyCommPort` does not touch the calls or the contexts. -/
theorem rsDestroyCommPort_spec {ports ports' : PortState}
    (h : ports.rsDestroyCommPort = some ports') :
    ports'.system.calls = ports.system.calls ∧
      ports'.system.driver.contextHashTable = ports.system.driver.contextHashTable ∧
      (ports'.serverPort = ports.serverPort ∧ ports'.teardown ≠ .returned ∨
        ports'.serverPort = false ∧ ports'.teardown = .returned) := by
  unfold PortState.rsDestroyCommPort at h
  split at h
  · cases h
    refine ⟨rfl, rfl, .inl ⟨rfl, ?_⟩⟩
    dsimp only
    split_ifs <;> simp
  · cases h
    exact ⟨rfl, rfl, .inl ⟨rfl, by simp⟩⟩
  · cases h
    exact ⟨rfl, rfl, .inl ⟨rfl, by simp⟩⟩
  · cases h
    exact ⟨rfl, rfl, .inl ⟨rfl, by simp⟩⟩
  · cases h
    exact ⟨rfl, rfl, .inr ⟨rfl, rfl⟩⟩
  · cases h

/-- Only `RsDestroyCommPort` goes on with the teardown. -/
theorem teardown_of_port {ports ports' : PortState} {a : PortAction} (ha : a ≠ .destroy)
    (h : (portSystem upcase).step ports a = some ports') :
    ports'.teardown = ports.teardown ∧ ports'.serverPort = ports.serverPort := by
  cases portStep_of_step h with
  | connects | disconnects | other => exact ⟨rfl, rfl⟩
  | findsClient | findsNone | readsPort | clearsPort | closesPort | closesServer =>
    exact absurd rfl ha

theorem Reached.teardown (h : s.Reached upcase) : s.ports.teardown = .idle := by
  obtain ⟨as, has, hrun⟩ := h
  refine Machine.run_invariant (I := fun ports : PortState => ports.teardown = .idle) hrun rfl ?_
  intro ports a ports' hidle ha hstep
  rw [(teardown_of_port (fun heq => has (heq ▸ ha)) hstep).1, hidle]

theorem Quiet.congr {t : EntryState} (h : s.Quiet) (hports : t.ports = s.ports)
    (hinitialized : t.initialized = true → s.initialized = true) : t.Quiet where
  calls := hports ▸ h.calls
  contexts ht := hports ▸ h.contexts (hinitialized ht)

/-- A step of `RsDestroyCommPort`: the server port is released when it is closed. -/
theorem Sound.rsDestroyCommPort {failed : StatusCode} {ports : PortState}
    (h : s.Sound upcase globals) (hphase : s.phase = .destroyingPort failed)
    (hports : s.ports.rsDestroyCommPort = some ports) :
    Sound upcase globals { s with
      ports := ports
      moves :=
        if s.ports.serverPort && !ports.serverPort then s.moves ++ [Heap.Move.release .serverPort]
        else s.moves } := by
  obtain ⟨hinit, hfiltering, hfailed, -⟩ := h.knows_of_eq hphase
  obtain ⟨hcalls, hcontexts, hend⟩ := rsDestroyCommPort_spec hports
  have hheld := h.held
  have hfilter := h.filterHandle
  have hquiet := h.quiet hfiltering
  simp only [resources, hphase] at hheld hfilter
  refine ⟨?_, ?_, ?_, fun _ => ⟨fun c => ?_, fun hi => hcontexts.trans (hquiet.contexts hi)⟩, ?_⟩
  · simp only [resources, hphase]
    rcases hend with ⟨hsame, -⟩ | ⟨hclosed, -⟩
    · rw [hsame, Bool.and_not_self, if_neg Bool.false_ne_true]
      exact hheld
    · rw [hclosed, Bool.not_false, Bool.and_true, if_neg Bool.false_ne_true]
      split_ifs at hheld ⊢
      · exact Heap.held_release hheld (by simp)
      · exact hheld
  · simp only [resources, hphase]
    split_ifs at hfilter ⊢ <;> exact hfilter
  · simp only [resources, hphase]
    cases ports.serverPort <;> rfl
  · rw [hcalls]
    exact hquiet.calls c
  · show Knows upcase globals _ s.phase
    rw [hphase]
    refine ⟨hinit, hfiltering, hfailed, fun ht => ?_⟩
    rcases hend with ⟨-, hne⟩ | ⟨hclosed, -⟩
    · exact absurd ht hne
    · exact hclosed

/-- **A step of `DriverEntry`.** -/
theorem Sound.next {status : StatusCode} {s' : EntryState} (h : s.Sound upcase globals)
    (hstep : s.next status = some s') : s'.Sound upcase globals := by
  have hheld := h.held
  have hfilter := h.filterHandle
  have hserver := h.serverPort
  have hquiet := h.quiet
  cases entryStep_of_next hstep with
  | registers hphase hok =>
    obtain ⟨hinit, hfiltering, hports⟩ := h.knows_of_eq hphase
    simp only [resources, hphase] at hheld hserver
    exact ⟨Heap.held_acquire hheld (by simp), rfl, hserver,
      fun _ => (hquiet hfiltering).congr rfl id, hinit, hfiltering, hports⟩
  | cannotRegister hphase hfailed =>
    obtain ⟨-, hfiltering, -⟩ := h.knows_of_eq hphase
    simp only [resources, hphase] at hheld hfilter hserver
    have hresources : resources { s with phase := .returned status } = [] := if_neg hfailed
    exact ⟨hresources ▸ hheld, hresources ▸ hfilter, hresources ▸ hserver,
      fun _ => (hquiet hfiltering).congr rfl id, (if_neg hfailed).mpr hfiltering⟩
  | initializes hphase =>
    obtain ⟨-, hfiltering, hports⟩ := h.knows_of_eq hphase
    simp only [resources, hphase] at hheld hfilter hserver
    refine ⟨hheld, hfilter, hserver, fun _ => ⟨(hquiet hfiltering).calls, fun _ => rfl⟩, rfl,
      hfiltering, ?_⟩
    -- the globals without initialiser are set
    show ({ s.ports with system := _ } : PortState) = noPort
    rw [hports]
    rfl
  | builds hphase hok =>
    obtain ⟨hinit, hfiltering, hports⟩ := h.knows_of_eq hphase
    simp only [resources, hphase] at hheld hfilter hserver
    exact ⟨Heap.held_acquire hheld (by simp), hfilter, hserver,
      fun _ => (hquiet hfiltering).congr rfl id, hinit, hfiltering, hports⟩
  | cannotBuild hphase hfailed =>
    obtain ⟨hinit, hfiltering, -⟩ := h.knows_of_eq hphase
    simp only [resources, hphase] at hheld hfilter hserver
    exact ⟨hheld, hfilter, hserver, fun _ => (hquiet hfiltering).congr rfl id, hinit, hfiltering,
      Bool.eq_false_iff.2 hfailed⟩
  | creates hphase hok =>
    obtain ⟨hinit, hfiltering, hports⟩ := h.knows_of_eq hphase
    simp only [resources, hphase] at hheld hfilter
    have hresources : resources { s with
        ports := { s.ports with serverPort := true }
        moves := s.moves ++ [.acquire .serverPort], phase := .freeingDescriptor status } =
          [.serverPort, .securityDescriptor, .filter] := if_pos hok
    refine ⟨hresources ▸ Heap.held_acquire hheld (by simp), hresources ▸ hfilter,
      hresources ▸ rfl, fun _ => ⟨(hquiet hfiltering).calls, (hquiet hfiltering).contexts⟩, hinit,
      hfiltering, (if_pos hok).mpr ⟨[], List.not_mem_nil, ?_⟩⟩
    show some PortState.init = some ({ s.ports with serverPort := true } : PortState)
    rw [hports]
    rfl
  | cannotCreate hphase hfailed =>
    obtain ⟨hinit, hfiltering, hports⟩ := h.knows_of_eq hphase
    simp only [resources, hphase] at hheld hfilter hserver
    have hresources : resources { s with phase := .freeingDescriptor status } =
        [.securityDescriptor, .filter] := if_neg hfailed
    exact ⟨hresources ▸ hheld, hresources ▸ hfilter, hresources ▸ hserver,
      fun _ => (hquiet hfiltering).congr rfl id, hinit, hfiltering, (if_neg hfailed).mpr hports⟩
  | frees hphase hok =>
    obtain ⟨hinit, hfiltering, hports⟩ := h.knows_of_eq hphase
    simp only [resources, hphase, if_pos hok] at hheld hfilter hserver
    rw [if_pos hok] at hports
    exact ⟨Heap.held_release hheld (by simp), hfilter, hserver,
      fun _ => (hquiet hfiltering).congr rfl id, hinit, hfiltering, hports⟩
  | freesAndFails hphase hfailed =>
    obtain ⟨hinit, hfiltering, -⟩ := h.knows_of_eq hphase
    simp only [resources, hphase, if_neg hfailed] at hheld hfilter
    exact ⟨Heap.held_release hheld (by simp), hfilter, rfl,
      fun _ => ⟨(hquiet hfiltering).calls, (hquiet hfiltering).contexts⟩, hinit, hfiltering,
      Bool.eq_false_iff.2 hfailed⟩
  | starts hphase hok =>
    obtain ⟨hinit, -, hreached⟩ := h.knows_of_eq hphase
    simp only [resources, hphase] at hheld hfilter hserver
    exact ⟨hheld, hfilter, hserver, fun hf => absurd hf (by simp), hinit, rfl, rfl, hreached⟩
  | cannotStart hphase hfailed =>
    obtain ⟨hinit, hfiltering, hreached⟩ := h.knows_of_eq hphase
    simp only [resources, hphase] at hheld hfilter hserver
    have hresources : resources { s with phase := .destroyingPort status } =
        [.serverPort, .filter] := if_pos (hserver.trans rfl)
    refine ⟨hresources ▸ hheld, hresources ▸ hfilter, hresources ▸ hserver,
      fun _ => (hquiet hfiltering).congr rfl id, hinit, hfiltering, Bool.eq_false_iff.2 hfailed, ?_⟩
    exact fun hreturned => by cases hreached.teardown.symm.trans hreturned
  | destroysPort hphase hports => exact h.rsDestroyCommPort hphase hports
  | portDestroyed hphase hreturned =>
    obtain ⟨hinit, hfiltering, hfailed, hclosed⟩ := h.knows_of_eq hphase
    simp only [resources, hphase, hclosed hreturned, if_neg Bool.false_ne_true] at hheld hfilter
    exact ⟨hheld, hfilter, hclosed hreturned, fun _ => (hquiet hfiltering).congr rfl id, hinit,
      hfiltering, hfailed⟩
  | destroysContexts hphase =>
    obtain ⟨hinit, hfiltering, hfailed⟩ := h.knows_of_eq hphase
    simp only [resources, hphase] at hheld hfilter hserver
    exact ⟨hheld, hfilter, hserver, fun _ => ⟨(hquiet hfiltering).calls, fun _ => rfl⟩, hinit,
      hfiltering, hfailed⟩
  | @unregisters failed hphase =>
    obtain ⟨-, hfiltering, hfailed⟩ := h.knows_of_eq hphase
    simp only [resources, hphase] at hheld hserver
    have hno : ¬ ntSuccess failed = true := Bool.eq_false_iff.1 hfailed
    have hresources : resources { s with
        filterHandle := false, moves := s.moves ++ [.release .filter]
        phase := .returned failed } = [] := if_neg hno
    exact ⟨hresources ▸ Heap.held_release hheld (by simp), hresources ▸ rfl,
      hresources ▸ hserver, fun _ => (hquiet hfiltering).congr rfl id, (if_neg hno).mpr hfiltering⟩

/-! ### A step of a client or of a call -/

theorem contextHashTable_control {d : DriverState} (hd : d.contextHashTable = fun _ => [])
    (k : Control) : (k.apply d).contextHashTable = fun _ => [] := by
  cases k with
  | removeProcessContext p =>
    have hnone : rsLookupProcessContext d p = none := by
      rw [rsLookupProcessContext, hd]
      rfl
    show (rsRemoveProcessContext d p).contextHashTable = _
    rw [rsRemoveProcessContext, hnone]
    exact hd
  | addDynamicAllowlistEntry entry =>
    simp only [Control.apply, rsAddDynamicAllowlistEntry]
    split_ifs <;> exact hd
  | applyConfig | setMonitoring | clearDynamicAllowlist | drawSequence | getBlockedPids
  | getPidCounts | connect | disconnect => exact hd

theorem delivers_ne_destroy {a : PortAction} (h : s.delivers a = true) : a ≠ .destroy := by
  rintro rfl
  simp [delivers] at h

/-- What a delivered action does before `FltStartFiltering`: it is a callback of the port, or a
section of a message. -/
theorem exists_control {a : PortAction} {ports : PortState} (hfiltering : s.filtering = false)
    (hcalls : ∀ c, s.ports.system.calls c = none) (ha : s.delivers a = true)
    (hstep : (portSystem upcase).step s.ports a = some ports) :
    (s.ports.serverPort = true ∨ 0 < s.ports.issued) ∧ ∃ k : Control,
      ports.system.calls = s.ports.system.calls ∧
      ports.system.driver = k.apply s.ports.system.driver := by
  cases a with
  | destroy => exact absurd rfl (delivers_ne_destroy ha)
  | connect =>
    simp only [portSystem, Option.ite_none_right_eq_some, Option.map_eq_some_iff] at hstep
    obtain ⟨haccepts, system, hsystem, rfl⟩ := hstep
    cases hsystem
    exact ⟨.inl (Bool.and_eq_true_iff.1 haccepts).1, .connect s.ports.issued, rfl, rfl⟩
  | disconnect p =>
    simp only [portSystem, Option.ite_none_right_eq_some, Option.map_eq_some_iff] at hstep
    obtain ⟨⟨hp, -⟩, system, hsystem, rfl⟩ := hstep
    cases hsystem
    exact ⟨.inr (Nat.zero_lt_of_lt hp), .disconnect, rfl, rfl⟩
  | other a =>
    simp only [portSystem, Option.ite_none_left_eq_some, Option.map_eq_some_iff] at hstep
    obtain ⟨-, system, hsystem, rfl⟩ := hstep
    cases a with
    | control k =>
      cases hsystem
      have hissued := (Bool.and_eq_true_iff.1 ha).2
      exact ⟨.inr (of_decide_eq_true hissued), k, rfl, rfl⟩
    | advance c step =>
      obtain ⟨call, hcall, -⟩ := Option.bind_eq_some_iff.1 hsystem
      cases (hcalls c).symm.trans hcall
    | pass | track | call =>
      have hstarted : s.filtering = true := (Bool.and_eq_true_iff.1 ha).2
      cases hfiltering.symm.trans hstarted

theorem Quiet.port {a : PortAction} {ports : PortState} (h : s.Quiet)
    (hfiltering : s.filtering = false) (ha : s.delivers a = true)
    (hstep : (portSystem upcase).step s.ports a = some ports) :
    Quiet { s with ports := ports } := by
  obtain ⟨-, k, hcalls, hdriver⟩ := exists_control hfiltering h.calls ha hstep
  refine ⟨fun c => ?_, fun hi => ?_⟩
  · rw [hcalls]
    exact h.calls c
  · rw [hdriver]
    exact contextHashTable_control (h.contexts hi) k

theorem Quiet.not_delivered {a : PortAction} {ports : PortState} (h : s.Quiet)
    (hfiltering : s.filtering = false) (hserver : s.ports.serverPort = false)
    (hissued : s.ports.issued = 0) (ha : s.delivers a = true) :
    (portSystem upcase).step s.ports a ≠ some ports := by
  intro hstep
  obtain ⟨hserved | hserved, -⟩ := exists_control hfiltering h.calls ha hstep
  · cases hserver.symm.trans hserved
  · omega

theorem Reached.port {a : PortAction} {ports : PortState} (h : s.Reached upcase)
    (ha : s.delivers a = true) (hstep : (portSystem upcase).step s.ports a = some ports) :
    Reached upcase { s with ports := ports } := by
  obtain ⟨as, has, hrun⟩ := h
  refine ⟨as ++ [a], ?_, ?_⟩
  · simp only [List.mem_append, List.mem_singleton, not_or]
    exact ⟨has, fun heq => delivers_ne_destroy ha heq.symm⟩
  · rw [Machine.run_concat, hrun]
    exact hstep

/-- The filter manager calls the driver while the filter is registered. -/
theorem Sound.mem_resources {a : PortAction} (h : s.Sound upcase globals)
    (ha : s.delivers a = true) : .filter ∈ s.resources := by
  have hregistered := (Bool.and_eq_true_iff.1 ha).1
  rw [h.held] at hregistered
  exact of_decide_eq_true hregistered

/-- **A step of a client or of a call** finds the table initialised. -/
theorem Sound.port {a : PortAction} {ports : PortState} (h : s.Sound upcase globals)
    (ha : s.delivers a = true) (hstep : (portSystem upcase).step s.ports a = some ports) :
    s.initialized = true ∧ Sound upcase globals { s with ports := ports } := by
  have hmem := h.mem_resources ha
  obtain ⟨hteardown, hserver⟩ := teardown_of_port (delivers_ne_destroy ha) hstep
  have hresources : resources { s with ports := ports } = s.resources := by
    simp only [resources, hserver]
  have hsound {phase : EntryPhase} (hphase : s.phase = phase) (hinit : s.initialized = true)
      (hknows : Knows upcase globals { s with ports := ports } phase) :
      s.initialized = true ∧ Sound upcase globals { s with ports := ports } := by
    refine ⟨hinit, hresources ▸ h.held, hresources ▸ h.filterHandle, ?_, fun hf => ?_,
      hphase ▸ hknows⟩
    · rw [hresources]
      exact hserver.trans h.serverPort
    · exact (h.quiet hf).port hf ha hstep
  have hnone (hfiltering : s.filtering = false) (hclosed : s.ports.serverPort = false)
      (hissued : s.ports.issued = 0) : False :=
    (h.quiet hfiltering).not_delivered hfiltering hclosed hissued ha hstep
  obtain ⟨phase, hphase⟩ : ∃ phase, s.phase = phase := ⟨_, rfl⟩
  cases phase with
  | registering | initializing =>
    obtain ⟨-, hfiltering, hports⟩ := h.knows_of_eq hphase
    exact (hnone hfiltering (hports ▸ rfl) (hports ▸ rfl)).elim
  | buildingDescriptor | creatingPort =>
    obtain ⟨-, hfiltering, hports⟩ := h.knows_of_eq hphase
    exact (hnone hfiltering (hports ▸ rfl) (hports ▸ rfl)).elim
  | freeingDescriptor created =>
    obtain ⟨hinit, hfiltering, hports⟩ := h.knows_of_eq hphase
    refine hsound hphase hinit ⟨hinit, hfiltering, ?_⟩
    split_ifs at hports ⊢
    · exact hports.port ha hstep
    · exact (hnone hfiltering (hports ▸ rfl) (hports ▸ rfl)).elim
  | startingFiltering =>
    obtain ⟨hinit, hfiltering, hreached⟩ := h.knows_of_eq hphase
    exact hsound hphase hinit ⟨hinit, hfiltering, hreached.port ha hstep⟩
  | destroyingPort failed =>
    obtain ⟨hinit, hfiltering, hfailed, hclosed⟩ := h.knows_of_eq hphase
    refine hsound hphase hinit ⟨hinit, hfiltering, hfailed, fun ht => ?_⟩
    exact hserver.trans (hclosed (hteardown.symm.trans ht))
  | destroyingContexts failed | unregistering failed =>
    obtain ⟨hinit, hfiltering, hfailed⟩ := h.knows_of_eq hphase
    exact hsound hphase hinit ⟨hinit, hfiltering, hfailed⟩
  | returned status =>
    have hknows := h.knows_of_eq hphase
    simp only [resources, hphase] at hmem
    split_ifs at hmem with hok
    · obtain ⟨hinit, hfiltering, hstatus, hreached⟩ := (if_pos hok).mp hknows
      refine hsound hphase hinit ?_
      exact (if_pos hok).mpr ⟨hinit, hfiltering, hstatus, hreached.port ha hstep⟩
    · cases hmem

/-! ### A whole run -/

theorem sound_of_run {as : List EntryAction}
    (hrun : (driverEntry upcase).run (EntryState.init globals) as = some s) :
    s.Sound upcase globals := by
  refine Machine.run_invariant (I := Sound upcase globals) hrun sound_init ?_
  rintro t a t' ht - hstep
  cases a with
  | next status => exact ht.next hstep
  | port a =>
    simp only [driverEntry, Option.ite_none_right_eq_some, Option.map_eq_some_iff] at hstep
    obtain ⟨ha, ports, hports, rfl⟩ := hstep
    exact (ht.port ha hports).2

end EntryState

/-- The failure that `DriverEntry` is about to return. -/
def EntryPhase.failure : EntryPhase → Option StatusCode
  | .freeingDescriptor status | .returned status => if ntSuccess status then none else some status
  | .destroyingPort status | .destroyingContexts status | .unregistering status => some status
  | _ => none

theorem EntryState.failure_of_next {s s' : EntryState} {status failed : StatusCode}
    (hstep : s.next status = some s') (hfailed : s'.phase.failure = some failed) :
    s.phase.failure = some failed ∨ failed = status := by
  cases entryStep_of_next hstep with
  | registers | initializes | builds | frees | starts => cases hfailed
  | cannotRegister _ hno | cannotCreate _ hno =>
    exact .inr (Option.some.inj ((if_neg hno).symm.trans hfailed)).symm
  | cannotBuild | cannotStart => exact .inr (Option.some.inj hfailed).symm
  | creates _ hok => cases (if_pos hok).symm.trans hfailed
  | freesAndFails hphase hno =>
    rw [hphase]
    exact .inl ((if_neg hno).trans hfailed)
  | destroysPort => exact .inl hfailed
  | portDestroyed hphase | destroysContexts hphase => exact .inl (hphase ▸ hfailed)
  | unregisters hphase =>
    rw [hphase]
    simp only [EntryPhase.failure] at hfailed
    split_ifs at hfailed
    exact .inl hfailed

/-- **A failure is passed on.** -/
theorem EntryState.failure_mem {upcase : UInt16 → UInt16} {globals : DriverState} {s : EntryState}
    {failed : StatusCode} {as : List EntryAction}
    (hrun : (driverEntry upcase).run (EntryState.init globals) as = some s)
    (hfailed : s.phase.failure = some failed) : .next failed ∈ as := by
  revert hfailed
  refine Machine.run_induction
    (I := fun bs t => t.phase.failure = some failed → EntryAction.next failed ∈ bs) hrun
    (fun h => by cases h) ?_
  intro bs b t t' _ _ ht hstep hfailed
  cases b with
  | next status =>
    rcases failure_of_next hstep hfailed with hbefore | rfl
    · exact List.mem_append_left _ (ht hbefore)
    · simp
  | port a =>
    simp only [driverEntry, Option.ite_none_right_eq_some, Option.map_eq_some_iff] at hstep
    obtain ⟨-, ports, -, rfl⟩ := hstep
    exact List.mem_append_left _ (ht hfailed)

/-- How `DriverEntry` ends when it succeeds: everything is in place. -/
structure EntryState.Loaded (upcase : UInt16 → UInt16) (s : EntryState) : Prop where
  held : Heap.held s.moves = some [.serverPort, .filter]
  filterHandle : s.filterHandle = true
  initialized : s.initialized = true
  filtering : s.filtering = true
  /-- The driver is in a state that its port reaches from the first one. -/
  reached : s.Reached upcase

/-- How it ends when it fails: everything is released, and nobody is served. -/
structure EntryState.Unloaded (s : EntryState) : Prop where
  held : Heap.held s.moves = some []
  released : ∀ r, s.moves.count (.acquire r) = s.moves.count (.release r)
  filterHandle : s.filterHandle = false
  serverPort : s.ports.serverPort = false
  filtering : s.filtering = false
  /-- No call was made, and no context was allocated. -/
  quiet : s.Quiet

/-- **All or nothing.**  Whatever the globals without initialiser contain, whatever the filter
manager returns, and whatever the clients do while `DriverEntry` is in progress: if it returns, then
it returns `STATUS_SUCCESS` with everything in place, or passes on the failure of one of its calls,
with nothing left.  And whenever a callback or a step of one takes place, `g_FilterHandle` is set
and the table of contexts is initialised. -/
theorem driver_entry_all_or_nothing (upcase : UInt16 → UInt16) (globals : DriverState)
    (as : List EntryAction) (s : EntryState)
    (hrun : (driverEntry upcase).run (EntryState.init globals) as = some s) :
    (∀ status, s.phase = .returned status →
      (status = statusSuccess ∧ s.Loaded upcase) ∨
        (ntSuccess status = false ∧ .next status ∈ as ∧ s.Unloaded)) ∧
    ∀ bs a t, bs ++ [.port a] <+: as →
      (driverEntry upcase).run (EntryState.init globals) bs = some t →
        t.filterHandle = true ∧ t.initialized = true := by
  have hsound := EntryState.sound_of_run hrun
  refine ⟨fun status hphase => ?_, fun bs a t hprefix ht => ?_⟩
  · have hknows := hsound.knows_of_eq hphase
    obtain ⟨hheld, hfilter, hserver, hquiet, -⟩ := hsound
    simp only [EntryState.resources, hphase] at hheld hfilter hserver
    by_cases hok : ntSuccess status = true
    · obtain ⟨hinit, hfiltering, hstatus, hreached⟩ := (if_pos hok).mp hknows
      rw [if_pos hok] at hheld hfilter
      exact .inl ⟨hstatus, hheld, hfilter, hinit, hfiltering, hreached⟩
    · have hfiltering : s.filtering = false := (if_neg hok).mp hknows
      rw [if_neg hok] at hheld hfilter hserver
      refine .inr ⟨Bool.eq_false_iff.2 hok, EntryState.failure_mem hrun ?_, hheld,
        fun r => Heap.count_of_held hheld r, hfilter, hserver, hfiltering, hquiet hfiltering⟩
      rw [hphase]
      exact if_neg hok
  · obtain ⟨t', hstep⟩ := Machine.exists_step hrun hprefix ht
    have htsound := EntryState.sound_of_run ht
    simp only [driverEntry, Option.ite_none_right_eq_some, Option.map_eq_some_iff] at hstep
    obtain ⟨ha, ports, hports, -⟩ := hstep
    refine ⟨?_, (htsound.port ha hports).1⟩
    rw [htsound.filterHandle]
    exact decide_eq_true (htsound.mem_resources ha)

/-- The answers of the filter manager when `FltStartFiltering` fails; a client connects before, and
stays connected. -/
def startFails : List EntryAction :=
  List.replicate 4 (.next 0) ++ [.port .connect, .next 0, .next (-1)] ++ List.replicate 8 (.next 0)

theorem driver_entry_all_or_nothing_startFails : ∃ s,
    (driverEntry id).run (EntryState.init DriverState.init) startFails = some s ∧
      s.phase = .returned (-1) ∧ s.Unloaded := by
  obtain ⟨s, hrun, hphase⟩ : ∃ s, (driverEntry id).run (EntryState.init DriverState.init)
      startFails = some s ∧ s.phase = .returned (-1) := ⟨_, rfl, rfl⟩
  obtain ⟨hend, -⟩ := driver_entry_all_or_nothing id DriverState.init startFails s hrun
  rcases hend _ hphase with ⟨hstatus, -⟩ | ⟨-, -, hunloaded⟩
  · exact absurd hstatus (by decide)
  · exact ⟨s, hrun, hphase, hunloaded⟩

end RansomShield
