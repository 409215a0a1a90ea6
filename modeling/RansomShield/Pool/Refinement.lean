import RansomShield.Pool.Invariant
import RansomShield.System.View
import RansomShield.Table.Pointers

/-!
# The table with pointers refines the table of contexts

The driver of `System/Basic.lean` keeps the contexts themselves in its table.  The state of the
pool represents such a state by what its pointers point to (`Pool.Represents`), and the locked
sections do the same on both levels.  Every interleaving of the pool is an interleaving of that
driver (`Pool.refines`), by a simulation in which the calls have come equally far
(`Pool.Simulates`).
-/

namespace RansomShield

namespace Pool

open State (Sound InPlace)

variable {s s' : State} {d : DriverState} {owner : ℕ → Heap.Owner CallId}
  {holds : CallId → Option ℕ} {b : ℕ} {p : UInt32}

/-- The pool stands for a state of the driver. -/
structure Represents (s : State) (d : DriverState) : Prop where
  table : d.contextHashTable = Chained.deref s.contents s.contextHashTable
  count : d.trackedPidCount = s.trackedPidCount
  config : d.config = s.config

namespace Represents

theorem touch (h : Represents s d) (bs : List ℕ) : Represents (s.touch bs) d :=
  ⟨h.table, h.count, h.config⟩

/-! ### The locked sections -/

theorem lookup (h : Represents s d) (p : UInt32) : rsLookupProcessContext d p =
    (Chained.lookup s.key rsHashProcessId s.contextHashTable p).map s.contents := by
  rw [rsLookupProcessContext, h.table]
  exact Chained.lookup_deref p

theorem write (h : Represents s d)
    (hvalid : Chained.Valid s.key rsHashProcessId s.contextHashTable)
    (hb : Chained.lookup s.key rsHashProcessId s.contextHashTable p = some b)
    (ctx : RsProcessContext) : Represents (s.write b ctx) (d.storeContext p ctx) where
  table := by
    rw [DriverState.storeContext, h.table]
    exact (Chained.Valid.deref_update RsProcessContext.processId s.contents hvalid hb ctx).symm
  count := h.count
  config := h.config

theorem recordInContext (h : Represents s d)
    (hvalid : Chained.Valid s.key rsHashProcessId s.contextHashTable)
    (hb : Chained.lookup s.key rsHashProcessId s.contextHashTable p = some b) (t : Int64) :
    Represents (s.recordInContext b t).1 (RansomShield.recordInContext d p (s.contents b) t).1 ∧
      (s.recordInContext b t).2 = (RansomShield.recordInContext d p (s.contents b) t).2 := by
  rw [State.recordInContext_eq, RansomShield.recordInContext, h.config]
  split_ifs
  · exact ⟨h.touch [b], rfl⟩
  · exact ⟨((h.touch [b]).touch [b]).write hvalid hb _, rfl⟩

/-- **The first locked section** does the same on both levels. -/
theorem recordFirstSection (h : Represents s d)
    (hvalid : Chained.Valid s.key rsHashProcessId s.contextHashTable) (p : UInt32) (t : Int64) :
    Represents (s.recordFirstSection p t).1 (RansomShield.recordFirstSection d p t).1 ∧
      (s.recordFirstSection p t).2 = (RansomShield.recordFirstSection d p t).2 := by
  obtain ⟨visited, -, heq⟩ := State.rsLookupProcessContext_eq s p
  cases hlookup : Chained.lookup s.key rsHashProcessId s.contextHashTable p with
  | none =>
    simp only [State.recordFirstSection, RansomShield.recordFirstSection, heq, h.lookup p, hlookup,
      Option.map_none]
    exact ⟨h.touch visited, trivial⟩
  | some b =>
    simp only [State.recordFirstSection, RansomShield.recordFirstSection, heq, h.lookup p, hlookup,
      Option.map_some]
    exact (h.touch visited).recordInContext hvalid hlookup t

theorem insert (h : Represents s d) (b : ℕ) :
    Represents (s.insertHeadList (rsHashProcessId (s.key b)) b)
      (d.insertContext (s.contents b)) where
  table := by
    rw [State.insertHeadList_table, DriverState.insertContext, h.table]
    exact (Chained.deref_insert RsProcessContext.processId s.contents b).symm
  count := congrArg (· + 1) h.count
  config := h.config

/-- **The second locked section** does the same on both levels. -/
theorem recordSecondSection (h : Represents s d)
    (hvalid : Chained.Valid s.key rsHashProcessId s.contextHashTable) (hkey : s.key b = p)
    (t : Int64) :
    Represents (s.recordSecondSection b p t).1
        (RansomShield.recordSecondSection d (s.contents b) p t).1 ∧
      (s.recordSecondSection b p t).2 =
        (RansomShield.recordSecondSection d (s.contents b) p t).2 := by
  obtain ⟨visited, -, heq⟩ := State.rsLookupProcessContext_eq s p
  cases hlookup : Chained.lookup s.key rsHashProcessId s.contextHashTable p with
  | some context =>
    simp only [State.recordSecondSection, RansomShield.recordSecondSection, heq, h.lookup p,
      hlookup, Option.map_some]
    have hfree : Represents ((s.touch visited).exFreePoolWithTag b) d :=
      ⟨h.table, h.count, h.config⟩
    exact hfree.recordInContext hvalid hlookup t
  | none =>
    subst hkey
    simp only [State.recordSecondSection, RansomShield.recordSecondSection, heq, h.lookup (s.key b),
      hlookup, Option.map_none]
    have hinsert := (h.touch visited).insert b
    have hvalid' : Chained.Valid s.key rsHashProcessId
        (Chained.insert s.key rsHashProcessId s.contextHashTable b) := hvalid.insert hlookup
    have hfound : Chained.lookup s.key rsHashProcessId
        (Chained.insert s.key rsHashProcessId s.contextHashTable b) (s.key b) = some b := by
      rw [Chained.lookup_insert, if_pos rfl]
    constructor
    · rw [h.config]
      exact (hinsert.touch [b]).write hvalid' hfound _
    · rw [h.config]
      rfl

theorem create (h : Represents s d) (hs : Sound owner holds s) (p : UInt32)
    (image : Option UnicodeString) : Represents (s.rsCreateProcessContext p image).1 d where
  table := by
    have hfresh : s.allocated ∉ s.linked := fun hmem =>
      (hs.accounts.lt_of_mem (Set.mem_ofPred.2 hmem)).false
    exact h.table.trans (Chained.deref_update_of_not_mem hfresh _).symm
  count := h.count
  config := h.config

/-- **Removal** does the same on both levels. -/
theorem rsRemoveProcessContext (h : Represents s d)
    (hvalid : Chained.Valid s.key rsHashProcessId s.contextHashTable) (p : UInt32) :
    Represents (s.rsRemoveProcessContext p) (RansomShield.rsRemoveProcessContext d p) := by
  obtain ⟨visited, -, heq⟩ := State.rsLookupProcessContext_eq s p
  cases hlookup : Chained.lookup s.key rsHashProcessId s.contextHashTable p with
  | none =>
    simp only [State.rsRemoveProcessContext, RansomShield.rsRemoveProcessContext, heq, h.lookup p,
      hlookup, Option.map_none]
    exact h.touch visited
  | some b =>
    simp only [State.rsRemoveProcessContext, RansomShield.rsRemoveProcessContext, heq, h.lookup p,
      hlookup, Option.map_some]
    refine ⟨?_, congrArg (· - 1) h.count, h.config⟩
    rw [h.table]
    exact (Chained.Valid.deref_unlink RsProcessContext.processId s.contents hvalid hlookup).symm

/-! ### The reports -/

/-- **The list of blocked processes** is the same on both levels. -/
theorem rsGetBlockedPids (h : Represents s d) (maxEntries : ℕ) :
    Represents (s.rsGetBlockedPids maxEntries).1 d ∧
      (s.rsGetBlockedPids maxEntries).2 = RansomShield.rsGetBlockedPids d maxEntries := by
  obtain ⟨visited, -, hstate, hentries⟩ := State.rsGetBlockedPids_eq s maxEntries
  rw [hstate, hentries]
  refine ⟨h.touch visited, ?_⟩
  have hbody : s.bucketEntries maxEntries = fun written i =>
      if written.length < maxEntries then
        (d.contextHashTable i).foldl
          (fun written ctx =>
            if written.length < maxEntries ∧ ctx.isBlocked = true then
              written ++ [ctx.blockedEntry]
            else written)
          written
      else written := by
    funext written i
    rw [h.table, Chained.deref, List.foldl_map]
    rfl
  rw [RansomShield.rsGetBlockedPids, hbody]

/-- **The counts** are the same on both levels. -/
theorem rsGetPidCounts (h : Represents s d) :
    Represents s.rsGetPidCounts.1 d ∧ s.rsGetPidCounts.2 = RansomShield.rsGetPidCounts d := by
  obtain ⟨visited, -, hstate, hcount⟩ := State.countBlocked_eq s
  have hbody : s.bucketCount = fun blocked i => (d.contextHashTable i).foldl
      (fun blocked ctx => if ctx.isBlocked then blocked + 1 else blocked) blocked := by
    funext blocked i
    rw [h.table, Chained.deref, List.foldl_map]
    rfl
  rw [State.rsGetPidCounts, Prod.map_fst, Prod.map_snd, id_eq, hstate, hcount]
  refine ⟨h.touch visited, ?_⟩
  rw [RansomShield.rsGetPidCounts, h.count, hbody]

end Represents

/-! ### The calls -/

/-- A call has come equally far on both levels. -/
inductive CallPhase.Matches : CallPhase → RansomShield.CallPhase → Prop
  | entered : Matches .entered .entered
  | allocating : Matches .allocating .allocating
  | allocated (newContext : ℕ) (ctx : RsProcessContext) :
    Matches (.allocated newContext) (.allocated ctx)
  | decided {result : RecordResult} {phase : RansomShield.CallPhase}
    (h : phase.result = some result) : Matches (.decided result) phase

/-- The calls are the same call, equally far. -/
structure Call.Matches (call : Call) (call' : RansomShield.Call) : Prop where
  processImageName : call'.processImageName = call.processImageName
  currentTime : call'.currentTime = call.currentTime
  phase : call.phase.Matches call'.phase

theorem Call.Matches.setPhase {call : Call} {call' : RansomShield.Call} (h : call.Matches call')
    {phase : CallPhase} {phase' : RansomShield.CallPhase} (hphase : phase.Matches phase') :
    Call.Matches { call with phase := phase } { call' with phase := phase' } :=
  ⟨h.processImageName, h.currentTime, hphase⟩

theorem phaseAfter_matches (p : UInt32) (r : SectionResult) :
    (phaseAfter p r).Matches (r.phase p) := by
  unfold phaseAfter SectionResult.phase
  cases r.result p with
  | none => exact .allocating
  | some result =>
    simp only []
    cases result.notification with
    | none => exact .decided rfl
    | some n => exact .decided rfl

/-- The pool stands for a state of the driver with the same calls. -/
structure Simulates (s : State) (t : SystemState) : Prop where
  driver : Represents s t.driver
  calls : ∀ c, Option.Rel Call.Matches (s.calls c) (t.calls c)

theorem rel_update {f : CallId → Option Call} {g : CallId → Option RansomShield.Call}
    (h : ∀ c, Option.Rel Call.Matches (f c) (g c)) (c : CallId) {call : Call}
    {call' : RansomShield.Call} (hcall : call.Matches call') (c' : CallId) :
    Option.Rel Call.Matches (Function.update f c (some call) c')
      (Function.update g c (some call') c') := by
  by_cases hc : c' = c
  · subst hc
    rw [Function.update_self, Function.update_self]
    exact .some hcall
  · rw [Function.update_of_ne hc, Function.update_of_ne hc]
    exact h c'

/-- What a step of a call is on the level of the driver. -/
def CallStep.toSystem : CallStep → RansomShield.CallStep
  | .firstSection => .firstSection
  | .allocate succeeds => .allocate succeeds
  | .secondSection => .secondSection

/-- What an action is on the level of the driver, while it is loaded. -/
def Action.toSystem : Action → Option RansomShield.Action
  | .enter c processImageName currentTime => some (.call c processImageName currentTime)
  | .advance c step => some (.advance c step.toSystem)
  | .removeProcessContext processId => some (.control (.removeProcessContext processId))
  | .getBlockedPids _ => some (.control .getBlockedPids)
  | .getPidCounts => some (.control .getPidCounts)
  | .destroyContextTracking => none
  | .applyConfig threshold seconds monitoring =>
    some (.control (.applyConfig threshold seconds monitoring))
  | .setMonitoring value => some (.control (.setMonitoring value))

namespace Simulates

variable {t : SystemState} {c : CallId} {call : Call}

theorem init : Simulates State.init SystemState.init where
  driver := ⟨rfl, rfl, rfl⟩
  calls _ := .none

theorem exists_call (h : Simulates s t) (hcall : s.calls c = some call) :
    ∃ call', t.calls c = some call' ∧ call.Matches call' := by
  have hrel := h.calls c
  rw [hcall] at hrel
  cases htc : t.calls c with
  | none =>
    rw [htc] at hrel
    cases hrel
  | some call' =>
    rw [htc] at hrel
    cases hrel with
    | some hmatch => exact ⟨call', rfl, hmatch⟩

theorem endSection (h : Simulates s t) {call' : RansomShield.Call} (hmatch : call.Matches call')
    {r : State × SectionResult} {r' : DriverState × SectionResult}
    (hsame : Represents r.1 r'.1 ∧ r.2 = r'.2) (hcalls : r.1.calls = s.calls) :
    Simulates (r.1.endSection c call r.2) (t.endSection c call' r') where
  driver := ⟨hsame.1.table, hsame.1.count, hsame.1.config⟩
  calls c' := by
    rw [State.endSection, State.setPhase_calls, hcalls, SystemState.endSection_calls, hsame.2]
    exact rel_update h.calls c (hmatch.setPhase (phaseAfter_matches _ _)) c'

theorem setPhase (h : Simulates s t) {call' : RansomShield.Call} (hmatch : call.Matches call')
    (hdriver : Represents s' t.driver) (hcalls : s'.calls = s.calls) {phase : CallPhase}
    {phase' : RansomShield.CallPhase} (hphase : phase.Matches phase') :
    Simulates (s'.setPhase c call phase) (t.setPhase c call' phase') where
  driver := ⟨hdriver.table, hdriver.count, hdriver.config⟩
  calls c' := by
    rw [State.setPhase_calls, hcalls, SystemState.setPhase_calls]
    exact rel_update h.calls c (hmatch.setPhase hphase) c'

/-- **A step of a call** is a step of the call on the level of the driver. -/
theorem callStep (h : Simulates s t) (hinv : Invariant s) (ht : t.Sound)
    (hcall : s.calls c = some call) {step : CallStep} (hstep : callStep s c call step = some s') :
    ∃ call' t', t.calls c = some call' ∧
      RansomShield.callStep t c call' step.toSystem = some t' ∧ Simulates s' t' := by
  obtain ⟨call', hcall', hmatch⟩ := h.exists_call hcall
  obtain ⟨owner, hs⟩ := hinv.sound
  have hphase := hmatch.phase
  unfold Pool.callStep at hstep
  split at hstep
  · next hp =>
    cases hstep
    rw [hp] at hphase
    generalize hp' : call'.phase = phase' at hphase
    cases hphase
    have hsame := h.driver.recordFirstSection hs.valid c.processId call.currentTime.ticks
    have hstep' : RansomShield.callStep t c call' .firstSection = some (t.endSection c call'
        (RansomShield.recordFirstSection t.driver c.processId call'.currentTime.ticks)) := by
      simp only [RansomShield.callStep, hp']
    rw [hmatch.currentTime] at hstep'
    refine ⟨call', _, hcall', hstep', ?_⟩
    exact h.endSection hmatch hsame (InPlace.recordFirstSection s _ _).calls
  · next hp =>
    cases hstep
    rw [hp] at hphase
    generalize hp' : call'.phase = phase' at hphase
    cases hphase
    have hstep' : RansomShield.callStep t c call' (.allocate true) = some (t.setPhase c call'
        (.allocated (rsCreateProcessContext c.processId call'.processImageName))) := by
      simp only [RansomShield.callStep, hp']
    refine ⟨call', _, hcall', hstep', ?_⟩
    exact h.setPhase hmatch (h.driver.create hs _ _) rfl (.allocated _ _)
  · next hp =>
    cases hstep
    rw [hp] at hphase
    generalize hp' : call'.phase = phase' at hphase
    cases hphase
    have hstep' : RansomShield.callStep t c call' (.allocate false) = some (t.setPhase c call'
        (.returned RecordResult.outOfMemory)) := by
      simp only [RansomShield.callStep, hp']
    refine ⟨call', _, hcall', hstep', ?_⟩
    exact h.setPhase hmatch h.driver rfl (.decided rfl)
  · next newContext hp =>
    cases hstep
    rw [hp] at hphase
    generalize hp' : call'.phase = phase' at hphase
    cases hphase with
    | allocated _ ctx =>
      have hnew := hinv.fresh c call newContext hcall hp
      have hkey := hinv.key_of_allocated hcall hp
      have hctx : ctx = s.contents newContext := by
        rw [hnew, ht.fresh c call' ctx hcall' hp', hmatch.processImageName]
      have hsame := h.driver.recordSecondSection hs.valid hkey call.currentTime.ticks
      have hsection := hinv.recordSecondSection hcall hp
      have hstep' : RansomShield.callStep t c call' .secondSection = some (t.endSection c call'
          (RansomShield.recordSecondSection t.driver ctx c.processId call'.currentTime.ticks)) := by
        simp only [RansomShield.callStep, hp']
      rw [hmatch.currentTime, hctx] at hstep'
      refine ⟨call', _, hcall', hstep', ?_⟩
      exact h.endSection hmatch hsame hsection.calls
  · cases hstep

theorem control (h : Simulates s t) {k : Control} (hdriver : Represents s' (k.apply t.driver))
    (hcalls : s'.calls = s.calls) :
    Simulates s' { t with driver := k.apply t.driver, history := t.history ++ k.events } where
  driver := hdriver
  calls c := by
    rw [hcalls]
    exact h.calls c

/-- **Every step of the pool** is a step of the driver. -/
theorem step (h : Simulates s t) (hinv : Invariant s) (ht : t.Sound) (upcase : UInt16 → UInt16)
    {a : Action} {a' : RansomShield.Action} (ha : a.toSystem = some a')
    (hstep : machine.step s a = some s') :
    ∃ t', (system upcase).step t a' = some t' ∧ Simulates s' t' := by
  obtain ⟨owner, hs⟩ := hinv.sound
  cases a with
  | enter c processImageName currentTime =>
    cases ha
    simp only [machine, Option.ite_none_right_eq_some, Option.some.injEq,
      Option.isNone_iff_eq_none] at hstep
    obtain ⟨⟨hnew, -⟩, rfl⟩ := hstep
    have hrel := h.calls c
    rw [hnew] at hrel
    have hnew' : t.calls c = none := by
      cases htc : t.calls c with
      | none => rfl
      | some call' =>
        rw [htc] at hrel
        cases hrel
    refine ⟨_, if_pos (by rw [hnew']; rfl), ⟨h.driver.table, h.driver.count, h.driver.config⟩,
      ?_⟩
    intro c'
    exact rel_update h.calls c ⟨rfl, rfl, .entered⟩ c'
  | advance c step =>
    cases ha
    obtain ⟨call, hcall, hstep⟩ := Option.bind_eq_some_iff.1 hstep
    obtain ⟨call', t', hcall', hstep', hsim⟩ := h.callStep hinv ht hcall hstep
    exact ⟨t', Option.bind_eq_some_iff.2 ⟨call', hcall', hstep'⟩, hsim⟩
  | removeProcessContext processId =>
    cases ha
    cases hstep
    exact ⟨_, rfl, h.control (h.driver.rsRemoveProcessContext hs.valid processId)
      (SectionEnd.rsRemoveProcessContext hs hinv.counted processId).calls⟩
  | getBlockedPids maxEntries =>
    cases ha
    obtain rfl : (s.rsGetBlockedPids maxEntries).1 = s' := Option.some.inj hstep
    exact ⟨_, rfl, h.control (h.driver.rsGetBlockedPids maxEntries).1
      (InPlace.rsGetBlockedPids s maxEntries).calls⟩
  | getPidCounts =>
    cases ha
    obtain rfl : s.rsGetPidCounts.1 = s' := Option.some.inj hstep
    exact ⟨_, rfl, h.control h.driver.rsGetPidCounts.1 (InPlace.rsGetPidCounts s).calls⟩
  | destroyContextTracking => cases ha
  | applyConfig threshold seconds monitoring =>
    cases ha
    cases hstep
    refine ⟨_, rfl, h.control ⟨h.driver.table, h.driver.count, ?_⟩ rfl⟩
    show (rsApplyConfig t.driver threshold seconds monitoring).config =
      Process.configAfter s.config threshold seconds monitoring
    rw [← h.driver.config]
    rfl
  | setMonitoring value =>
    cases ha
    cases hstep
    refine ⟨_, rfl, h.control ⟨h.driver.table, h.driver.count, ?_⟩ rfl⟩
    show { t.driver.config with monitoringEnabled := value } =
      { s.config with monitoringEnabled := value }
    rw [h.driver.config]

end Simulates

/-- **Refinement**: every interleaving of the pool without unloading is, action by action, an
interleaving of the driver, which leads to a state that the pool represents. -/
theorem refines (upcase : UInt16 → UInt16) {as : List Action}
    (hloaded : ∀ a ∈ as, a.toSystem.isSome) (hrun : machine.run State.init as = some s) :
    ∃ t, (system upcase).run SystemState.init (as.filterMap Action.toSystem) = some t ∧
      Simulates s t := by
  refine Machine.run_induction (I := fun as s => ∃ t,
    (system upcase).run SystemState.init (as.filterMap Action.toSystem) = some t ∧
      Simulates s t) hrun ⟨_, rfl, .init⟩ ?_
  rintro bs a s s' hbs hs ⟨t, ht, hsim⟩ hstep
  have ha : a ∈ as := Machine.mem_of_concat hbs
  obtain ⟨a', ha'⟩ := Option.isSome_iff_exists.1 (hloaded a ha)
  obtain ⟨t', ht', hsim'⟩ := hsim.step (Reachable.invariant ⟨bs, hs⟩)
    (sound_of_run sound_init ht) upcase ha' hstep
  refine ⟨t', ?_, hsim'⟩
  rw [List.filterMap_append, Machine.run_append, ht, Option.bind_some,
    List.filterMap_cons_some ha', List.filterMap_nil, Machine.run_singleton]
  exact ht'

end Pool

end RansomShield
