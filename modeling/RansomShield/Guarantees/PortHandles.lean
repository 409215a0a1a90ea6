import RansomShield.Client.CommManager
import RansomShield.Heap.Ownership

/-!
# Who owns the port handles of the client

Every handle that `FilterConnectCommunicationPort` returns is `m_hPort` until a call of `Disconnect`
takes it out and closes it, and none is closed twice (`never_closed_twice`).  There is one way to
lose a handle: an error resets `m_connected` and leaves `m_hPort` as it is, and `Connect` then
overwrites `m_hPort` (`port_handle_lost`).  Every handle is where it should be exactly in runs that
overwrite none (`port_handles_owned_iff`); `Accounted` keeps the accounts of the handles, with those
that are lost.
-/

namespace RansomShield

namespace CommState

/-- The handle that a thread is about to close. -/
def holding (s : CommState) (t : ThreadId) : Option PortHandle :=
  match s.calls t with
  | .closing h _ => some h
  | _ => none

/-- `Connect` gets past its early return while `m_hPort` is valid. -/
def overwrites (s : CommState) : CommAction → Bool
  | .connect _ _ => !s.connected && s.hPort.isSome
  | _ => false

end CommState

/-- A handle that was returned and is not closed is `m_hPort`, or exactly one call of `Disconnect`
is about to close it; no handle was closed twice; and when `m_hPort` is invalid and no `Disconnect`
is in progress, no handle is open. -/
structure HandlesOwned (s : CommState) : Prop where
  owned : ∀ p < s.opened, p ∉ s.closed →
    (s.hPort = some p ∧ ∀ t, s.holding t ≠ some p) ∨
      (s.hPort ≠ some p ∧ ∃! t, s.holding t = some p)
  once : s.closed.Nodup
  disconnected : s.hPort = none → (∀ t, s.holding t = none) → ∀ p < s.opened, p ∈ s.closed

variable {s s' : CommState} {a : CommAction} {lost : Set PortHandle}

/-! ### What a step does to the handles -/

theorem holding_setCall (s : CommState) (t : ThreadId) (c : CallState) :
    (s.setCall t c).holding = Function.update s.holding t
      (match c with
        | .closing h _ => some h
        | _ => none) := by
  funext u
  by_cases hu : u = t
  · subst hu
    simp only [CommState.holding, CommState.setCall, Function.update_self]
  · simp only [CommState.holding, CommState.setCall, Function.update_of_ne hu]

theorem holding_setCall_eq {t : ThreadId} {c : CallState} (hold : s.holding t = none)
    (hnew : ∀ p stops, c ≠ .closing p stops) : (s.setCall t c).holding = s.holding := by
  rw [holding_setCall, Function.update_eq_self_iff, hold]
  cases c with
  | closing p stops => exact absurd rfl (hnew p stops)
  | _ => rfl

/-- The accounts of the handles: each one is `m_hPort`, in the hands of a thread that is about to
close it, closed, or lost. -/
def Accounted (s : CommState) (lost : Set PortHandle) : Prop :=
  (∀ p ∈ lost, s.hPort ≠ some p) ∧
    ∃ owner, Heap.Accounts owner s.opened ({p | s.hPort = some p} ∪ lost) s.holding s.closed

theorem setOf_none (lost : Set PortHandle) :
    {p : PortHandle | (none : Option PortHandle) = some p} ∪ lost = lost := by
  ext p
  simp

theorem setOf_some (q : PortHandle) (lost : Set PortHandle) :
    {p : PortHandle | some q = some p} ∪ lost = insert q lost := by
  ext p
  simp [eq_comm]

theorem accounted_init : Accounted CommState.init ∅ := by
  refine ⟨fun p hp => hp.elim, fun _ => .unallocated, ?_⟩
  show Heap.Accounts _ 0 ({p | none = some p} ∪ ∅) _ _
  rw [setOf_none]
  exact Heap.Accounts.init

theorem Accounted.congr (h : Accounted s lost) (hport : s'.hPort = s.hPort)
    (hopened : s'.opened = s.opened) (hclosed : s'.closed = s.closed)
    (hholding : s'.holding = s.holding) : Accounted s' lost := by
  unfold Accounted
  rw [hport, hopened, hclosed, hholding]
  exact h

/-- A `Connect` that gets past its early return loses what `m_hPort` holds. -/
theorem lost_connect {t : ThreadId} {hr : HResult} (h : s.isConnected = false) :
    (if s.overwrites (.connect t hr) then {p | s.hPort = some p} ∪ lost else lost) =
      {p | s.hPort = some p} ∪ lost := by
  cases hp : s.hPort with
  | none => rw [setOf_none, ite_self]
  | some p =>
    rw [CommState.isConnected, hp, Option.isSome_some, Bool.and_true] at h
    rw [if_pos (by simp [CommState.overwrites, h, hp])]

/-- **The accounts after a step**: only a step that overwrites `m_hPort` loses a handle. -/
theorem Accounted.step (h : Accounted s lost) (hstep : commManager.step s a = some s') :
    Accounted s' (if s.overwrites a then {p | s.hPort = some p} ∪ lost else lost) := by
  obtain ⟨hlost, owner, hA⟩ := h
  cases commStep_of_step hstep with
  | connectFails hc hcon hfail =>
    rw [lost_connect hcon]
    refine ⟨fun p _ hp => (by cases hp), owner, ?_⟩
    show Heap.Accounts owner s.opened ({p | none = some p} ∪ _) s.holding s.closed
    rw [setOf_none]
    exact hA
  | connectOpens hc hcon hok =>
    rw [lost_connect hcon]
    refine ⟨?_, Function.update owner s.opened .shared, ?_⟩
    · intro p hp heq
      have hlt := hA.lt_of_mem hp
      rw [← Option.some.inj heq] at hlt
      exact lt_irrefl _ hlt
    · show Heap.Accounts _ (s.opened + 1) ({p | some s.opened = some p} ∪ _) s.holding s.closed
      rw [setOf_some]
      exact hA.publish
  | @disconnects t p stops hc hp =>
    have hnone : s.holding t = none := by
      cases stops <;> simp [CommState.holding, hc]
    have hmem : p ∈ {q | s.hPort = some q} ∪ lost := .inl hp
    refine ⟨fun q _ hq => (by cases hq), Function.update owner p (.held t), ?_⟩
    show Heap.Accounts _ s.opened ({q | none = some q} ∪ lost)
      (s.setCall t (.closing p stops)).holding s.closed
    have hrest : ({q | none = some q} ∪ lost : Set PortHandle) =
        ({q | s.hPort = some q} ∪ lost) \ {p} := by
      rw [setOf_none, hp, setOf_some, Set.insert_sdiff_self_of_notMem]
      exact fun hmem => hlost p hmem hp
    rw [hrest, holding_setCall]
    exact hA.take hmem hnone
  | @closes t p stops hc =>
    have hsome : s.holding t = some p := by simp [CommState.holding, hc]
    refine ⟨hlost, Function.update owner p .freed, ?_⟩
    show Heap.Accounts _ s.opened _ (s.setCall t (if stops then .joining else .idle)).holding
      (s.closed ++ [p])
    rw [holding_setCall]
    cases stops <;> exact hA.discard hsome
  | alreadyConnected hc hcon =>
    have hconnected : s.connected = true := (Bool.and_eq_true_iff.1 hcon).1
    rw [if_neg (by simp [CommState.overwrites, hconnected])]
    exact ⟨hlost, owner, hA⟩
  | sendsNothing | cannotStart | alreadyRunning => exact ⟨hlost, owner, hA⟩
  | @notConnected t stops hc hp =>
    refine Accounted.congr ⟨hlost, owner, hA⟩ rfl rfl rfl (holding_setCall_eq ?_ ?_)
    · cases stops <;> simp [CommState.holding, hc]
    · cases stops <;> simp
  | sends hc | sendFails hc | sent hc | marksSend hc | starts hc | cannotCreate hc | stops hc
  | notJoinable hc | joins hc | creates hc =>
    refine Accounted.congr ⟨hlost, owner, hA⟩ rfl rfl rfl (holding_setCall_eq ?_ (by simp))
    simp [CommState.holding, hc]
  | _ => exact Accounted.congr ⟨hlost, owner, hA⟩ rfl rfl rfl rfl

theorem exists_accounted {as : List CommAction}
    (hrun : commManager.run CommState.init as = some s) : ∃ lost, Accounted s lost := by
  refine Machine.run_invariant (M := commManager) (I := fun s => ∃ lost, Accounted s lost) hrun
    ⟨∅, accounted_init⟩ ?_
  rintro u b u' ⟨lost, hu⟩ - hstep
  exact ⟨_, hu.step hstep⟩

/-- **No handle is closed twice**, in any run. -/
theorem never_closed_twice {as : List CommAction}
    (hrun : commManager.run CommState.init as = some s) : s.closed.Nodup := by
  obtain ⟨_, -, _, hA⟩ := exists_accounted hrun
  exact hA.nodup_frees

/-! ### The guarantee -/

theorem Accounted.handlesOwned (h : Accounted s ∅) : HandlesOwned s := by
  obtain ⟨-, owner, hA⟩ := h
  rw [Set.union_empty] at hA
  have hopen : ∀ p < s.opened, p ∉ s.closed →
      (s.hPort = some p ∧ ∀ t, s.holding t ≠ some p) ∨
        (s.hPort ≠ some p ∧ ∃! t, s.holding t = some p) := by
    intro p hp hclosed
    obtain ⟨hport, hheld, -⟩ | ⟨hport, hheld, -⟩ | ⟨-, -, hcount⟩ := hA.exactly_one hp
    · exact .inl ⟨hport, hheld⟩
    · exact .inr ⟨hport, hheld⟩
    · rw [List.count_eq_zero_of_not_mem hclosed] at hcount
      cases hcount
  refine ⟨hopen, hA.nodup_frees, ?_⟩
  intro hnone hidle p hp
  by_contra hclosed
  rcases hopen p hp hclosed with ⟨hport, -⟩ | ⟨-, t, ht, -⟩
  · cases hnone.symm.trans hport
  · cases (hidle t).symm.trans ht

/-- A handle that a step overwrites is nowhere. -/
theorem Accounted.not_handlesOwned (h : Accounted s lost) (ha : s.overwrites a = true)
    (hstep : commManager.step s a = some s') : ¬ HandlesOwned s' := by
  intro howned
  have hnext := h.step hstep
  rw [if_pos ha] at hnext
  obtain ⟨hlost, owner, hA⟩ := hnext
  obtain ⟨p, hp⟩ : ∃ p, s.hPort = some p := by
    cases a <;> simp only [CommState.overwrites, Bool.and_eq_true, reduceCtorEq] at ha
    exact Option.isSome_iff_exists.1 ha.2
  have hmem : p ∈ {q | s.hPort = some q} ∪ lost := .inl hp
  obtain ⟨-, hheld, hcount⟩ | ⟨hnot, -⟩ | ⟨hnot, -⟩ :=
    hA.exactly_one (hA.lt_of_mem (.inr hmem))
  · rcases howned.owned p (hA.lt_of_mem (.inr hmem)) (List.count_eq_zero.1 hcount) with
      ⟨hport, -⟩ | ⟨-, t, ht, -⟩
    · exact hlost p hmem hport
    · exact hheld t ht
  · exact hnot (.inr hmem)
  · exact hnot (.inr hmem)

/-- **Every handle is where it should be** in every state of a run, exactly if no `Connect` of the
run gets past its early return while `m_hPort` is valid. -/
theorem port_handles_owned_iff {as : List CommAction}
    (hrun : commManager.run CommState.init as = some s) :
    commManager.Always CommState.init as HandlesOwned ↔
      commManager.EveryStep CommState.init as fun s a => s.overwrites a = false := by
  constructor
  · intro howned bs b u hb hu
    obtain ⟨lost, haccounted⟩ := exists_accounted hu
    obtain ⟨u', hstep⟩ := Machine.exists_step hrun hb hu
    by_contra hover
    refine haccounted.not_handlesOwned (by simpa using hover) hstep ?_
    refine howned (bs ++ [b]) u' hb ?_
    rw [Machine.run_concat, hu, Option.bind_some, hstep]
  · intro hsteps bs u hbs hu
    have haccounted : Accounted u ∅ := by
      refine (hsteps.of_prefix hbs).invariant (I := fun s => Accounted s ∅) hu accounted_init ?_
      intro v b v' hv hb hstep
      have hnext := hv.step hstep
      rwa [hb] at hnext
    exact haccounted.handlesOwned

/-- A client that connects, disconnects, and connects again. -/
def reconnects : List CommAction :=
  [.connect 0 .sOk, .disconnect 0, .closeHandle 0, .connect 0 .sOk]

theorem port_handles_owned_reconnects :
    commManager.Always CommState.init reconnects HandlesOwned := by
  refine (port_handles_owned_iff (s := _) rfl).2 fun bs b u hb hu => ?_
  have h := Machine.everyStep_of_checkSteps commManager (fun s a => !s.overwrites a)
    CommState.init reconnects (by decide) bs b u hb hu
  simpa using h

/-- A request fails because the pipe is broken; the client connects again, and disconnects. -/
def connectsAfterError : List CommAction :=
  [.connect 0 .sOk, .sendRequest 0, .sendMessage 0 .brokenPipe, .markSend 0, .connect 0 .sOk,
    .disconnect 0, .closeHandle 0]

/-- **A handle is lost for good**: the first handle is still open when the client has disconnected
and no call is in progress. -/
theorem port_handle_lost :
    ∃ s, commManager.run CommState.init connectsAfterError = some s ∧ 0 < s.opened ∧
      0 ∉ s.closed ∧ s.hPort = none ∧ (∀ t, s.calls t = .idle) ∧ ¬ HandlesOwned s := by
  obtain ⟨s, hrun, hopened, hclosed, hport, hidle⟩ :
      ∃ s, commManager.run CommState.init connectsAfterError = some s ∧ 0 < s.opened ∧
        0 ∉ s.closed ∧ s.hPort = none ∧ ∀ t, s.calls t = .idle := by
    refine ⟨_, rfl, by decide, by decide, rfl, ?_⟩
    rintro (_ | t)
    · rfl
    · rfl
  refine ⟨s, hrun, hopened, hclosed, hport, hidle, fun h => ?_⟩
  refine hclosed (h.disconnected hport (fun t => ?_) 0 hopened)
  rw [CommState.holding, hidle t]

end RansomShield
