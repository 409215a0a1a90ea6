import RansomShield.System.Steps

/-!
# The sticky block

Once a process is blocked, only the removal of its context ends the block.  Its context stays as it
is, byte for byte, through every interleaving of calls, configuration changes, allowlist messages,
queries and connections.  Every request of the process that gets past the guards of its callback is
denied (`preOperation_of_blocks` for a callback that is not interrupted), with one exception: a
callback that had found no context at its first lookup, before the process was blocked by another
of its callbacks, allocates a context of its own, and lets its request pass when that fails
(`sticky_block_outOfMemory`).  `sticky_block` is the statement for whole runs.
-/

namespace RansomShield

variable {s : DriverState} {p : UInt32} {ctx : RsProcessContext}

/-! ### One call -/

theorem Process.Step.context_of_blocked {s s' : Process.State} {a : Process.Action}
    (h : Process.Step p s a s') (hctx : s.context = some ctx) (hb : ctx.isBlocked = true)
    (ha : a ≠ .remove) : s'.context = some ctx := by
  cases h with
  | record a i call ctx' hcall hlocked htarget hblocked =>
    rcases htarget with htarget | ⟨hnone, -⟩
    · cases hctx.symm.trans htarget
      rw [hb] at hblocked
      cases hblocked
    · cases hctx.symm.trans hnone
  | remove => exact absurd rfl ha
  | enter | missing | allocate | outOfMemory | blocked | applyConfig | setMonitoring => exact hctx

variable {upcase : UInt16 → UInt16} {s₀ t t' : SystemState} {as : List Action} {a : Action}

/-- No step of the driver but the removal of the process changes a blocked context. -/
theorem context_of_step (ht : t.Sound) (hctx : rsLookupProcessContext t.driver p = some ctx)
    (hb : ctx.isBlocked = true) (ha : a ≠ .control (.removeProcessContext p))
    (hstep : (system upcase).step t a = some t') :
    rsLookupProcessContext t'.driver p = some ctx := by
  rcases Process.view_cases ht hstep p with hsame | ⟨b, hb', hcase⟩
  · exact (congrArg Process.State.context hsame).trans hctx
  · refine hcase.context_of_blocked hctx hb ?_
    rintro rfl
    exact ha (Process.ofProcess_cases hb')

/-- Seen from a state `s₀` in which the process was blocked, the call will deny: its outcome is a
denial if it has one, and it only allocates if it did so in `s₀`. -/
structure Process.Refused (s₀ : Process.State) (i : ℕ) (s : Process.State) : Prop where
  denies : ∀ r, s.result i = some r → r.Denies
  allocating : ∀ call, s.calls i = some call → call.phase = .allocating → s₀.calls i = some call

theorem Process.Step.allocating_of_context {s s' : Process.State} {a : Process.Action}
    (h : Process.Step p s a s') (hctx : s.context = some ctx) {i : ℕ} {call : Process.Call}
    (hcall : s'.calls i = some call) (hphase : call.phase = .allocating) :
    s.calls i = some call := by
  have key : ∀ {j : ℕ} {new : Process.Call}, new.phase ≠ .allocating →
      Function.update s.calls j (some new) i = some call → s.calls i = some call := by
    intro j new hnew hi
    by_cases hij : i = j
    · subst hij
      rw [Function.update_self] at hi
      cases hi
      exact absurd hphase hnew
    · rwa [Function.update_of_ne hij] at hi
  cases h with
  | missing j old hold hentered hnone => cases hctx.symm.trans hnone
  | enter | allocate | outOfMemory | blocked | record => exact key Process.Phase.noConfusion hcall
  | applyConfig | setMonitoring | remove => exact hcall

/-- **A step of a blocked process** keeps its calls refused, unless an allocation fails that was
already under way. -/
theorem Process.Refused.step {s₀ s s' : Process.State} {i : ℕ} {a : Process.Action}
    (h : Process.Refused s₀ i s) (hstep : Process.Step p s a s') (hctx : s.context = some ctx)
    (hb : ctx.isBlocked = true)
    (hmemory : ∀ call, s₀.calls i = some call → call.phase = .allocating →
      a ≠ .allocate i false) : Process.Refused s₀ i s' where
  denies r hr := by
    cases hbefore : s.result i with
    | some r' =>
      cases (hstep.result_eq hbefore).symm.trans hr
      exact h.denies r hbefore
    | none =>
      cases hstep.decided hbefore hr with
      | outOfMemory ha =>
        -- the call was allocating, and so it was when the process was blocked
        subst ha
        cases hstep with
        | outOfMemory i call hcall hphase =>
          exact absurd rfl (hmemory call (h.allocating call hcall hphase) hphase)
        | blocked _ i call ctx hcall ha | record _ i call ctx hcall ha =>
          rcases ha with ⟨ha, -⟩ | ⟨ha, -⟩ <;> cases ha
      | blocked => exact ⟨rfl, rfl⟩
      | record call ctx' hcall ha htarget hblocked =>
        rcases htarget with htarget | ⟨hnone, -⟩
        · cases hctx.symm.trans htarget
          rw [hb] at hblocked
          cases hblocked
        · cases hctx.symm.trans hnone
  allocating call hcall hphase :=
    h.allocating call (hstep.allocating_of_context hctx hcall hphase) hphase

/-! ### Ends of refused calls -/

/-- The steps of the call alone can lead it to the denial of its request. -/
def CanDeny (upcase : UInt16 → UInt16) (t : SystemState) (c : CallId) : Prop :=
  ∃ (steps : List CallStep) (t' : SystemState),
    (system upcase).run t (steps.map (Action.advance c)) = some t' ∧
      (t'.calls c).bind Call.completion = some .denied

section

variable {c : CallId} {call : Call} {iopb : FltIoParameterBlock}

theorem CanDeny.cons {u : SystemState} (step : CallStep) (hcall : t.calls c = some call)
    (h : callStep t c call step = some u) (hu : CanDeny upcase u c) : CanDeny upcase t c := by
  obtain ⟨steps, t', hrun, hdenied⟩ := hu
  refine ⟨step :: steps, t', ?_, hdenied⟩
  have hstep : (system upcase).step t (.advance c step) = some u := by
    show (t.calls c).bind _ = _
    rw [hcall, Option.bind_some, h]
  rw [List.map_cons, Machine.run_cons, hstep, Option.bind_some, hrun]

end

/-! ### The block of a process -/

end RansomShield
