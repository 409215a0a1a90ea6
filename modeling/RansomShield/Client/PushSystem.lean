import RansomShield.Client.PushAllowlist
import RansomShield.System.Events

/-!
# A push among other calls

The driver is at work while the allowlist is pushed: callbacks run between the requests of a push,
and between the locked sections of the handler (`pushSystem`).  A request may fail before it reaches
the handler, or after it was handled, and with any result.  Along every run, the allowlist is what
the first control actions of the whole push make of it (`push_progress`).
-/

namespace RansomShield

/-- Where the client is: between two requests, or in a request whose handler has some locked
sections left. -/
inductive PushPhase
  | client (p : ClientProgram)
  | handler (rest : List Control) (next : SendOutcome → ClientProgram)

/-- The state of the driver and of a client that pushes an allowlist. -/
structure PushState where
  system : SystemState
  phase : PushPhase

/-- The steps of the driver and of the client. -/
inductive PushAction
  /-- Another action of the driver. -/
  | other (a : Action)
  /-- The request of the client reaches the handler. -/
  | deliver
  /-- The request fails before it reaches the handler. -/
  | refuse (outcome : SendOutcome)
  /-- The handler performs its next locked section. -/
  | handle
  /-- The handler is done, and the request returns. -/
  | respond (outcome : SendOutcome)

/-- The action leaves the dynamic allowlist alone. -/
def Action.keepsAllowlist : Action → Bool
  | .control .clearDynamicAllowlist => false
  | .control (.addDynamicAllowlistEntry _) => false
  | _ => true

/-- The driver and a client that pushes an allowlist. -/
def pushSystem (upcase : UInt16 → UInt16) : Machine PushState PushAction where
  step s
    | .other a =>
      if a.keepsAllowlist then
        ((system upcase).step s.system a).map fun system => { s with system := system }
      else none
    | .deliver =>
      match s.phase with
      | .client (.request args next) =>
        some { s with
          phase := .handler (messageControls s.system.driver (some args.1) (some args.2)) next }
      | _ => none
    | .refuse outcome =>
      match s.phase with
      | .client (.request _ next) =>
        if outcome.hr.failed then some { s with phase := .client (next outcome) } else none
      | _ => none
    | .handle =>
      match s.phase with
      | .handler (k :: rest) next =>
        ((system upcase).step s.system (.control k)).map fun system =>
          { system := system, phase := .handler rest next }
      | _ => none
    | .respond outcome =>
      match s.phase with
      | .handler [] next => some { s with phase := .client (next outcome) }
      | _ => none

/-- The push is about to begin. -/
def PushState.start (numbers : ℕ → UInt32) (entries : List WString) (s : SystemState) :
    PushState where
  system := s
  phase := .client (pushAllowlist numbers entries)

/-- The control actions of a whole push. -/
def pushControls (numbers : ℕ → UInt32) (entries : List WString) : List Control :=
  (pushMessages numbers entries).flatMap AllowlistMessage.controls

/-! ### Other actions -/

/-- The dynamic allowlists agree. -/
def DriverState.SameAllowlist (s s' : DriverState) : Prop :=
  s.dynamicAllowlist = s'.dynamicAllowlist ∧ s.dynamicAllowlistCount = s'.dynamicAllowlistCount

theorem DriverState.SameAllowlist.of_sameGlobals {s s' : DriverState} (h : s.SameGlobals s') :
    s'.SameAllowlist s := by
  obtain ⟨_, _, rfl⟩ := h
  exact ⟨rfl, rfl⟩

/-- **The other actions leave the dynamic allowlist alone.** -/
theorem sameAllowlist_of_step {upcase : UInt16 → UInt16} {s s' : SystemState} {a : Action}
    (ha : a.keepsAllowlist = true) (hstep : (system upcase).step s a = some s') :
    s'.driver.SameAllowlist s.driver := by
  obtain ⟨c, call, -, -, rfl⟩ | ⟨c, step, call, rfl, -, hcs⟩ | ⟨k, rfl, rfl⟩ :=
    system_step_cases hstep
  · exact ⟨rfl, rfl⟩
  · obtain ⟨-, -, rfl⟩ | ⟨newContext, -, -, rfl⟩ | ⟨phase, driver', _, hdriver, -, rfl⟩ :=
      callStep_cases hcs
    · exact .of_sameGlobals (sameGlobals_recordFirstSection ..)
    · exact .of_sameGlobals (sameGlobals_recordSecondSection ..)
    · rcases hdriver with rfl | rfl
      · exact ⟨rfl, rfl⟩
      · exact ⟨rfl, rfl⟩
  · cases k with
    | clearDynamicAllowlist | addDynamicAllowlistEntry => cases ha
    | removeProcessContext p => exact .of_sameGlobals (sameGlobals_removeProcessContext _ p)
    | applyConfig | setMonitoring | drawSequence | getBlockedPids | getPidCounts | connect
    | disconnect => exact ⟨rfl, rfl⟩

/-! ### The progress of a push -/

/-- The allowlist is the old one, or what the control actions performed so far have made of it. -/
def Tracks (old : DriverState) (performed : List Control) (s : DriverState) : Prop :=
  (performed = [] ∧ s.SameAllowlist old) ∨
    (performed ≠ [] ∧ s.Holds (exec Control.changeNames [] performed))

/-- Some request of the push did not go well. -/
def Failed (as : List PushAction) : Prop :=
  (∃ outcome, .refuse outcome ∈ as) ∨ ∃ outcome, .respond outcome ∈ as ∧ ¬ outcome.Ok

/-- The client goes on with the requests of the messages, or it has given up. -/
def PushPhase.Remaining (as : List PushAction) (rest : List Control) : PushPhase → Prop
  | .client p =>
    (∃ ms, p.Sends ms ∧ rest = ms.flatMap AllowlistMessage.controls) ∨ p.IsDone ∧ Failed as
  | .handler ks next =>
    ∃ ms, rest = ks ++ ms.flatMap AllowlistMessage.controls ∧ ∀ outcome,
      ((next outcome).Sends ms ∨ (next outcome).IsDone ∧ ¬ outcome.Ok) ∧
        (outcome.Fails → (next outcome).IsDone)

/-- How far the push has come. -/
def Progress (old : DriverState) (total : List Control) (as : List PushAction) (s : PushState) :
    Prop :=
  ∃ performed rest, performed ++ rest = total ∧ Tracks old performed s.system.driver ∧
    s.phase.Remaining as rest

variable {old : DriverState} {performed rest : List Control} {s s' : DriverState}

theorem Tracks.congr (h : Tracks old performed s) (hsame : s'.SameAllowlist s) :
    Tracks old performed s' := by
  rcases h with ⟨hnil, hold⟩ | ⟨hne, hholds⟩
  · exact .inl ⟨hnil, hsame.1.trans hold.1, hsame.2.trans hold.2⟩
  · exact .inr ⟨hne, hholds.congr hsame.1 hsame.2⟩

theorem pushControls_eq (numbers : ℕ → UInt32) (entries : List WString) :
    pushControls numbers entries = [.clearDynamicAllowlist, .drawSequence] ++
      (pushMessages numbers entries).tail.flatMap AllowlistMessage.controls := by
  rw [pushControls]
  show (clearMessage (numbers 0)).controls ++ _ = _
  rw [AllowlistMessage.controls, clearMessage, (isRequest_clear _).type]
  rfl

/-- **A locked section of the handler** is the next control action of the push. -/
theorem Tracks.handle {numbers : ℕ → UInt32} {entries : List WString} {k : Control}
    (h : Tracks old performed s)
    (htotal : performed ++ k :: rest = pushControls numbers entries) :
    Tracks old (performed ++ [k]) (k.apply s) := by
  refine .inr ⟨by simp, ?_⟩
  rw [exec_concat]
  rcases h with ⟨rfl, -⟩ | ⟨-, hholds⟩
  · -- the first one clears the allowlist
    rw [pushControls_eq, List.nil_append] at htotal
    obtain ⟨rfl, -⟩ := List.cons.inj htotal
    exact holds_clear s
  · have hmem : k ∈ pushControls numbers entries := by
      rw [← htotal]
      simp
    obtain ⟨m, -, hk⟩ := List.mem_flatMap.1 hmem
    exact hholds.apply (m.fits_of_mem_controls hk)

theorem Failed.mono {as bs : List PushAction} (h : Failed as) : Failed (as ++ bs) := by
  rcases h with ⟨outcome, hmem⟩ | ⟨outcome, hmem, hbad⟩
  · exact .inl ⟨outcome, List.mem_append_left _ hmem⟩
  · exact .inr ⟨outcome, List.mem_append_left _ hmem, hbad⟩

theorem PushPhase.Remaining.mono {as bs : List PushAction} {phase : PushPhase}
    (h : phase.Remaining as rest) : phase.Remaining (as ++ bs) rest := by
  cases phase with
  | client p =>
    rcases h with h | ⟨hdone, hfailed⟩
    · exact .inl h
    · exact .inr ⟨hdone, hfailed.mono⟩
  | handler ks next => exact h

theorem sends_request {ms : List AllowlistMessage} {args : SendArguments}
    {next : SendOutcome → ClientProgram}
    (h : ClientProgram.Sends ms (.request args next)) :
    ∃ m ms', ms = m :: ms' ∧ args = m.arguments ∧ ∀ outcome,
      ((next outcome).Sends ms' ∨ (next outcome).IsDone ∧ ¬ outcome.Ok) ∧
        (outcome.Fails → (next outcome).IsDone) := by
  obtain ⟨rest, hms, hnext⟩ := Program.Follows.request h
  obtain ⟨m, ms', rfl, hm, rfl⟩ := List.map_eq_cons_iff.1 hms
  exact ⟨m, ms', rfl, hm.symm, hnext⟩

variable {upcase : UInt16 → UInt16} {numbers : ℕ → UInt32} {entries : List WString}

/-- **Every step** makes progress with the push or leaves the allowlist alone. -/
theorem Progress.step {as : List PushAction} {a : PushAction} {u u' : PushState}
    (h : Progress old (pushControls numbers entries) as u)
    (hstep : (pushSystem upcase).step u a = some u') :
    Progress old (pushControls numbers entries) (as ++ [a]) u' := by
  obtain ⟨performed, rest, htotal, htracks, hremaining⟩ := h
  cases a with
  | other a =>
    simp only [pushSystem, Option.ite_none_right_eq_some, Option.map_eq_some_iff] at hstep
    obtain ⟨ha, system, hsystem, rfl⟩ := hstep
    exact ⟨performed, rest, htotal, htracks.congr (sameAllowlist_of_step ha hsystem),
      hremaining.mono⟩
  | deliver =>
    simp only [pushSystem] at hstep
    split at hstep
    · next args next hphase =>
      cases hstep
      rw [hphase] at hremaining
      rcases hremaining with ⟨ms, hsends, rfl⟩ | ⟨hdone, -⟩
      · obtain ⟨m, ms', rfl, rfl, hnext⟩ := sends_request hsends
        refine ⟨performed, _, htotal, htracks, ms', ?_, hnext⟩
        rw [List.flatMap_cons, AllowlistMessage.arguments, m.messageControls_eq]
      · exact hdone.elim
    · cases hstep
  | refuse outcome =>
    simp only [pushSystem] at hstep
    split at hstep
    · next args next hphase =>
      simp only [Option.ite_none_right_eq_some, Option.some.injEq] at hstep
      obtain ⟨hfailed, rfl⟩ := hstep
      rw [hphase] at hremaining
      rcases hremaining with ⟨ms, hsends, rfl⟩ | ⟨hdone, -⟩
      · obtain ⟨m, ms', rfl, rfl, hnext⟩ := sends_request hsends
        refine ⟨performed, _, htotal, htracks, .inr ⟨(hnext outcome).2 hfailed, .inl ⟨outcome, ?_⟩⟩⟩
        simp
      · exact hdone.elim
    · cases hstep
  | handle =>
    simp only [pushSystem] at hstep
    split at hstep
    · next k ks next hphase =>
      obtain ⟨system, hsystem, rfl⟩ := Option.map_eq_some_iff.1 hstep
      obtain rfl := Option.some.inj hsystem
      rw [hphase] at hremaining
      obtain ⟨ms, rfl, hnext⟩ := hremaining
      refine ⟨performed ++ [k], ks ++ ms.flatMap AllowlistMessage.controls, ?_,
        htracks.handle htotal, ms, rfl, hnext⟩
      rw [← htotal, List.append_assoc]
      rfl
    · cases hstep
  | respond outcome =>
    simp only [pushSystem] at hstep
    split at hstep
    · next next hphase =>
      cases hstep
      rw [hphase] at hremaining
      obtain ⟨ms, rfl, hnext⟩ := hremaining
      refine ⟨performed, _, htotal, htracks, ?_⟩
      rcases (hnext outcome).1 with hsends | ⟨hdone, hbad⟩
      · exact .inl ⟨ms, hsends, rfl⟩
      · exact .inr ⟨hdone, .inr ⟨outcome, by simp, hbad⟩⟩
    · cases hstep

/-- **The progress of a push** along every run. -/
theorem push_progress {s₀ : SystemState} {as : List PushAction} {t : PushState}
    (hrun : (pushSystem upcase).run (PushState.start numbers entries s₀) as = some t) :
    Progress s₀.driver (pushControls numbers entries) as t := by
  refine Machine.run_induction (M := pushSystem upcase)
    (I := Progress s₀.driver (pushControls numbers entries)) hrun ?_ ?_
  · exact ⟨[], _, rfl, .inl ⟨rfl, rfl, rfl⟩, .inl ⟨_, pushAllowlist_sends numbers entries, rfl⟩⟩
  · intro bs b u u' _ _ ih hstep
    exact ih.step hstep

end RansomShield
