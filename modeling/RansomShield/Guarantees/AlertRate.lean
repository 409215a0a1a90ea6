import RansomShield.Guarantees.Notification
import RansomShield.Guarantees.SequenceNumbers
import RansomShield.Machine.Flags

/-!
# How often a process raises an alarm

A blocked context stays blocked until it is removed, so that between two transitions of a process
from unblocked to blocked its context was removed: transitions and removals alternate on every part
of a run (`transitions_le`).  A message is sent for a transition only, and once
(`messages_le_transitions`, from the ledger `SendLedger` of what the calls have sent).  So the
client gets at most one message about a process more than the process was unblocked.
-/

namespace RansomShield

variable {upcase : UInt16 → UInt16} {s s' : SystemState} {a : Action} {p : UInt32}

/-! ### Transitions -/

/-- The action removes the context of a process. -/
def Action.removes (p : UInt32) : Action → Bool
  | .control (.removeProcessContext q) => q == p
  | _ => false

theorem removes_eq_true : a.removes p = true ↔ a = .control (.removeProcessContext p) := by
  unfold Action.removes
  split
  · simp
  · next h => exact ⟨fun hf => (by cases hf), fun ha => absurd ha (h p)⟩

/-- The transitions of a process along a part of a run. -/
def transitionsFrom (upcase : UInt16 → UInt16) (p : UInt32) (s : SystemState) (as : List Action) :
    List (Option CallId × RsBlockedPidEntry) :=
  (system upcase).outputs (transition p) s as

theorem length_transition (p : UInt32) (s : SystemState) (a : Action) (t : SystemState) :
    (transition p s a t).length = (!s.driver.blocks p && t.driver.blocks p).toNat := by
  by_cases hs : s.driver.blocks p = true
  · rw [transition, if_pos hs, hs]
    rfl
  · rw [transition, if_neg hs, List.length_map, Bool.eq_false_iff.2 hs, Bool.not_false,
      Bool.true_and]
    unfold DriverState.blocks
    cases rsLookupProcessContext t.driver p with
    | none => rfl
    | some ctx => cases hb : ctx.isBlocked <;> simp [hb]

theorem length_transitionsFrom (as : List Action) :
    (transitionsFrom upcase p s as).length =
      (system upcase).rises (fun s => s.driver.blocks p) s as := by
  have hrise : ∀ x y : Bool,
      (!x && y).toNat = (if (y && !x) = true then [()] else []).length := by decide
  induction as generalizing s with
  | nil => rfl
  | cons a as ih =>
    unfold transitionsFrom Machine.rises at ih ⊢
    rw [Machine.outputs, Machine.outputs]
    cases (system upcase).step s a with
    | none => rfl
    | some t =>
      dsimp only
      rw [List.length_append, List.length_append, ih, length_transition, hrise]

/-- **Transitions and removals alternate**, on every part of a run: a process is blocked at most
once more often than its context is removed, and not even that when it was blocked at the start,
or is not blocked in the end. -/
theorem transitions_le (hs : Reachable upcase s) {as : List Action}
    (hrun : (system upcase).run s as = some s') (p : UInt32) :
    (transitionsFrom upcase p s as).length + (s.driver.blocks p).toNat ≤
      as.countP (Action.removes p) + (s'.driver.blocks p).toNat := by
  rw [length_transitionsFrom]
  refine Machine.rises_le (I := Reachable upcase) hs (fun _ _ _ ht hstep => ht.step hstep) ?_ hrun
  intro t b t' ht hstep hblocks hreset
  obtain ⟨ctx, hctx, hb⟩ := (Option.any_eq_true _ _).1 hblocks
  refine (Option.any_eq_true _ _).2 ⟨ctx, context_of_step ht.sound hctx hb ?_ hstep, hb⟩
  rintro rfl
  rw [removes_eq_true.2 rfl] at hreset
  cases hreset

/-! ### Messages -/

/-- A call that has something to notify notifies what `RsRecordOperation` decided. -/
def CallPhase.Notifies : CallPhase → Prop
  | .notifying r n => r.notification = some n
  | .drawing r n _ => r.notification = some n
  | .sending r _ m => ∃ n k, r.notification = some n ∧ m = n.message k
  | _ => True

theorem SectionResult.notifies_phase (p : UInt32) (r : SectionResult) :
    (r.phase p).Notifies := by
  unfold SectionResult.phase
  cases r.result p with
  | none => trivial
  | some result =>
    cases hn : result.notification with
    | none => simp only [hn, CallPhase.Notifies]
    | some n => simp only [hn, CallPhase.Notifies]

theorem notifies_of_callStep {c : CallId} {call : Call} {step : CallStep}
    (hphase : call.phase.Notifies) (h : callStep s c call step = some s') :
    ∃ phase, s'.calls = Function.update s.calls c (some { call with phase := phase }) ∧
      phase.Notifies := by
  unfold callStep at h
  split at h
  · cases h
    exact ⟨_, rfl, SectionResult.notifies_phase _ _⟩
  · cases h
    exact ⟨_, rfl, trivial⟩
  · cases h
    exact ⟨_, rfl, trivial⟩
  · cases h
    exact ⟨_, rfl, SectionResult.notifies_phase _ _⟩
  · next r n hp =>
    rw [hp] at hphase
    split at h
    · cases h
      exact ⟨_, rfl, trivial⟩
    · cases h
      exact ⟨_, rfl, hphase⟩
  · next r n port hp =>
    rw [hp] at hphase
    cases h
    exact ⟨_, rfl, n, s.driver.messageSequence, hphase, rfl⟩
  · cases h
    exact ⟨_, rfl, trivial⟩
  · cases h

/-- Every call notifies what it decided. -/
theorem notifies_of_reachable (h : Reachable upcase s) {c : CallId} {call : Call}
    (hcall : s.calls c = some call) : call.phase.Notifies :=
  phase_of_reachable trivial trivial notifies_of_callStep h hcall

/-- A call hands its message to the port. -/
def sendCall (s : SystemState) (a : Action) (_ : SystemState) :
    List (CallId × RsNotificationBlockedPid) :=
  match a with
  | .advance c .sendMessage => (s.unsent c).toList.map fun m => (c, m)
  | _ => []

/-- The messages that the calls have sent along a run. -/
def sends (upcase : UInt16 → UInt16) (as : List Action) :
    List (CallId × RsNotificationBlockedPid) :=
  (system upcase).outputs sendCall SystemState.init as

theorem sendCall_of_ticket (h : ∀ c, a.ticket ≠ some (.use c)) : sendCall s a s' = [] := by
  cases a with
  | advance c step => cases step <;> first | rfl | exact absurd rfl (h c)
  | pass | track | call | control => rfl

theorem returned_of_step {c : CallId} {call : Call} {r : RecordResult}
    (hcall : s.calls c = some call) (hphase : call.phase = .returned r)
    (h : (system upcase).step s a = some s') : s'.calls c = some call := by
  obtain ⟨d, call', hnew, -, rfl⟩ | ⟨d, step, call', rfl, hcall', hcs⟩ | ⟨k, rfl, rfl⟩ :=
    system_step_cases h
  · have hcd : c ≠ d := by
      rintro rfl
      cases hnew.symm.trans hcall
    rw [SystemState.start_calls, Function.update_of_ne hcd]
    exact hcall
  · have hcd : c ≠ d := by
      rintro rfl
      cases hcall'.symm.trans hcall
      cases step <;> simp [callStep, hphase] at hcs
    obtain ⟨phase, hcalls⟩ := callStep_calls hcs
    rw [hcalls, Function.update_of_ne hcd]
    exact hcall
  · exact hcall

theorem returned_of_sendMessage {c : CallId} (hs : Reachable upcase s)
    (h : (system upcase).step s (.advance c .sendMessage) = some s') :
    ∃ m call r n k, s.unsent c = some m ∧ s'.calls c = some call ∧ call.phase = .returned r ∧
      r.notification = some n ∧ m = n.message k := by
  obtain ⟨call, hcall, hcs⟩ := Option.bind_eq_some_iff.1 h
  have hphase := notifies_of_reachable hs hcall
  have hunsent := SystemState.unsent_of_calls hcall
  cases hp : call.phase with
  | sending r port m =>
    rw [hp] at hphase hunsent
    obtain ⟨n, k, hn, hm⟩ := hphase
    simp only [callStep, hp, Option.some.injEq] at hcs
    subst hcs
    exact ⟨m, _, r, n, k, hunsent, Function.update_self .., rfl, hn, hm⟩
  | _ => simp [callStep, hp] at hcs

/-- The calls have sent the messages of the port, each at its end, and what it decided. -/
structure SendLedger (upcase : UInt16 → UInt16) (as : List Action) (s : SystemState) : Prop where
  sent : (sends upcase as).map Prod.snd = s.sent.map Prod.snd
  returned : ∀ x ∈ sends upcase as, ∃ call r n k, s.calls x.1 = some call ∧
    call.phase = .returned r ∧ r.notification = some n ∧ x.2 = n.message k
  /-- A call sends once. -/
  nodup : ((sends upcase as).map Prod.fst).Nodup

/-- **Every step keeps the ledger.** -/
theorem SendLedger.step {as : List Action} (hl : SendLedger upcase as s)
    (hrun : (system upcase).run SystemState.init as = some s)
    (h : (system upcase).step s a = some s') : SendLedger upcase (as ++ [a]) s' := by
  have hs : Reachable upcase s := ⟨as, hrun⟩
  have hsends : sends upcase (as ++ [a]) = sends upcase as ++ sendCall s a s' :=
    Machine.outputs_concat hrun h
  have hold : ∀ x ∈ sends upcase as, ∃ call r n k, s'.calls x.1 = some call ∧
      call.phase = .returned r ∧ r.notification = some n ∧ x.2 = n.message k := by
    intro x hx
    obtain ⟨call, r, n, k, hcall, hphase, hn⟩ := hl.returned x hx
    exact ⟨call, r, n, k, returned_of_step hcall hphase h, hphase, hn⟩
  have hother : (∀ c, a.ticket ≠ some (.use c)) → s'.sent = s.sent →
      SendLedger upcase (as ++ [a]) s' := by
    intro hticket hsent
    rw [sendCall_of_ticket hticket, List.append_nil] at hsends
    refine ⟨?_, ?_, ?_⟩ <;> rw [hsends]
    · rw [hsent]
      exact hl.sent
    · exact hold
    · exact hl.nodup
  cases numberStep_of_step h with
  | draws _ _ _ _ hsent => exact hother (by simp [Action.ticket]) hsent
  | replies _ _ hsent => exact hother (by simp [Action.ticket]) hsent
  | other hticket _ _ hsent => exact hother (by simp [hticket]) hsent
  | @sends c port m _ hm _ _ hsent =>
    obtain ⟨m', call, r, n, k, hm', hcall, hphase, hn, hmessage⟩ := returned_of_sendMessage hs h
    cases hm.symm.trans hm'
    have hcallSends : sendCall s (.advance c .sendMessage) s' = [(c, m)] := by
      rw [sendCall, hm]
      rfl
    rw [hcallSends] at hsends
    refine ⟨?_, ?_, ?_⟩ <;> rw [hsends]
    · rw [List.map_append, hl.sent, hsent, List.map_append]
      rfl
    · intro x hx
      rcases List.mem_append.1 hx with hx | hx
      · exact hold x hx
      · cases List.mem_singleton.1 hx
        exact ⟨call, r, n, k, hcall, hphase, hn, hmessage⟩
    · refine nodup_map_append hl.nodup le_rfl ?_
      intro x hx y hy hxy
      cases List.mem_singleton.1 hy
      obtain ⟨call', r', -, -, hcall', hphase', -⟩ := hl.returned x hx
      rw [hxy] at hcall'
      rw [SystemState.unsent_of_calls hcall', hphase'] at hm
      cases hm

theorem sendLedger_of_run {as : List Action}
    (hrun : (system upcase).run SystemState.init as = some s) : SendLedger upcase as s :=
  Machine.run_induction (M := system upcase) (I := SendLedger upcase) hrun
    ⟨rfl, fun _ hx => absurd hx List.not_mem_nil, List.nodup_nil⟩
    fun _ _ _ _ _ hu hl hstep => hl.step hu hstep

/-- A message is a notification that a call has decided. -/
theorem exists_message_of_mem_sent {as : List Action}
    (hrun : (system upcase).run SystemState.init as = some s)
    {message : PortHandle × RsNotificationBlockedPid} (hmem : message ∈ s.sent) :
    ∃ (n : BlockNotification) (k : UInt32), message.2 = n.message k := by
  have hledger := sendLedger_of_run hrun
  have hmem' : message.2 ∈ (sends upcase as).map Prod.snd := by
    rw [hledger.sent]
    exact List.mem_map_of_mem hmem
  obtain ⟨x, hx, hmessage⟩ := List.mem_map.1 hmem'
  obtain ⟨-, -, n, k, -, -, -, hn⟩ := hledger.returned x hx
  exact ⟨n, k, hmessage ▸ hn⟩

theorem messages_le_transitions {as : List Action}
    (hrun : (system upcase).run SystemState.init as = some s) (p : UInt32) :
    s.sent.countP (fun m => m.2.processId = p) ≤ (transitions upcase p as).length := by
  have hledger := sendLedger_of_run hrun
  have hcount : s.sent.countP (fun m => m.2.processId = p) =
      ((sends upcase as).filter fun x => x.2.processId = p).length := by
    have hmap := congrArg (List.countP fun m : RsNotificationBlockedPid => m.processId = p)
      hledger.sent
    rw [List.countP_map, List.countP_map] at hmap
    rw [← List.countP_eq_length_filter]
    exact hmap.symm
  have hnodup : (((sends upcase as).filter fun x => x.2.processId = p).map
      fun x => some x.1).Nodup := by
    have hsub := (List.filter_sublist (p := fun x : CallId × RsNotificationBlockedPid =>
      x.2.processId = p) (l := sends upcase as)).map Prod.fst
    have hmap := (hledger.nodup.sublist hsub).map (Option.some_injective _)
    rwa [List.map_map] at hmap
  have hsubset : (((sends upcase as).filter fun x => x.2.processId = p).map fun x => some x.1) ⊆
      (transitions upcase p as).map Prod.fst := by
    intro y hy
    obtain ⟨x, hx, rfl⟩ := List.mem_map.1 hy
    obtain ⟨hx, hp⟩ := List.mem_filter.1 hx
    obtain ⟨call, r, n, k, hcall, hphase, hn, hmessage⟩ := hledger.returned x hx
    have hresult : s.result x.1 = some r := by
      rw [SystemState.result, hcall, Option.bind_some, hphase]
      rfl
    have hpn : n.processId = p := by
      rw [hmessage] at hp
      exact of_decide_eq_true hp
    have hmem := ((notificationLedger_of_run hrun p).mem_transitions (some x.1, n.entry)).2
      ⟨x.1, r, n, hresult, hn, hpn, rfl⟩
    exact List.mem_map_of_mem hmem
  have hle := (List.subperm_of_subset hnodup hsubset).length_le
  rwa [List.length_map, List.length_map, ← hcount] at hle

theorem messages_le_removals {as : List Action}
    (hrun : (system upcase).run SystemState.init as = some s) (p : UInt32) :
    s.sent.countP (fun m => m.2.processId = p) ≤
      as.countP (Action.removes p) + (s.driver.blocks p).toNat := by
  have hle := transitions_le (s := SystemState.init) ⟨[], rfl⟩ hrun p
  have hinit : SystemState.init.driver.blocks p = false := rfl
  rw [hinit] at hle
  exact (messages_le_transitions hrun p).trans hle

/-! ### Main result -/

/-- **The alarms about a process are bounded by its blocks, and these by its removals**, in every
interleaving: on every part of a run it is blocked at most once more often than its context is
removed; and the clients are sent no more messages about it than it was blocked. -/
theorem alarms_bounded_by_removals (upcase : UInt16 → UInt16) (as : List Action)
    (s : SystemState) (hrun : (system upcase).run SystemState.init as = some s) (p : UInt32) :
    (∀ bs cs u, as = bs ++ cs → (system upcase).run SystemState.init bs = some u →
      (transitionsFrom upcase p u cs).length + (u.driver.blocks p).toNat ≤
        cs.countP (Action.removes p) + (s.driver.blocks p).toNat) ∧
      s.sent.countP (fun m => m.2.processId = p) ≤ (transitions upcase p as).length ∧
      s.sent.countP (fun m => m.2.processId = p) ≤
        as.countP (Action.removes p) + (s.driver.blocks p).toNat := by
  refine ⟨?_, messages_le_transitions hrun p, messages_le_removals hrun p⟩
  rintro bs cs u rfl hu
  rw [Machine.run_append, hu] at hrun
  exact transitions_le ⟨bs, hu⟩ hrun p

/-- A process that was never unblocked, is blocked once and raises one alarm. -/
theorem alarms_bounded_by_removals_overtaking :
    ∃ s, (system id).run SystemState.init overtaking = some s ∧
      s.sent.countP (fun m => m.2.processId = 8) = 1 ∧
      s.sent.countP (fun m => m.2.processId = 8) ≤ (transitions id 8 overtaking).length ∧
      s.sent.countP (fun m => m.2.processId = 8) ≤
        overtaking.countP (Action.removes 8) + (s.driver.blocks 8).toNat := by
  obtain ⟨s, hrun, h⟩ := Machine.exists_of_any (system id)
    (fun s => decide (s.sent.countP (fun m => m.2.processId = 8) = 1)) SystemState.init overtaking
    (by decide +kernel)
  exact ⟨s, hrun, of_decide_eq_true h, (alarms_bounded_by_removals id overtaking s hrun 8).2⟩

end RansomShield
