import RansomShield.Client.Daemon
import RansomShield.Guarantees.Listening
import RansomShield.Guarantees.PortHandles

/-!
# The daemon and its listener

The tray agent connects again without having stopped its listener, and loses a handle and the
listener with it.  The daemon does not: it calls `Connect` and `StartListener` only behind
`StopListener` and `Disconnect`, or at first.  So it never overwrites a handle and never finds
`m_listenerRunning` set (`daemon_owns_handles`); and once it has started its listener, it listens
until a system call fails (`daemon_listens`).

`DaemonPhase.Fits` is what holds of the `CommManager` while the daemon is in a phase; each phase has
a lemma about its steps, and `Fits.call` is all of them.
-/

namespace RansomShield

variable {s s' : CommState} {a : CommAction} {phase phase' : DaemonPhase}

/-! ### Phases -/

/-- No listener is wanted, and none can be joined. -/
def CommState.Off (s : CommState) : Prop := s.listenerRunning = false ∧ s.listenerThread = none

/-- The thread is in no call, or in `SendRequest`. -/
def CallState.requests : CallState → Bool
  | .idle => true
  | .sending _ => true
  | .sendFailed _ => true
  | _ => false

/-- What holds of the `CommManager` while the daemon is in a phase. -/
def DaemonPhase.Fits (s : CommState) : DaemonPhase → Prop
  | .connecting _ | .reconnecting | .returned _ => s.calls 0 = .idle ∧ s.Off ∧ s.hPort = none
  | .pushing _ => (s.calls 0).requests = true ∧ s.Off
  | .starting _ =>
    (s.calls 0 = .starting ∨ s.calls 0 = .idle ∧ s.listenerRunning = false) ∧
      s.listenerThread = none
  | .polling _ => s.calls 0 = .idle
  | .checking => (s.calls 0).requests = true
  | .stopping _ => s.calls 0 = .idle ∨ (s.calls 0).stops = true ∧ s.listenerRunning = false
  | .disconnecting _ =>
    s.Off ∧ (s.calls 0 = .idle ∨ ∃ p, s.calls 0 = .closing p false ∧ s.hPort = none)

theorem next_of_listener (ha : a.caller = none) (s : CommState) (phase : DaemonPhase) :
    phase.next s a = some phase := if_pos ha

theorem next_of_caller (ha : a.caller = some 0) (s : CommState) (phase : DaemonPhase) :
    phase.next s a = phase.afterCall s a := by
  rw [DaemonPhase.next, ha, if_neg (by simp), if_pos rfl]

theorem caller_of_next (h : phase.next s a = some phase') :
    ∀ t, a.caller = some t → t = 0 := by
  intro t ht
  rw [DaemonPhase.next, ht, if_neg (by simp)] at h
  split_ifs at h with heq
  exact Option.some.inj heq

theorem afterCall_of_next (h : phase.next s a = some phase') (ha : a.caller ≠ none) :
    a.caller = some 0 ∧ phase.afterCall s a = some phase' := by
  obtain ⟨t, ht⟩ := Option.ne_none_iff_exists'.1 ha
  obtain rfl := caller_of_next h t ht
  exact ⟨ht, next_of_caller ht s phase ▸ h⟩

theorem listener_frame (ha : a.caller = none) (hstep : commManager.step s a = some s') :
    s'.calls = s.calls ∧ s'.hPort = s.hPort ∧ s'.listenerThread = s.listenerThread ∧
      (s.listenerRunning = false → s'.listenerRunning = false) := by
  cases commStep_of_step hstep <;>
    first | exact ⟨rfl, rfl, rfl, id⟩ | exact ⟨rfl, rfl, rfl, fun _ => rfl⟩ | cases ha

theorem Fits.listener (h : phase.Fits s) (ha : a.caller = none)
    (hstep : commManager.step s a = some s') : phase.Fits s' := by
  obtain ⟨hcalls, hport, hthread, hrun⟩ := listener_frame ha hstep
  cases phase <;> simp only [DaemonPhase.Fits, CommState.Off, hcalls, hport, hthread] at h ⊢ <;>
    grind

theorem fits_goal {goal : DaemonGoal} (hidle : s.calls 0 = .idle) (hoff : s.Off)
    (hport : s.hPort = none) : goal.phase.Fits s := by
  cases goal with
  | reconnect | destroy => exact ⟨hidle, hoff, hport⟩
  | leave => exact .inl hidle

theorem fits_polling {n : ℕ} (hidle : s.calls 0 = .idle) : (DaemonPhase.polling n).Fits s := hidle

theorem fits_stopping {goal : DaemonGoal} (hidle : s.calls 0 = .idle) :
    (DaemonPhase.stopping goal).Fits s := .inl hidle

theorem fits_connect {hr : HResult} {opened failed : DaemonPhase} (hidle : s.calls 0 = .idle)
    (hoff : s.Off) (hport : s.hPort = none) (hstep : CommStep s (.connect 0 hr) s')
    (hopened : ∀ u : CommState, u.calls 0 = .idle → u.Off → opened.Fits u)
    (hfailed : ∀ u : CommState, u.calls 0 = .idle → u.Off → u.hPort = none → failed.Fits u) :
    (if s.isConnected || !hr.failed then opened else failed).Fits s' := by
  have hcon : s.isConnected = false := by simp [CommState.isConnected, hport]
  cases hstep with
  | alreadyConnected _ hcon' => cases hcon.symm.trans hcon'
  | connectFails _ _ hfail =>
    rw [hcon, hfail, Bool.not_true, Bool.or_false, if_neg Bool.false_ne_true]
    exact hfailed _ hidle hoff rfl
  | connectOpens _ _ hok =>
    rw [hok, Bool.not_false, Bool.or_true, if_pos rfl]
    exact hopened _ hidle hoff

/-- `SendRequest` sends, or returns at once. -/
theorem sendRequest_cases (hstep : CommStep s (.sendRequest 0) s') :
    (s.isConnected = true ∧ (s'.calls 0).requests = true ∧ (s.Off → s'.Off)) ∨
      (s.isConnected = false ∧ s.calls 0 = .idle ∧ s' = s) := by
  cases hstep with
  | sends _ hp hcon => exact .inl ⟨by simp [CommState.isConnected, hp, hcon], rfl, id⟩
  | sendsNothing hc hcon => exact .inr ⟨hcon, hc, rfl⟩

/-- `FilterSendMessage` returns; only the error of a closed port is looked at again. -/
theorem sendMessage_cases {hr : HResult} (hstep : CommStep s (.sendMessage 0 hr) s') :
    (s.Off → s'.Off) ∧
      (hr.isDisconnect = true ∧ (s'.calls 0).requests = true ∨
        hr.isDisconnect = false ∧ s'.calls 0 = .idle) := by
  cases hstep with
  | sendFails _ hdis => exact ⟨id, .inl ⟨hdis, rfl⟩⟩
  | sent _ hdis => exact ⟨id, .inr ⟨hdis, rfl⟩⟩

theorem markSend_idle (hstep : CommStep s (.markSend 0) s') :
    s'.calls 0 = .idle ∧ (s.Off → s'.Off) := by
  cases hstep
  exact ⟨rfl, id⟩

theorem requests_of_idle (h : s.calls 0 = .idle) : (s.calls 0).requests = true := by
  rw [h]
  rfl

theorem fits_starting {first : Bool} (hidle : s.calls 0 = .idle) (hoff : s.Off) :
    (DaemonPhase.starting first).Fits s := ⟨.inr ⟨hidle, hoff.1⟩, hoff.2⟩

theorem stops_eq_true {stops : Bool} {c : CallState} (hc : c = if stops then .stopping else .idle)
    (h : c = .stopping) : stops = true := by
  cases stops with
  | false => cases hc.symm.trans h
  | true => rfl

theorem stops_eq_false {stops : Bool} {c : CallState} (hc : c = if stops then .stopping else .idle)
    (h : c ≠ .stopping) : stops = false := by
  cases stops with
  | false => rfl
  | true => exact absurd hc h

section

variable (ha : a.caller = some 0) (hstep : CommStep s a s')
include ha hstep

theorem Fits.connecting {failures : ℕ} (h : (DaemonPhase.connecting failures).Fits s)
    (hnext : (DaemonPhase.connecting failures).afterCall s a = some phase') : phase'.Fits s' := by
  obtain ⟨hidle, hoff, hport⟩ := h
  dsimp only [DaemonPhase.afterCall] at hnext
  split at hnext
  · cases ha
    cases hnext
    refine fits_connect hidle hoff hport hstep
      (fun u hu hoff' => ⟨requests_of_idle hu, hoff'⟩) ?_
    intro u hu hoff' hport'
    split_ifs
    · exact ⟨hu, hoff', hport'⟩
    · exact fits_stopping hu
  · cases hnext

theorem Fits.reconnecting (h : DaemonPhase.reconnecting.Fits s)
    (hnext : DaemonPhase.reconnecting.afterCall s a = some phase') : phase'.Fits s' := by
  obtain ⟨hidle, hoff, hport⟩ := h
  dsimp only [DaemonPhase.afterCall] at hnext
  split at hnext
  · cases ha
    cases hnext
    exact fits_connect hidle hoff hport hstep
      (fun u hu hoff' => ⟨requests_of_idle hu, hoff'⟩) fun u hu _ _ => fits_polling hu
  · cases hnext

theorem Fits.pushing {first : Bool} (h : (DaemonPhase.pushing first).Fits s)
    (hnext : (DaemonPhase.pushing first).afterCall s a = some phase') : phase'.Fits s' := by
  obtain ⟨-, hoff⟩ := h
  dsimp only [DaemonPhase.afterCall] at hnext
  split at hnext
  · cases ha
    cases hnext
    obtain ⟨hcon, hcall, hoff'⟩ | ⟨hcon, hidle, rfl⟩ := sendRequest_cases hstep
    · rw [hcon, if_pos rfl]
      exact ⟨hcall, hoff' hoff⟩
    · rw [hcon, if_neg Bool.false_ne_true]
      exact fits_starting hidle hoff
  · cases ha
    cases hnext
    obtain ⟨hoff', ⟨hdis, hcall⟩ | ⟨hdis, hidle⟩⟩ := sendMessage_cases hstep
    · rw [hdis, Bool.not_true, Bool.and_false, if_neg Bool.false_ne_true]
      exact ⟨hcall, hoff' hoff⟩
    · split_ifs
      · exact fits_starting hidle (hoff' hoff)
      · exact ⟨requests_of_idle hidle, hoff' hoff⟩
  · cases ha
    cases hnext
    obtain ⟨hidle, hoff'⟩ := markSend_idle hstep
    exact fits_starting hidle (hoff' hoff)
  · cases hnext

theorem Fits.starting {first : Bool} (h : (DaemonPhase.starting first).Fits s)
    (hnext : (DaemonPhase.starting first).afterCall s a = some phase') : phase'.Fits s' := by
  dsimp only [DaemonPhase.afterCall] at hnext
  split at hnext
  · cases ha
    cases hnext
    cases hstep with
    | cannotStart hidle hcon =>
      rw [hcon, Bool.not_false, if_pos rfl]
      split_ifs
      · exact fits_stopping hidle
      · exact fits_polling hidle
    | alreadyRunning hidle hcon hrun =>
      rw [hcon, hrun, Bool.not_true, if_neg Bool.false_ne_true, if_pos rfl]
      exact fits_polling hidle
    | starts hidle hcon hrun =>
      rw [hcon, hrun, Bool.not_true, if_neg Bool.false_ne_true, if_neg Bool.false_ne_true]
      exact ⟨.inl rfl, h.2⟩
  · cases ha
    cases hnext
    have hidle : s'.calls 0 = .idle := by cases hstep <;> rfl
    split_ifs
    · exact fits_polling hidle
    · exact fits_stopping hidle
  · cases hnext

theorem Fits.checking (hnext : DaemonPhase.checking.afterCall s a = some phase') :
    phase'.Fits s' := by
  dsimp only [DaemonPhase.afterCall] at hnext
  split at hnext
  · cases ha
    cases hnext
    obtain ⟨hcon, hcall, -⟩ | ⟨hcon, hidle, rfl⟩ := sendRequest_cases hstep
    · rw [hcon, if_pos rfl]
      exact hcall
    · rw [hcon, if_neg Bool.false_ne_true]
      exact fits_stopping hidle
  · cases ha
    cases hnext
    obtain ⟨-, ⟨hdis, hcall⟩ | ⟨hdis, hidle⟩⟩ := sendMessage_cases hstep
    · rw [HResult.failed_of_isDisconnect hdis, Bool.not_true, if_neg Bool.false_ne_true,
        if_pos hdis]
      exact hcall
    · rw [hdis, if_neg Bool.false_ne_true]
      split_ifs
      · exact fits_polling hidle
      · exact fits_stopping hidle
  · cases ha
    cases hnext
    exact fits_stopping (markSend_idle hstep).1
  · cases hnext

theorem Fits.stopping {goal : DaemonGoal} (h : (DaemonPhase.stopping goal).Fits s)
    (hnext : (DaemonPhase.stopping goal).afterCall s a = some phase') : phase'.Fits s' := by
  -- inside the call, `m_listenerRunning` was reset
  have hinside : s.calls 0 ≠ .idle → (s.calls 0).stops = true ∧ s.listenerRunning = false :=
    fun hne => h.resolve_left hne
  dsimp only [DaemonPhase.afterCall] at hnext
  split at hnext
  · cases ha
    cases hnext
    cases hstep with
    | stops => exact .inr ⟨rfl, rfl⟩
  · split_ifs at hnext with hstopping
    cases ha
    cases hnext
    obtain ⟨-, hrun⟩ := hinside (by simp [hstopping])
    cases hstep with
    | notConnected stops hc =>
      obtain rfl := stops_eq_true hc hstopping
      exact .inr ⟨rfl, hrun⟩
    | disconnects stops hc =>
      obtain rfl := stops_eq_true hc hstopping
      exact .inr ⟨rfl, hrun⟩
  · cases ha
    cases hnext
    cases hstep with
    | @closes t p stops hc =>
      obtain ⟨hstops, hrun⟩ := hinside (by simp [hc])
      rw [hc] at hstops
      obtain rfl : stops = true := hstops
      exact .inr ⟨rfl, hrun⟩
  · cases ha
    cases hnext
    cases hstep with
    | notJoinable hc hthread => exact ⟨⟨(hinside (by simp [hc])).2, hthread⟩, .inl rfl⟩
    | joins hc => exact ⟨⟨(hinside (by simp [hc])).2, rfl⟩, .inl rfl⟩
  · cases hnext

theorem Fits.disconnecting {goal : DaemonGoal} (h : (DaemonPhase.disconnecting goal).Fits s)
    (hnext : (DaemonPhase.disconnecting goal).afterCall s a = some phase') : phase'.Fits s' := by
  obtain ⟨hoff, hcalls⟩ := h
  have hcalled : s.calls 0 ≠ .stopping := by
    rcases hcalls with hidle | ⟨p, hclosing, -⟩
    · simp [hidle]
    · simp [hclosing]
  dsimp only [DaemonPhase.afterCall] at hnext
  split at hnext
  · cases ha
    cases hnext
    cases hstep with
    | notConnected stops hc hport =>
      obtain rfl := stops_eq_false hc hcalled
      rw [hport, Option.isSome_none, if_neg Bool.false_ne_true]
      exact fits_goal rfl hoff hport
    | disconnects stops hc hport =>
      obtain rfl := stops_eq_false hc hcalled
      rw [hport, Option.isSome_some, if_pos rfl]
      exact ⟨hoff, .inr ⟨_, rfl, rfl⟩⟩
  · cases ha
    cases hnext
    cases hstep with
    | closes hc =>
      rcases hcalls with hidle | ⟨p, hclosing, hport⟩
      · cases hidle.symm.trans hc
      · cases hclosing.symm.trans hc
        exact fits_goal rfl hoff hport
  · cases hnext

/-- **A step of the daemon** brings it into the next phase. -/
theorem Fits.call (h : phase.Fits s) (hnext : phase.afterCall s a = some phase') :
    phase'.Fits s' := by
  cases phase with
  | connecting => exact Fits.connecting ha hstep h hnext
  | pushing => exact Fits.pushing ha hstep h hnext
  | starting => exact Fits.starting ha hstep h hnext
  | checking => exact Fits.checking ha hstep hnext
  | stopping => exact Fits.stopping ha hstep h hnext
  | disconnecting => exact Fits.disconnecting ha hstep h hnext
  | reconnecting => exact Fits.reconnecting ha hstep h hnext
  | polling | returned => cases hnext

end

/-! ### Runs -/

/-- What holds in every run of the daemon. -/
structure DaemonInvariant (s : DaemonState) : Prop where
  sole : Sole 0 s.comm
  owned : Accounted s.comm ∅
  fits : s.phase.Fits s.comm

theorem daemonInvariant_init : DaemonInvariant .init where
  sole := sole_init
  owned := accounted_init
  fits := ⟨rfl, ⟨rfl, rfl⟩, rfl⟩

theorem not_overwrites (h : phase.Fits s) (hnext : phase.next s a = some phase') :
    s.overwrites a = false := by
  cases a with
  | connect t hr =>
    obtain rfl := caller_of_next hnext t rfl
    have hport : s.hPort = none := by
      cases phase <;> first | exact h.2.2 | cases hnext
    rw [CommState.overwrites, hport, Option.isSome_none, Bool.and_false]
  | _ => rfl

/-- **Every step keeps the invariant.** -/
theorem DaemonInvariant.step {s s' : DaemonState} {a : DaemonAction} (h : DaemonInvariant s)
    (hstep : daemon.step s a = some s') : DaemonInvariant s' := by
  cases a with
  | comm a =>
    obtain ⟨comm, hcomm, hmap⟩ := Option.bind_eq_some_iff.1 hstep
    obtain ⟨phase, hnext, rfl⟩ := Option.map_eq_some_iff.1 hmap
    refine ⟨h.sole.step (caller_of_next hnext) hcomm, ?_, ?_⟩
    · have howned := h.owned.step hcomm
      rwa [not_overwrites h.fits hnext, if_neg Bool.false_ne_true] at howned
    · by_cases ha : a.caller = none
      · rw [next_of_listener ha] at hnext
        cases hnext
        exact Fits.listener h.fits ha hcomm
      · obtain ⟨hcaller, hafter⟩ := afterCall_of_next hnext ha
        exact Fits.call hcaller (commStep_of_step hcomm) h.fits hafter
  | pushed =>
    simp only [daemon] at hstep
    split at hstep
    · next first hphase hidle =>
      cases hstep
      have hfits := h.fits
      rw [hphase] at hfits
      exact ⟨h.sole, h.owned, .inr ⟨hidle, hfits.2.1⟩, hfits.2.2⟩
    · cases hstep
  | poll =>
    simp only [daemon] at hstep
    split at hstep
    · next pollCounter hphase =>
      cases hstep
      have hidle : s.comm.calls 0 = .idle := by
        have hfits := h.fits
        rwa [hphase] at hfits
      refine ⟨h.sole, h.owned, ?_⟩
      dsimp only
      split_ifs
      · exact .inl hidle
      · show (s.comm.calls 0).requests = true
        rw [hidle]
        rfl
      · exact hidle
    · cases hstep

theorem daemonInvariant_of_run {as : List DaemonAction} {s : DaemonState}
    (hrun : daemon.run .init as = some s) : DaemonInvariant s :=
  Machine.run_invariant hrun daemonInvariant_init fun _ _ _ h _ hstep => h.step hstep

/-- **The daemon owns its handles.**  In every run, with any failures and any steps of the listener
threads: every handle that was returned is `m_hPort`, or about to be closed, or closed once; and
when the process ends, every handle was closed and every listener thread has exited. -/
theorem daemon_owns_handles (as : List DaemonAction) (s : DaemonState)
    (hrun : daemon.run .init as = some s) :
    HandlesOwned s.comm ∧ ∀ code, s.phase = .returned code →
      (∀ p < s.comm.opened, p ∈ s.comm.closed) ∧ s.comm.closed.Nodup ∧
        ∀ i, s.comm.listeners i = .exited := by
  have h := daemonInvariant_of_run hrun
  have howned := h.owned.handlesOwned
  refine ⟨howned, fun code hcode => ?_⟩
  have hfits := h.fits
  rw [hcode] at hfits
  obtain ⟨hidle, hoff, hport⟩ := hfits
  refine ⟨howned.disconnected hport fun t => ?_, howned.once, fun i => h.sole.exited i ?_⟩
  · have hcall : s.comm.calls t = .idle := by
      by_cases ht : t = 0
      · rw [ht, hidle]
      · exact h.sole.idle t ht
    rw [CommState.holding, hcall]
  · rw [hoff.2]
    exact fun hi => by cases hi

/-! ### Listening -/

/-- A system call fails. -/
def CommAction.Fails : CommAction → Prop
  | .sendMessage _ hr | .getMessage _ hr => hr.failed = true
  | .createThread _ succeeds | .allocateBuffer _ succeeds => succeeds = false
  | _ => False

/-- A system call fails. -/
def DaemonAction.Fails : DaemonAction → Prop
  | .comm a => a.Fails
  | _ => False

/-- The daemon is in its loop. -/
def DaemonPhase.inLoop : DaemonPhase → Bool
  | .polling _ => true
  | .checking => true
  | _ => false

theorem not_disturbs (hloop : phase.inLoop = true) (hnext : phase.next s a = some phase')
    (hno : ¬ a.Fails) : ¬ Disturbs a := by
  cases a with
  | disconnect t | stopListener t =>
    obtain rfl := caller_of_next hnext t rfl
    cases phase <;> first | (cases hloop; done) | cases hnext
  | sendMessage | getMessage | createThread | allocateBuffer => exact hno
  | _ => exact id

theorem inLoop_next (h : Listening 0 s) (hloop : phase.inLoop = true)
    (hnext : phase.next s a = some phase') (hno : ¬ a.Fails)
    (hstep : commManager.step s a = some s') : phase'.inLoop = true := by
  by_cases ha : a.caller = none
  · rw [next_of_listener ha] at hnext
    cases hnext
    exact hloop
  · cases phase with
    | polling pollCounter =>
      cases a with
      | connect t | disconnect t | closeHandle t | sendRequest t | sendMessage t | markSend t
      | startListener t | createThread t | stopListener t | join t =>
        obtain rfl := caller_of_next hnext t rfl
        cases hnext
      | _ => exact absurd rfl ha
    | checking =>
      cases a with
      | sendRequest t =>
        obtain rfl := caller_of_next hnext t rfl
        dsimp only [DaemonPhase.next, DaemonPhase.afterCall] at hnext
        rw [h.connected] at hnext
        cases hnext
        rfl
      | sendMessage t hr =>
        obtain rfl := caller_of_next hnext t rfl
        have hok : hr.failed = false := by simpa [CommAction.Fails] using hno
        dsimp only [DaemonPhase.next, DaemonPhase.afterCall] at hnext
        rw [hok] at hnext
        cases hnext
        rfl
      | markSend t =>
        obtain rfl := caller_of_next hnext t rfl
        cases commStep_of_step hstep with
        | marksSend hc => exact absurd hc (h.calls_ne (by simp) (by simp))
      | connect t | disconnect t | closeHandle t | startListener t | createThread t
      | stopListener t | join t =>
        obtain rfl := caller_of_next hnext t rfl
        cases hnext
      | _ => exact absurd rfl ha
    | _ => cases hloop

theorem inLoop_of_returnsOk (hok : ReturnsOk s a) (hnext : phase.next s a = some phase') :
    phase'.inLoop = true := by
  cases a with
  | startListener t =>
    obtain rfl := caller_of_next hnext t rfl
    cases phase with
    | starting first =>
      dsimp only [DaemonPhase.next, DaemonPhase.afterCall] at hnext
      rw [hok.1, hok.2] at hnext
      cases hnext
      rfl
    | _ => cases hnext
  | createThread t succeeds =>
    obtain rfl := caller_of_next hnext t rfl
    obtain rfl : succeeds = true := hok
    cases phase with
    | starting first =>
      cases hnext
      rfl
    | _ => cases hnext
  | _ => exact hok.elim

theorem not_startsInVain (h : phase.Fits s) (hnext : phase.next s a = some phase')
    (hstep : commManager.step s a = some s') : s.startsInVain a = false := by
  cases a with
  | startListener t =>
    obtain rfl := caller_of_next hnext t rfl
    have hidle : s.calls 0 = .idle := by
      cases commStep_of_step hstep <;> assumption
    cases phase with
    | starting first =>
      rcases h.1 with hstarting | ⟨-, hrun⟩
      · cases hstarting.symm.trans hidle
      · rw [CommState.startsInVain, hrun, Bool.and_false, Bool.false_and]
    | _ => cases hnext
  | _ => rfl

theorem listening_step {s s' : DaemonState} {a : DaemonAction} (hsole : Sole 0 s.comm)
    (h : Listening 0 s.comm) (hloop : s.phase.inLoop = true) (hno : ¬ a.Fails)
    (hstep : daemon.step s a = some s') :
    Listening 0 s'.comm ∧ s'.phase.inLoop = true := by
  cases a with
  | comm a =>
    obtain ⟨comm, hcomm, hmap⟩ := Option.bind_eq_some_iff.1 hstep
    obtain ⟨phase, hnext, rfl⟩ := Option.map_eq_some_iff.1 hmap
    exact ⟨h.step hsole (caller_of_next hnext) (not_disturbs hloop hnext hno) hcomm,
      inLoop_next h hloop hnext hno hcomm⟩
  | pushed =>
    simp only [daemon] at hstep
    split at hstep
    · next hphase _ =>
      rw [hphase] at hloop
      cases hloop
    · cases hstep
  | poll =>
    simp only [daemon] at hstep
    split at hstep
    · cases hstep
      refine ⟨h, ?_⟩
      dsimp only
      rw [h.connected, Bool.not_true, if_neg Bool.false_ne_true]
      split_ifs <;> rfl
    · cases hstep

/-- **The daemon listens.**  In every run, with any failures and any steps of the listener threads:
the creation of the listener thread never ends the process; and when `StartListener` returns `S_OK`,
then, until a system call fails, a live listener thread is in its loop on `m_hPort`, and the next
notification reaches the callback. -/
theorem daemon_listens (as : List DaemonAction) (s : DaemonState)
    (hrun : daemon.run .init as = some s) :
    (∀ succeeds, s.comm.calls 0 = .starting →
      (daemon.step s (.comm (.createThread 0 succeeds))).isSome = true) ∧
    ∀ b u bs v, daemon.step s (.comm b) = some u → ReturnsOk s.comm b →
      daemon.run u bs = some v → (∀ a ∈ bs, ¬ a.Fails) →
      ∃ i p, v.comm.hPort = some p ∧ (v.comm.listeners i).loopsOn (some p) = true ∧
        Delivers v.comm i p := by
  have h := daemonInvariant_of_run hrun
  refine ⟨fun succeeds hcall => ?_, fun b u bs v hstep hok hrest hno => ?_⟩
  · obtain ⟨first, hphase⟩ : ∃ first, s.phase = .starting first := by
      have hfits := h.fits
      cases hphase : s.phase with
      | starting first => exact ⟨first, rfl⟩
      | _ => simp_all [DaemonPhase.Fits, CallState.requests, CallState.stops]
    have hthread : s.comm.listenerThread = none := by
      have hfits := h.fits
      rw [hphase] at hfits
      exact hfits.2
    cases succeeds <;>
      simp [daemon, commManager, hcall, CommState.createThread, hthread, hphase, DaemonPhase.next,
        CommAction.caller, DaemonPhase.afterCall]
  · obtain ⟨comm, hcomm, hmap⟩ := Option.bind_eq_some_iff.1 hstep
    obtain ⟨phase, hnext, rfl⟩ := Option.map_eq_some_iff.1 hmap
    have hlistening := listening_of_returnsOk h.sole (caller_of_next hnext) hok
      (not_startsInVain h.fits hnext hcomm) hcomm
    have hend : DaemonInvariant v ∧ Listening 0 v.comm ∧ v.phase.inLoop = true := by
      refine Machine.run_invariant (M := daemon) (I := fun v => DaemonInvariant v ∧
        Listening 0 v.comm ∧ v.phase.inLoop = true) hrest
        ⟨h.step hstep, hlistening, inLoop_of_returnsOk hok hnext⟩ ?_
      rintro w a w' ⟨hw, hw', hloop⟩ ha hwstep
      exact ⟨hw.step hwstep, listening_step hw.sole hw' hloop (hno a ha) hwstep⟩
    obtain ⟨-, ⟨-, hcon, hrunning, i, -, hloops⟩, -⟩ := hend
    obtain ⟨p, hp⟩ := Option.isSome_iff_exists.1 (Bool.and_eq_true_iff.1 hcon).2
    exact ⟨i, p, hp, hp ▸ hloops, delivers_of_loopsOn hrunning hp hloops⟩

/-- The daemon connects, starts its listener, and loses the connection. -/
def daemonSession : List DaemonAction :=
  [.comm (.connect 0 .sOk), .pushed, .comm (.startListener 0), .comm (.createThread 0 true),
    .comm (.allocateBuffer 0 true), .comm (.testRunning 0), .comm (.readPort 0),
    .comm (.getMessage 0 .brokenPipe), .comm (.afterGetMessage 0), .comm (.testAgain 0),
    .comm (.markListener 0), .poll]

/-- `StopListener` and `Disconnect`, twice. -/
def daemonShutdown : List DaemonAction :=
  [.comm (.stopListener 0), .comm (.disconnect 0), .comm (.closeHandle 0), .comm (.join 0),
    .comm (.disconnect 0), .comm (.stopListener 0), .comm (.disconnect 0), .comm (.join 0),
    .comm (.disconnect 0)]

theorem daemon_owns_handles_session :
    ∃ s, daemon.run .init (daemonSession ++ daemonShutdown) = some s ∧
      s.phase = .returned 0 ∧ s.comm.opened = 1 ∧ HandlesOwned s.comm ∧
      ∀ p < s.comm.opened, p ∈ s.comm.closed := by
  obtain ⟨s, hrun, h⟩ := Machine.exists_of_any daemon
    (fun s => decide (s.phase = .returned 0) && decide (s.comm.opened = 1)) .init
    (daemonSession ++ daemonShutdown) (by decide)
  rw [Bool.and_eq_true, decide_eq_true_iff, decide_eq_true_iff] at h
  obtain ⟨howned, hreturned⟩ := daemon_owns_handles _ s hrun
  exact ⟨s, hrun, h.1, h.2, howned, (hreturned 0 h.1).1⟩

theorem daemon_listens_session :
    ∃ s u v, daemon.run .init (daemonSession.take 3) = some s ∧
      daemon.step s (.comm (.createThread 0 true)) = some u ∧
      daemon.run u [.comm (.allocateBuffer 0 true), .poll] = some v ∧
      ∃ i p, v.comm.hPort = some p ∧ (v.comm.listeners i).loopsOn (some p) = true ∧
        Delivers v.comm i p := by
  have hrun : daemon.run .init (daemonSession.take 3) = some _ := rfl
  refine ⟨_, _, _, hrun, rfl, rfl, ?_⟩
  refine (daemon_listens _ _ hrun).2 (.createThread 0 true) _
    [.comm (.allocateBuffer 0 true), .poll] _ rfl rfl rfl ?_
  simp [DaemonAction.Fails, CommAction.Fails]

end RansomShield
