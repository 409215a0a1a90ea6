import RansomShield.Client.CommManager

/-!
# Whether a listener is listening

`StartListener` returns `S_OK` when `m_listenerRunning` is set, whether or not a listener thread is
still in its loop.  A thread that leaves its loop because of an error does not reset the flag, and
neither does `Disconnect`; so after a reconnect `StartListener` starts no thread
(`listening_in_vain`).  Its `S_OK` means what it says exactly if it does not find the flag set
without a listener in its loop on the current handle (`CommState.startsInVain`,
`listening_after_start_iff`).

All methods are called by one controlling thread; a listener that is undisturbed then stays in its
loop (`Listening.step`), and the next notification reaches the callback (`delivers_of_loopsOn`).
-/

namespace RansomShield

/-- The thread is in `StopListener`, behind the reset of `m_listenerRunning`. -/
def CallState.stops : CallState → Bool
  | .stopping => true
  | .closing _ stops => stops
  | .joining => true
  | _ => false

/-- The listener thread is before its loop or in it, and if it waits, it waits on the handle. -/
def ListenerState.loopsOn (hPort : Option PortHandle) : ListenerState → Bool
  | .starting => true
  | .looping => true
  | .reading => true
  | .waiting p => hPort = some p
  | .returned _ hr => !hr.failed
  | .dispatching => true
  | _ => false

/-- `StartListener` finds `m_listenerRunning` set, and no listener thread on the current handle. -/
def CommState.startsInVain (s : CommState) : CommAction → Bool
  | .startListener _ =>
    s.isConnected && s.listenerRunning &&
      !(s.listenerThread.any fun i => (s.listeners i).loopsOn s.hPort)
  | _ => false

/-- `StartListener` returns `S_OK` with this step. -/
def ReturnsOk (s : CommState) : CommAction → Prop
  | .startListener _ => s.isConnected = true ∧ s.listenerRunning = true
  | .createThread _ succeeds => succeeds = true
  | _ => False

/-- A call of `StopListener` or `Disconnect`, a call that fails, or an allocation that fails. -/
def Disturbs : CommAction → Prop
  | .disconnect _ => True
  | .stopListener _ => True
  | .sendMessage _ hr => hr.failed = true
  | .getMessage _ hr => hr.failed = true
  | .createThread _ succeeds => succeeds = false
  | .allocateBuffer _ succeeds => succeeds = false
  | _ => False

variable {s s' : CommState} {a : CommAction} {t₀ : ThreadId} {i : ListenerId}

/-! ### One controlling thread -/

/-- One thread calls the methods.  All listener threads but the one that can be joined have exited,
and so has that one when `m_listenerRunning` is not set and `StopListener` is not in progress. -/
structure Sole (t₀ : ThreadId) (s : CommState) : Prop where
  idle : ∀ t, t ≠ t₀ → s.calls t = .idle
  exited : ∀ i, s.listenerThread ≠ some i → s.listeners i = .exited
  quiet : s.listenerRunning = false → (s.calls t₀).stops = false → ∀ i, s.listeners i = .exited
  starting : s.calls t₀ = .starting →
    s.listenerRunning = true ∧ s.isConnected = true ∧ ∀ i, s.listeners i = .exited

theorem sole_init : Sole t₀ CommState.init where
  idle _ _ := rfl
  exited _ _ := rfl
  quiet _ _ _ := rfl
  starting h := by cases h

namespace Sole

theorem call {c : CallState} (h : Sole t₀ s) (hcalls : s'.calls = Function.update s.calls t₀ c)
    (hlisteners : s'.listeners = s.listeners)
    (hthread : ∀ i, s'.listenerThread ≠ some i → s.listeners i = .exited)
    (hquiet : s'.listenerRunning = false → c.stops = false → ∀ i, s.listeners i = .exited)
    (hstarting : c = .starting →
      s'.listenerRunning = true ∧ s'.isConnected = true ∧ ∀ i, s.listeners i = .exited) :
    Sole t₀ s' where
  idle t ht := by rw [hcalls, Function.update_of_ne ht, h.idle t ht]
  exited i hi := by rw [hlisteners, hthread i hi]
  quiet hrun hstops := by
    rw [hcalls, Function.update_self] at hstops
    rw [hlisteners]
    exact hquiet hrun hstops
  starting hc := by
    rw [hcalls, Function.update_self] at hc
    rw [hlisteners]
    exact hstarting hc

/-- A listener that has not exited is the one that can be joined, and it is not being replaced. -/
theorem of_live (h : Sole t₀ s) (hi : s.listeners i ≠ .exited) :
    s.listenerThread = some i ∧ s.calls t₀ ≠ .starting ∧
      (s.listenerRunning = true ∨ (s.calls t₀).stops = true) := by
  refine ⟨?_, ?_, ?_⟩
  · by_contra hne
    exact hi (h.exited i hne)
  · intro hc
    exact hi ((h.starting hc).2.2 i)
  · by_contra hno
    simp only [not_or, Bool.not_eq_true] at hno
    exact hi (h.quiet hno.1 hno.2 i)

/-- A live listener goes on.  If `m_listenerRunning` is reset, the listener exits. -/
theorem listen {l : ListenerState} (h : Sole t₀ s) (hi : s.listeners i ≠ .exited)
    (hcalls : s'.calls = s.calls) (hlisteners : s'.listeners = Function.update s.listeners i l)
    (hthread : s'.listenerThread = s.listenerThread)
    (hrun : s'.listenerRunning = s.listenerRunning ∨ l = .exited) : Sole t₀ s' := by
  obtain ⟨hobject, hstart, hlive⟩ := h.of_live hi
  have hother : ∀ j, j ≠ i → s'.listeners j = .exited := by
    intro j hj
    rw [hlisteners, Function.update_of_ne hj]
    refine h.exited j fun hj' => hj ?_
    exact (Option.some.inj (hobject.symm.trans hj')).symm
  refine ⟨?_, ?_, ?_, ?_⟩
  · intro t ht
    rw [hcalls, h.idle t ht]
  · intro j hj
    rw [hthread, hobject] at hj
    exact hother j fun hji => hj (congrArg some hji.symm)
  · intro hstop hstops j
    rw [hcalls] at hstops
    by_cases hj : j = i
    · subst hj
      rw [hlisteners, Function.update_self]
      rcases hrun with hrun | hl
      · rcases hlive with hlive | hlive
        · rw [hrun, hlive] at hstop
          cases hstop
        · rw [hlive] at hstops
          cases hstops
      · exact hl
    · exact hother j hj
  · intro hc
    rw [hcalls] at hc
    exact absurd hc hstart

theorem call_of_stops {c : CallState} (h : Sole t₀ s)
    (hcalls : s'.calls = Function.update s.calls t₀ c) (hlisteners : s'.listeners = s.listeners)
    (hthread : s'.listenerThread = s.listenerThread)
    (hrun : s'.listenerRunning = s.listenerRunning) (hc : c ≠ .starting)
    (hstops : c.stops = false → (s.calls t₀).stops = false) : Sole t₀ s' := by
  refine h.call hcalls hlisteners ?_ ?_ fun hstart => absurd hstart hc
  · rw [hthread]
    exact h.exited
  · rw [hrun]
    exact fun hno hc' => h.quiet hno (hstops hc')

/-- **The listener threads**, while one thread controls them. -/
theorem step (h : Sole t₀ s) (hcaller : ∀ t, a.caller = some t → t = t₀)
    (hstep : commManager.step s a = some s') : Sole t₀ s' := by
  cases commStep_of_step hstep with
  | alreadyConnected | sendsNothing | cannotStart | alreadyRunning => exact h
  | connectFails hc | connectOpens hc =>
    obtain rfl := hcaller _ rfl
    exact ⟨h.idle, h.exited, h.quiet, fun hstart => by cases hc.symm.trans hstart⟩
  | notConnected stops hc | disconnects stops hc =>
    obtain rfl := hcaller _ rfl
    refine h.call_of_stops rfl rfl rfl rfl ?_ ?_
    · cases stops <;> simp
    · rw [hc]
      cases stops <;> simp [CallState.stops]
  | @closes t p stops hc =>
    obtain rfl := hcaller _ rfl
    refine h.call_of_stops rfl rfl rfl rfl ?_ ?_
    · cases stops <;> simp
    · rw [hc]
      cases stops <;> simp [CallState.stops]
  | sends hc | sendFails hc | sent hc | marksSend hc =>
    obtain rfl := hcaller _ rfl
    exact h.call_of_stops rfl rfl rfl rfl (by simp) fun _ => by rw [hc]; rfl
  | starts hc hcon hrun =>
    obtain rfl := hcaller _ rfl
    have hexited := h.quiet hrun (by rw [hc]; rfl)
    exact h.call rfl rfl h.exited (fun hno => by cases hno) fun _ => ⟨rfl, hcon, hexited⟩
  | creates hc hthread =>
    obtain rfl := hcaller _ rfl
    obtain ⟨hrun, -, hexited⟩ := h.starting hc
    refine ⟨?_, ?_, ?_, ?_⟩
    · intro t ht
      exact (Function.update_of_ne ht _ _).trans (h.idle t ht)
    · intro i hi
      have hne : i ≠ s.started := fun he => hi (congrArg some he.symm)
      exact (Function.update_of_ne hne _ _).trans (hexited i)
    · intro hno
      cases hrun.symm.trans hno
    · intro hstart
      cases (Function.update_self _ _ _).symm.trans hstart
  | cannotCreate hc =>
    obtain rfl := hcaller _ rfl
    exact h.call rfl rfl h.exited (fun _ _ => (h.starting hc).2.2) fun hstart => by cases hstart
  | stops hc =>
    obtain rfl := hcaller _ rfl
    exact h.call rfl rfl h.exited (fun _ hno => by cases hno) fun hstart => by cases hstart
  | notJoinable hc hthread =>
    obtain rfl := hcaller _ rfl
    refine h.call rfl rfl h.exited (fun _ _ i => h.exited i ?_) fun hstart => by cases hstart
    rw [hthread]
    exact fun hi => by cases hi
  | @joins t j hc hthread hj =>
    obtain rfl := hcaller _ rfl
    have hexited : ∀ i, s.listeners i = .exited := by
      intro i
      by_cases hi : i = j
      · rw [hi, hj]
      · exact h.exited i fun hi' => hi (Option.some.inj (hthread.symm.trans hi')).symm
    exact h.call rfl rfl (fun i _ => hexited i) (fun _ _ => hexited) fun hstart => by cases hstart
  | outOfMemory hl => exact h.listen (by simp [hl]) rfl rfl rfl (.inr rfl)
  | allocates hl | goesOn hl | leaves hl | reads hl | readsNone hl | gets hl | stopped hl
  | portClosed hl | otherError hl | dispatches hl | unexpected hl | expected hl
  | marksListener hl | calledBack hl => exact h.listen (by simp [hl]) rfl rfl rfl (.inl rfl)

end Sole

/-! ### A listener that is not disturbed -/

/-- A live listener is in its loop on the current handle, the client is connected, and the
controlling thread is in no other call than `SendRequest`. -/
structure Listening (t₀ : ThreadId) (s : CommState) : Prop where
  call : s.calls t₀ = .idle ∨ ∃ p, s.calls t₀ = .sending p
  connected : s.isConnected = true
  running : s.listenerRunning = true
  loops : ∃ i, s.listenerThread = some i ∧ (s.listeners i).loopsOn s.hPort = true

theorem Listening.listen {l : ListenerState} (h : Listening t₀ s)
    (hi : s.listenerThread = some i) (hl : l.loopsOn s.hPort = true) :
    Listening t₀ (s.setListener i l) where
  call := h.call
  connected := h.connected
  running := h.running
  loops := by
    refine ⟨i, hi, ?_⟩
    rw [CommState.setListener_listeners, Function.update_self]
    exact hl

theorem Listening.calls_ne {c : CallState} (h : Listening t₀ s) (hidle : c ≠ .idle)
    (hsending : ∀ p, c ≠ .sending p) : s.calls t₀ ≠ c := by
  intro hc
  rcases h.call with hc' | ⟨p, hc'⟩
  · exact hidle (hc.symm.trans hc')
  · exact hsending p (hc.symm.trans hc')

/-- **A listener that is not disturbed** stays in its loop. -/
theorem Listening.step (h : Listening t₀ s) (hsole : Sole t₀ s)
    (hcaller : ∀ t, a.caller = some t → t = t₀) (hno : ¬ Disturbs a)
    (hstep : commManager.step s a = some s') : Listening t₀ s' := by
  obtain ⟨j, hj, hloops⟩ := h.loops
  -- the only listener that can take a step is the one in the loop
  have hlive : ∀ {i l}, s.listeners i = l → l ≠ .exited → i = j := fun hl hne =>
    Option.some.inj ((hsole.of_live (hl ▸ hne)).1.symm.trans hj)
  cases commStep_of_step hstep with
  | alreadyConnected | sendsNothing | cannotStart | alreadyRunning => exact h
  | connectFails hc hcon | connectOpens hc hcon => cases h.connected.symm.trans hcon
  | notConnected | disconnects | stops => exact absurd trivial hno
  | sends hc =>
    obtain rfl := hcaller _ rfl
    exact ⟨.inr ⟨_, Function.update_self _ _ _⟩, h.connected, h.running, h.loops⟩
  | sendFails hc hdis => exact absurd (HResult.failed_of_isDisconnect hdis) hno
  | sent hc =>
    obtain rfl := hcaller _ rfl
    exact ⟨.inl (Function.update_self _ _ _), h.connected, h.running, h.loops⟩
  | closes hc | marksSend hc | creates hc | cannotCreate hc | notJoinable hc | joins hc =>
    obtain rfl := hcaller _ rfl
    exact absurd hc (h.calls_ne (by simp) (by simp))
  | starts hc hcon hrun => cases h.running.symm.trans hrun
  | outOfMemory => exact absurd rfl hno
  | allocates hl | goesOn hl | calledBack hl =>
    obtain rfl := hlive hl (by simp)
    exact h.listen hj rfl
  | reads hl hp =>
    obtain rfl := hlive hl (by simp)
    exact h.listen hj (decide_eq_true hp)
  | readsNone hl hp =>
    have hcon := h.connected
    rw [CommState.isConnected, hp, Option.isSome_none, Bool.and_false] at hcon
    cases hcon
  | gets hl =>
    obtain rfl := hlive hl (by simp)
    exact h.listen hj (by simpa [ListenerState.loopsOn, Disturbs] using hno)
  | leaves hl hrun | stopped hl hrun | expected hl hrun => cases h.running.symm.trans hrun
  | portClosed hl hrun hdis =>
    obtain rfl := hlive hl (by simp)
    simp [hl, ListenerState.loopsOn, HResult.failed_of_isDisconnect hdis] at hloops
  | otherError hl hrun hfailed =>
    obtain rfl := hlive hl (by simp)
    simp [hl, ListenerState.loopsOn, hfailed] at hloops
  | dispatches hl =>
    obtain rfl := hlive hl (by simp)
    exact h.listen hj rfl
  | unexpected hl | marksListener hl =>
    obtain rfl := hlive hl (by simp)
    simp [hl, ListenerState.loopsOn] at hloops

/-! ### The next notification -/

/-- The listener gets the next notification on the handle and is in the callback with it, after
steps of listener threads only. -/
def Delivers (s : CommState) (i : ListenerId) (p : PortHandle) : Prop :=
  ∃ as u u', commManager.run s as = some u ∧ (∀ a ∈ as, a.caller = none) ∧
    u.listeners i = .waiting p ∧
    commManager.run u [.getMessage i .sOk, .afterGetMessage i] = some u' ∧
    u'.listeners i = .dispatching

theorem delivers_of_waiting {p : PortHandle} (hrun : s.listenerRunning = true)
    (hl : s.listeners i = .waiting p) : Delivers s i p := by
  have hget : commManager.step s (.getMessage i .sOk) =
      some (s.setListener i (.returned p .sOk)) := by
    simp [commManager, hl]
  have hafter : commManager.step (s.setListener i (.returned p .sOk)) (.afterGetMessage i) =
      some ((s.setListener i (.returned p .sOk)).afterGetMessage i p .sOk) := by
    simp [commManager]
  refine ⟨[], s, (s.setListener i (.returned p .sOk)).afterGetMessage i p .sOk, rfl, by simp, hl,
    ?_, ?_⟩
  · rw [Machine.run_cons, hget, Option.bind_some, Machine.run_singleton, hafter]
  · have hok : HResult.sOk.failed = false := by decide
    simp [CommState.afterGetMessage, CommState.setListener, hrun, hok]

theorem delivers_of_step {p : PortHandle} (hstep : commManager.step s a = some s')
    (ha : a.caller = none) (h : Delivers s' i p) : Delivers s i p := by
  obtain ⟨as, u, u', hrun, has, hrest⟩ := h
  refine ⟨a :: as, u, u', ?_, ?_, hrest⟩
  · rw [Machine.run_cons, hstep, Option.bind_some, hrun]
  · rintro b (_ | ⟨_, hb⟩)
    · exact ha
    · exact has b hb

section

variable {p : PortHandle} (hrun : s.listenerRunning = true) (hp : s.hPort = some p)

include hrun hp

theorem delivers_of_reading (hl : s.listeners i = .reading) : Delivers s i p := by
  have hstep : commManager.step s (.readPort i) = some (s.setListener i (.waiting p)) := by
    simp [commManager, hl, CommState.readPort, hp]
  refine delivers_of_step hstep rfl (delivers_of_waiting hrun ?_)
  simp

theorem delivers_of_looping (hl : s.listeners i = .looping) : Delivers s i p := by
  have hstep : commManager.step s (.testRunning i) = some (s.setListener i .reading) := by
    simp [commManager, hl, CommState.testRunning, hrun]
  refine delivers_of_step hstep rfl (delivers_of_reading hrun hp ?_)
  simp

theorem delivers_of_dispatching (hl : s.listeners i = .dispatching) : Delivers s i p := by
  have hstep : commManager.step s (.callback i) = some (s.setListener i .looping) := by
    simp [commManager, hl]
  refine delivers_of_step hstep rfl (delivers_of_looping hrun hp ?_)
  simp

/-- **The next notification reaches the callback.** -/
theorem delivers_of_loopsOn (hl : (s.listeners i).loopsOn s.hPort = true) : Delivers s i p := by
  cases hi : s.listeners i with
  | starting =>
    have hstep : commManager.step s (.allocateBuffer i true) =
        some (s.setListener i .looping) := by
      simp [commManager, hi, CommState.allocateBuffer]
    refine delivers_of_step hstep rfl (delivers_of_looping hrun hp ?_)
    simp
  | looping => exact delivers_of_looping hrun hp hi
  | reading => exact delivers_of_reading hrun hp hi
  | waiting q =>
    rw [hi] at hl
    have hq := of_decide_eq_true hl
    rw [hp, Option.some.injEq] at hq
    exact delivers_of_waiting hrun (hq ▸ hi)
  | returned q hr =>
    rw [hi] at hl
    have hok : hr.failed = false := by simpa [ListenerState.loopsOn] using hl
    have hstep : commManager.step s (.afterGetMessage i) =
        some (s.setListener i .dispatching) := by
      simp [commManager, hi, CommState.afterGetMessage, hrun, hok]
    refine delivers_of_step hstep rfl (delivers_of_dispatching hrun hp ?_)
    simp
  | dispatching => exact delivers_of_dispatching hrun hp hi
  | failed | marking | exited =>
    rw [hi] at hl
    cases hl

end

/-! ### The guarantee -/

theorem listening_of_returnsOk (hsole : Sole t₀ s) (hcaller : ∀ t, a.caller = some t → t = t₀)
    (hok : ReturnsOk s a) (hvain : s.startsInVain a = false)
    (hstep : commManager.step s a = some s') : Listening t₀ s' := by
  cases commStep_of_step hstep with
  | alreadyRunning hc hcon hrun =>
    obtain rfl := hcaller _ rfl
    simp only [CommState.startsInVain, hcon, hrun, Bool.and_self, Bool.true_and,
      Bool.not_eq_false', Option.any_eq_true] at hvain
    exact ⟨.inl hc, hcon, hrun, hvain⟩
  | creates hc hthread =>
    obtain rfl := hcaller _ rfl
    obtain ⟨hrun, hcon, -⟩ := hsole.starting hc
    refine ⟨.inl (Function.update_self _ _ _), hcon, hrun, s.started, rfl, ?_⟩
    simp [ListenerState.loopsOn]
  | cannotStart hc hcon => cases hok.1.symm.trans hcon
  | starts hc hcon hrun => cases hok.2.symm.trans hrun
  | cannotCreate => cases hok
  | _ => exact hok.elim

/-- A listener in the loop when `StartListener` returns was there before, or is new. -/
theorem not_startsInVain_of_loopsOn {p : PortHandle} (hsole : Sole t₀ s)
    (hstep : commManager.step s a = some s') (hp : s'.hPort = some p)
    (hloops : (s'.listeners i).loopsOn (some p) = true) : s.startsInVain a = false := by
  cases commStep_of_step hstep with
  | alreadyRunning =>
    have hlive : s.listeners i ≠ .exited := fun hexited => by
      rw [hexited] at hloops
      cases hloops
    simp [CommState.startsInVain, (hsole.of_live hlive).1, hp, hloops]
  | cannotStart _ hcon => simp [CommState.startsInVain, hcon]
  | starts _ _ hrun => simp [CommState.startsInVain, hrun]
  | _ => rfl

/-- **`StartListener` means listening.**  One thread calls the methods, and `StartListener` returns
`S_OK`.  Then, as long as there is no call of `StopListener` or `Disconnect`, no call fails and the
buffer is allocated, a live listener thread is in its loop, and the next notification on `m_hPort`
reaches the callback: this is so exactly if `StartListener` did not find `m_listenerRunning` set
without a listener on the current handle. -/
theorem listening_after_start_iff {as : List CommAction} {b : CommAction} {u v : CommState}
    (hu : commManager.run CommState.init as = some u) (hstep : commManager.step u b = some v)
    (hcaller : ∀ a ∈ as ++ [b], ∀ t, a.caller = some t → t = t₀) (hok : ReturnsOk u b) :
    (∀ bs s, commManager.run v bs = some s → (∀ a ∈ bs, ∀ t, a.caller = some t → t = t₀) →
      (∀ a ∈ bs, ¬ Disturbs a) →
      ∃ i p, s.hPort = some p ∧ (s.listeners i).loopsOn (some p) = true ∧ Delivers s i p) ↔
    u.startsInVain b = false := by
  have hsole : Sole t₀ u := by
    refine Machine.run_invariant (I := Sole t₀) hu sole_init ?_
    intro w a w' hw ha hstep
    exact hw.step (hcaller a (List.mem_append_left _ ha)) hstep
  have hb := hcaller b (List.mem_append_right _ (List.mem_singleton_self b))
  constructor
  · -- already the state in which `StartListener` returns tells
    intro hlistens
    obtain ⟨i, p, hp, hloops, -⟩ := hlistens [] v rfl (by simp) (by simp)
    exact not_startsInVain_of_loopsOn hsole hstep hp hloops
  · intro hvain bs s hrest hcaller' hno
    have hlistening : Sole t₀ s ∧ Listening t₀ s := by
      refine Machine.run_invariant (I := fun s => Sole t₀ s ∧ Listening t₀ s) hrest
        ⟨hsole.step hb hstep, listening_of_returnsOk hsole hb hok hvain hstep⟩ ?_
      rintro w a w' ⟨hw, hw'⟩ ha hwstep
      exact ⟨hw.step (hcaller' a ha) hwstep, hw'.step hw (hcaller' a ha) (hno a ha) hwstep⟩
    obtain ⟨-, -, hcon, hrunning, i, -, hloops⟩ := hlistening
    obtain ⟨p, hp⟩ := Option.isSome_iff_exists.1 (Bool.and_eq_true_iff.1 hcon).2
    exact ⟨i, p, hp, hp ▸ hloops, delivers_of_loopsOn hrunning hp hloops⟩

/-- The listener goes into `FilterGetMessage`. -/
def listens : List CommAction := [.allocateBuffer 0 true, .testRunning 0, .readPort 0]

theorem listening_after_start_waits :
    ∃ u v s, commManager.run CommState.init [.connect 0 .sOk, .startListener 0] = some u ∧
      commManager.step u (.createThread 0 true) = some v ∧ commManager.run v listens = some s ∧
      s.listeners 0 = .waiting 0 ∧
      ∃ i p, s.hPort = some p ∧ (s.listeners i).loopsOn (some p) = true ∧ Delivers s i p := by
  have hu : commManager.run CommState.init [.connect 0 .sOk, .startListener 0] = some _ := rfl
  have hcaller : ∀ a ∈ [.connect 0 .sOk, .startListener 0] ++ [.createThread 0 true],
      ∀ t, CommAction.caller a = some t → t = 0 := by
    simp [CommAction.caller]
  refine ⟨_, _, _, rfl, rfl, rfl, rfl, ?_⟩
  refine (listening_after_start_iff hu rfl hcaller rfl).2 rfl listens _ rfl ?_ ?_
  · simp [listens, CommAction.caller]
  · simp [listens, Disturbs]

/-- The pipe breaks while the listener waits, so that it leaves its loop; the client connects
again. -/
def reconnectsAfterError : List CommAction :=
  [.connect 0 .sOk, .startListener 0, .createThread 0 true] ++ listens ++
    [.getMessage 0 .brokenPipe, .afterGetMessage 0, .testAgain 0, .markListener 0, .connect 0 .sOk]

/-- **A client that listens in vain**: `StartListener` returns `S_OK`, the client is connected, and
every listener thread has exited. -/
theorem listening_in_vain :
    ∃ u s, commManager.run CommState.init reconnectsAfterError = some u ∧
      ReturnsOk u (.startListener 0) ∧
      commManager.run CommState.init (reconnectsAfterError ++ [.startListener 0]) = some s ∧
      s.isConnected = true ∧ ∀ i, s.listeners i = .exited := by
  refine ⟨_, _, rfl, ⟨rfl, rfl⟩, rfl, rfl, ?_⟩
  rintro (_ | i)
  · rfl
  · rfl

end RansomShield
