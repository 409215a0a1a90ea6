import RansomShield.Client.CommManager

/-!
# Errors of an earlier connection

`SendRequest` and the listener read `m_hPort` under the lock, wait outside of it, and reset
`m_connected` under the lock again when they have got an error.  In between, the client may have
disconnected and connected again; nothing compares the handle of the error with `m_hPort`, and an
error on an earlier handle marks a new connection as disconnected (`connection_poisoned`).

Without steps that connect while an error is pending, or take up an error on another handle
(`Stale`), pending errors are errors on the current handle (`Current.step`), and `m_connected` is
reset by `Disconnect` or for such an error (`disconnects_justified`).
-/

namespace RansomShield

/-- The handle of the error for which `SendRequest` is about to reset `m_connected`. -/
def CallState.error : CallState → Option PortHandle
  | .sendFailed p => some p
  | _ => none

/-- The handle of the error for which the listener is about to reset `m_connected`. -/
def ListenerState.error : ListenerState → Option PortHandle
  | .marking p => some p
  | _ => none

/-- A thread is about to reset `m_connected` for an error on the handle. -/
def Pending (s : CommState) (p : PortHandle) : Prop :=
  (∃ t, (s.calls t).error = some p) ∨ ∃ i, (s.listeners i).error = some p

/-- The step opens a connection while an error is pending, or it takes up an error on a handle that
is not the current one while the client is connected: a request has failed, or a listener finds
`m_listenerRunning` still set. -/
def Stale (s : CommState) : CommAction → Prop
  | .connect _ hr => s.isConnected = false ∧ hr.failed = false ∧ ∃ p, Pending s p
  | .sendMessage t hr =>
    ∃ p, s.calls t = .sending p ∧ hr.isDisconnect = true ∧ s.connected = true ∧ s.hPort ≠ some p
  | .testAgain i =>
    ∃ p, s.listeners i = .failed p ∧ s.listenerRunning = true ∧ s.connected = true ∧
      s.hPort ≠ some p
  | _ => False

/-- The step resets `m_connected` as it should: in `Disconnect`, or for an error on the handle that
is `m_hPort`. -/
def Justified (s : CommState) : CommAction → Prop
  | .disconnect _ => True
  | .markSend t => ∃ p, s.calls t = .sendFailed p ∧ s.hPort = some p
  | .markListener i => ∃ p, s.listeners i = .marking p ∧ s.hPort = some p
  | _ => False

/-- Pending errors are errors on the current handle, as long as the client is connected. -/
structure Current (s : CommState) : Prop where
  hPort : s.connected = true → s.hPort.isSome = true
  pending : ∀ p, Pending s p → s.connected = true → s.hPort = some p

variable {s s' : CommState} {a : CommAction} {p : PortHandle}

theorem pending_setCall {t : ThreadId} {c : CallState} (h : Pending (s.setCall t c) p) :
    c.error = some p ∨ Pending s p := by
  rcases h with ⟨u, hu⟩ | h
  · by_cases htu : u = t
    · subst htu
      rw [CommState.setCall_calls, Function.update_self] at hu
      exact .inl hu
    · rw [CommState.setCall_calls, Function.update_of_ne htu] at hu
      exact .inr (.inl ⟨u, hu⟩)
  · exact .inr (.inr h)

theorem pending_setListener {i : ListenerId} {l : ListenerState}
    (h : Pending (s.setListener i l) p) : l.error = some p ∨ Pending s p := by
  rcases h with h | ⟨j, hj⟩
  · exact .inr (.inl h)
  · by_cases hij : j = i
    · subst hij
      rw [CommState.setListener_listeners, Function.update_self] at hj
      exact .inl hj
    · rw [CommState.setListener_listeners, Function.update_of_ne hij] at hj
      exact .inr (.inr ⟨j, hj⟩)

theorem current_init : Current CommState.init where
  hPort h := by cases h
  pending p h := by
    rcases h with ⟨t, ht⟩ | ⟨i, hi⟩
    · cases ht
    · cases hi

theorem Current.setCall {t : ThreadId} {c : CallState} (h : Current s)
    (hc : ∀ p, c.error = some p → s.connected = true → s.hPort = some p) :
    Current (s.setCall t c) where
  hPort := h.hPort
  pending p hp hcon := by
    rcases pending_setCall hp with hp | hp
    · exact hc p hp hcon
    · exact h.pending p hp hcon

theorem Current.setListener {i : ListenerId} {l : ListenerState} (h : Current s)
    (hl : ∀ p, l.error = some p → s.connected = true → s.hPort = some p) :
    Current (s.setListener i l) where
  hPort := h.hPort
  pending p hp hcon := by
    rcases pending_setListener hp with hp | hp
    · exact hl p hp hcon
    · exact h.pending p hp hcon

theorem Current.congr (h : Current s) (hport : s'.hPort = s.hPort)
    (hconnected : s'.connected = s.connected) (hcalls : s'.calls = s.calls)
    (hlisteners : s'.listeners = s.listeners) : Current s' where
  hPort := by
    rw [hport, hconnected]
    exact h.hPort
  pending p hp := by
    rw [hport, hconnected]
    refine h.pending p ?_
    unfold Pending at hp ⊢
    rwa [hcalls, hlisteners] at hp

theorem current_of_not_connected (h : s.connected = false) : Current s where
  hPort hcon := by cases h.symm.trans hcon
  pending _ _ hcon := by cases h.symm.trans hcon

/-- **Without stale errors, pending errors are errors on the current handle.** -/
theorem Current.step (h : Current s) (hstale : ¬ Stale s a)
    (hstep : commManager.step s a = some s') : Current s' := by
  cases commStep_of_step hstep with
  | alreadyConnected | sendsNothing | cannotStart | alreadyRunning => exact h
  | connectFails | disconnects | marksSend | marksListener => exact current_of_not_connected rfl
  | connectOpens hc hcon hok =>
    refine ⟨fun _ => rfl, ?_⟩
    intro p hp
    exact absurd ⟨hcon, hok, p, hp⟩ hstale
  | @sendFails t p hr hc hdis =>
    refine h.setCall ?_
    rintro q hq hcon
    cases hq
    by_contra hne
    exact hstale ⟨p, hc, hdis, hcon, hne⟩
  | @unexpected i p hl hrun =>
    refine h.setListener ?_
    rintro q hq hcon
    cases hq
    by_contra hne
    exact hstale ⟨p, hl, hrun, hcon, hne⟩
  | sends | sent | notJoinable => exact h.setCall fun q hq => by cases hq
  | notConnected stops => exact h.setCall fun q hq => by cases stops <;> cases hq
  | closes hc =>
    refine Current.congr (h.setCall ?_) rfl rfl rfl rfl
    intro q hq
    split_ifs at hq <;> cases hq
  | starts | cannotCreate | stops | joins =>
    exact Current.congr (h.setCall fun q hq => by cases hq) rfl rfl rfl rfl
  | creates hc hthread =>
    refine Current.congr (Current.setListener (h.setCall ?_) ?_) rfl rfl rfl rfl
    · intro q hq
      cases hq
    · intro q hq
      cases hq
  | outOfMemory => exact Current.congr (h.setListener fun q hq => by cases hq) rfl rfl rfl rfl
  | allocates | goesOn | leaves | reads | readsNone | gets | stopped | portClosed | otherError
  | dispatches | expected | calledBack => exact h.setListener fun q hq => by cases hq

/-- **`m_connected` is reset as it should be**, in a run in which no `Connect` opens a connection
while an error is pending, and no error on another handle than `m_hPort` is taken up while the
client is connected. -/
theorem disconnects_justified {as : List CommAction}
    (hrun : commManager.run CommState.init as = some s)
    (hsteps : commManager.EveryStep CommState.init (as ++ [a]) fun s a => ¬ Stale s a)
    (hstep : commManager.step s a = some s') (hcon : s.connected = true)
    (hreset : s'.connected = false) : Justified s a := by
  have hcurrent : Current s :=
    (hsteps.of_prefix (List.prefix_append as [a])).invariant hrun current_init
      fun _ _ _ h hstale hstep => h.step hstale hstep
  cases commStep_of_step hstep with
  | connectFails hc hno =>
    -- a client that is connected has a handle, so that `Connect` returns early
    rw [CommState.isConnected, hcon, hcurrent.hPort hcon] at hno
    cases hno
  | disconnects => trivial
  | @marksSend t p hc => exact ⟨p, hc, hcurrent.pending p (.inl ⟨t, by rw [hc]; rfl⟩) hcon⟩
  | @marksListener i p hl => exact ⟨p, hl, hcurrent.pending p (.inr ⟨i, by rw [hl]; rfl⟩) hcon⟩
  | connectOpens => cases hreset
  | _ => cases hcon.symm.trans hreset

/-- The error of a request on the current handle resets `m_connected`. -/
theorem disconnects_justified_brokenPipe :
    ∃ s, commManager.run CommState.init
        [.connect 0 .sOk, .sendRequest 0, .sendMessage 0 .brokenPipe] = some s ∧
      Justified s (.markSend 0) := by
  have hsteps : commManager.EveryStep CommState.init
      ([.connect 0 .sOk, .sendRequest 0, .sendMessage 0 .brokenPipe] ++ [.markSend 0])
      fun s a => ¬ Stale s a := by
    refine Machine.everyStep_cons ?_ fun s hs => ?_
    · rintro ⟨-, -, p, ⟨t, ht⟩ | ⟨i, hi⟩⟩
      · cases ht
      · cases hi
    obtain rfl := Option.some.inj hs
    refine Machine.everyStep_cons id fun s hs => ?_
    obtain rfl := Option.some.inj hs
    refine Machine.everyStep_cons ?_ fun s _ => Machine.everyStep_cons id fun s _ =>
      Machine.everyStep_nil s
    rintro ⟨p, hp, -, -, hne⟩
    cases hp
    exact hne rfl
  exact ⟨_, rfl, disconnects_justified rfl hsteps rfl rfl rfl⟩

/-- A request is under way while another thread disconnects and connects again; then it fails,
because its handle was closed. -/
def failsAfterReconnect : List CommAction :=
  [.connect 0 .sOk, .sendRequest 1, .disconnect 0, .closeHandle 0, .connect 0 .sOk,
    .sendMessage 1 .invalidHandle]

/-- **An error on an earlier handle** marks a new connection as disconnected. -/
theorem connection_poisoned :
    ∃ s s', commManager.run CommState.init failsAfterReconnect = some s ∧
      commManager.step s (.markSend 1) = some s' ∧ s.connected = true ∧ s'.connected = false ∧
      s.calls 1 = .sendFailed 0 ∧ s.hPort = some 1 :=
  ⟨_, _, rfl, rfl, rfl, rfl, rfl, rfl⟩

end RansomShield
