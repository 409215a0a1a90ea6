import RansomShield.Client.RansomShieldModule

/-!
# The connection of a client

The client's end of the connection and the driver, when nothing else runs: the flag that
`IsConnected` reads, and the driver, if it is loaded.  Whether a request arrives is decided by its
`Delivery`: `FilterSendMessage` may fail before or after the driver has handled the request.  When
every request succeeds, a program of the client runs against the driver (`Session.run_serve`).
-/

namespace RansomShield

/-- A failure code. -/
abbrev FailureCode := { hr : HResult // hr.failed = true }

/-- What becomes of a request. -/
structure Delivery where
  succeeds : Bool
  /-- The driver handles a request that fails. -/
  handled : Bool
  /-- What `FilterSendMessage` returns when the request fails, or the driver is gone. -/
  code : FailureCode

/-- A request that succeeds. -/
def Delivery.success : Delivery := ⟨true, true, HResult.eFail, by decide⟩

/-- The client's end of the connection, and the driver. -/
structure Session where
  /-- `m_connected`. -/
  connected : Bool
  /-- The globals of the driver, if it is loaded. -/
  driver : Option DriverState
  /-- The number of calls of `FilterSendMessage`, which selects their deliveries. -/
  requests : ℕ

/-- A response: the `HRESULT`, and the reply if one arrives. -/
abbrev SendReply := HResult × Option RsReply

namespace Session

/-- `CommManager::SendRequest`. -/
def send (deliveries : ℕ → Delivery) (c : Session) (args : SendArguments) : Session × SendReply :=
  if c.connected then
    let delivery := deliveries c.requests
    match c.driver with
    | none =>
      ({ connected := !delivery.code.1.isDisconnect, driver := none, requests := c.requests + 1 },
        delivery.code.1, none)
    | some driver =>
      let m := rsMessageNotifyCallback driver (some args.1) (some args.2)
      if delivery.succeeds then
        ({ c with driver := some m.state, requests := c.requests + 1 }, .ofStatus m.status,
          m.reply)
      else
        ({ connected := !delivery.code.1.isDisconnect
           driver := some (if delivery.handled then m.state else driver)
           requests := c.requests + 1 }, delivery.code.1, none)
  else (c, .notConnected, none)

/-- The session, as the server of the requests. -/
def serve (deliveries : ℕ → Delivery) (c : Session) (args : SendArguments) :
    Session × SendOutcome :=
  let (c', hr, reply) := c.send deliveries args
  (c', { hr := hr, status := replyStatus reply })

/-- `CommManager::Connect`.  `answer` is the port that the driver opens, or the code with which
`FilterConnectCommunicationPort` fails. -/
def connect (answer : Except FailureCode PortHandle) (c : Session) : Session × HResult :=
  if c.connected then (c, .sOk)
  else
    match answer, c.driver with
    | .ok port, some driver =>
      ({ c with connected := true, driver := some (rsConnectNotifyCallback driver port) }, .sOk)
    -- without a driver there is no port to connect to
    | .ok _, none => (c, .fromWin32 2)
    | .error hr, _ => (c, hr.1)

theorem failed_connect (answer : Except FailureCode PortHandle) (c : Session)
    (h : c.connected = false) : (c.connect answer).2.failed = !(c.connect answer).1.connected := by
  unfold connect
  rw [if_neg (ne_true_of_eq_false h)]
  cases answer with
  | error hr => rw [hr.2, h]; rfl
  | ok port =>
    have hnone : (HResult.fromWin32 2).failed = true := by decide
    have hok : HResult.sOk.failed = false := by decide
    cases c.driver with
    | none => rw [hnone, h]; rfl
    | some driver => exact hok

/-! ### Requests that succeed -/

theorem send_of_success {deliveries : ℕ → Delivery} {c : Session} {driver : DriverState}
    (hconnected : c.connected = true) (hdriver : c.driver = some driver)
    (hsucceeds : (deliveries c.requests).succeeds = true) (args : SendArguments) :
    c.send deliveries args =
      ({ c with
          driver := some (rsMessageNotifyCallback driver (some args.1) (some args.2)).state
          requests := c.requests + 1 },
        .ofStatus (rsMessageNotifyCallback driver (some args.1) (some args.2)).status,
        (rsMessageNotifyCallback driver (some args.1) (some args.2)).reply) := by
  unfold send
  simp only [hconnected, hdriver, hsucceeds, if_true]

/-- **When every request succeeds**, a program of the client runs against the driver. -/
theorem run_serve {A : Type} {deliveries : ℕ → Delivery}
    (hall : ∀ n, (deliveries n).succeeds = true) (p : Program SendArguments SendOutcome A)
    (driver : DriverState) (n : ℕ) :
    ∃ n', p.run (serve deliveries) ⟨true, some driver, n⟩ =
      (⟨true, some (p.run RansomShield.serve driver).1, n'⟩,
        (p.run RansomShield.serve driver).2) := by
  induction p generalizing driver n with
  | done a => exact ⟨n, rfl⟩
  | request q next ih =>
    rw [Program.run_request, serve, send_of_success rfl rfl (hall n)]
    exact ih _ _ _

end Session

end RansomShield
