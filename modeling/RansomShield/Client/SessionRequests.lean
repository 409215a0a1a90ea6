import RansomShield.Client.Session

/-!
# The requests of a session

What a request does on an open connection, by what becomes of it: whether it arrives at the driver
(`Delivery.arrives`), and whether the client takes itself for connected afterwards
(`Delivery.keeps`).  A push is three requests that are sent until one fails
(`run_pushToDriver_spec`).
-/

namespace RansomShield

/-! ### Requests -/

/-- The driver handles the request. -/
def Delivery.arrives (δ : Delivery) : Bool := δ.succeeds || δ.handled

/-- The client still takes itself for connected after the request. -/
def Delivery.keeps (δ : Delivery) : Bool := δ.succeeds || !δ.code.1.isDisconnect

/-- The client still takes itself for connected after requests that are sent until one fails. -/
def keepsAll : List Delivery → Bool
  | [] => true
  | δ :: δs => if δ.succeeds then keepsAll δs else δ.keeps

namespace Session

variable {deliveries : ℕ → Delivery} {c : Session} {driver : DriverState}

/-- **What a request does** on a connection to a driver. -/
theorem send_eq (hconnected : c.connected = true) (hdriver : c.driver = some driver)
    (args : SendArguments) :
    c.send deliveries args =
      (⟨(deliveries c.requests).keeps,
        some (if (deliveries c.requests).arrives then
          (rsMessageNotifyCallback driver (some args.1) (some args.2)).state else driver),
        c.requests + 1⟩,
        if (deliveries c.requests).succeeds then
          (.ofStatus (rsMessageNotifyCallback driver (some args.1) (some args.2)).status,
            (rsMessageNotifyCallback driver (some args.1) (some args.2)).reply)
        else ((deliveries c.requests).code.1, none)) := by
  unfold send Delivery.keeps Delivery.arrives
  simp only [hconnected, hdriver, if_true]
  cases (deliveries c.requests).succeeds with
  | true => simp
  | false => simp

/-- Without a driver, every request fails. -/
theorem send_of_none (hconnected : c.connected = true) (hdriver : c.driver = none)
    (args : SendArguments) :
    c.send deliveries args =
      (⟨!(deliveries c.requests).code.1.isDisconnect, none, c.requests + 1⟩,
        (deliveries c.requests).code.1, none) := by
  unfold send
  simp only [hconnected, hdriver, if_true]

theorem send_of_not_connected (hconnected : c.connected = false) (args : SendArguments) :
    c.send deliveries args = (c, .notConnected, none) := by
  unfold send
  simp only [hconnected, Bool.false_eq_true, if_false]

theorem serve_eq (deliveries : ℕ → Delivery) (hconnected : c.connected = true)
    (hdriver : c.driver = some driver) (args : SendArguments)
    (hstatus : (rsMessageNotifyCallback driver (some args.1) (some args.2)).status = .success) :
    (c.serve deliveries args).1 =
        ⟨(deliveries c.requests).keeps,
          some (if (deliveries c.requests).arrives then
            (rsMessageNotifyCallback driver (some args.1) (some args.2)).state else driver),
          c.requests + 1⟩ ∧
      (c.serve deliveries args).2.hr.failed = !(deliveries c.requests).succeeds := by
  rw [serve, send_eq hconnected hdriver, hstatus]
  refine ⟨rfl, ?_⟩
  cases (deliveries c.requests).succeeds with
  | true => rfl
  | false => exact (deliveries c.requests).code.2

end Session

/-! ### The push -/

section

variable (deliveries : ℕ → Delivery) (numbers : ℕ → UInt32) {c : Session} {driver : DriverState}

theorem Delivery.keeps_of_succeeds {δ : Delivery} (h : δ.succeeds = true) : δ.keeps = true := by
  rw [Delivery.keeps, h, Bool.true_or]

theorem serve_allowlistMessage (hconnected : c.connected = true)
    (hdriver : c.driver = some driver) (m : AllowlistMessage) :
    ∃ driver', (c.serve deliveries m.arguments).1 =
        ⟨(deliveries c.requests).keeps, some driver', c.requests + 1⟩ ∧
      driver'.config = driver.config ∧
      (c.serve deliveries m.arguments).2.hr.failed = !(deliveries c.requests).succeeds := by
  obtain ⟨hserve, hfailed⟩ := Session.serve_eq deliveries hconnected hdriver m.arguments
    (m.accepted driver)
  refine ⟨_, hserve, ?_, hfailed⟩
  split_ifs
  · exact m.config_handle driver
  · rfl

/-- **The requests of an allowlist**: they leave the parameters of the driver alone. -/
theorem run_pushAllowlist_spec {entries : List WString}
    (hlen : entries.length ≤ rsMaxAllowlistEntries) (hconnected : c.connected = true)
    (hdriver : c.driver = some driver) :
    ∃ driver' n, ((pushAllowlist numbers entries).run (Session.serve deliveries) c).1 =
        ⟨keepsAll [deliveries c.requests, deliveries (c.requests + 1)], some driver', n⟩ ∧
      driver'.config = driver.config := by
  obtain ⟨driver₁, hclear, hconfig₁, hfailed⟩ :=
    serve_allowlistMessage deliveries hconnected hdriver (clearMessage (numbers 0))
  have hrun : (pushAllowlist numbers entries).run (Session.serve deliveries) c =
      (if (!(deliveries c.requests).succeeds) = true then
        (.done (c.serve deliveries (clearMessage (numbers 0)).arguments).2.hr : ClientProgram)
      else .request (fullMessage (numbers 1) hlen).arguments fun outcome => .done outcome.hr).run
        (Session.serve deliveries) (c.serve deliveries (clearMessage (numbers 0)).arguments).1 := by
    rw [← hfailed]
    simp only [pushAllowlist, Program.run_request, if_pos hlen]
    rfl
  rw [hrun, hclear]
  cases hsucceeds : (deliveries c.requests).succeeds with
  | false =>
    refine ⟨driver₁, c.requests + 1, ?_, hconfig₁⟩
    simp [Program.run, keepsAll, hsucceeds]
  | true =>
    obtain ⟨driver₂, hfull, hconfig₂, -⟩ := serve_allowlistMessage deliveries
      (c := ⟨true, some driver₁, c.requests + 1⟩) rfl rfl (fullMessage (numbers 1) hlen)
    refine ⟨driver₂, c.requests + 2, ?_, hconfig₂.trans hconfig₁⟩
    rw [Delivery.keeps_of_succeeds hsucceeds]
    simp only [Bool.not_true, Bool.false_eq_true, if_false, Program.run_request, Program.run]
    rw [hfull]
    simp only [keepsAll, hsucceeds, if_true]
    cases hlast : (deliveries (c.requests + 1)).succeeds <;>
      simp [hlast, Delivery.keeps_of_succeeds]

/-- **What a push does**: the first request sets the monitoring flag, and the connection stays open
unless the first request that fails finds it lost. -/
theorem run_pushToDriver_spec (m : ConfigManager) (hconnected : c.connected = true)
    (hdriver : c.driver = some driver) :
    ∃ driver' n, ((pushToDriver true numbers m).run (Session.serve deliveries) c).1 =
        ⟨keepsAll [deliveries c.requests, deliveries (c.requests + 1),
          deliveries (c.requests + 2)], some driver', n⟩ ∧
      driver'.config.monitoringEnabled =
        if (deliveries c.requests).arrives then if m.monitoringEnabled then 1 else 0
        else driver.config.monitoringEnabled := by
  have hupdate := requestCase_updateConfigRequest (numbers 0) m.fileCountThreshold
    m.timeWindowSeconds (if m.monitoringEnabled then 1 else 0) driver
  obtain ⟨hserve, hfailed⟩ := Session.serve_eq deliveries hconnected hdriver
    (updateConfigRequest (numbers 0) m.fileCountThreshold m.timeWindowSeconds
      (if m.monitoringEnabled then 1 else 0), sizeofReplyGeneric) (by rw [hupdate])
  rw [hupdate] at hserve
  have hflag : (if (deliveries c.requests).arrives then
        drawSequence (rsApplyConfig driver m.fileCountThreshold m.timeWindowSeconds
          (if m.monitoringEnabled then 1 else 0)) else driver).config.monitoringEnabled =
      if (deliveries c.requests).arrives then if m.monitoringEnabled then 1 else 0
      else driver.config.monitoringEnabled := by
    split_ifs <;> rfl
  rw [run_pushToDriver]
  generalize Session.serve deliveries c (updateConfigRequest (numbers 0) m.fileCountThreshold
    m.timeWindowSeconds (if m.monitoringEnabled then 1 else 0), sizeofReplyGeneric) = response
    at hserve hfailed ⊢
  obtain ⟨c', outcome⟩ := response
  dsimp only at hserve hfailed ⊢
  subst hserve
  rw [hfailed]
  cases hsucceeds : (deliveries c.requests).succeeds with
  | false =>
    refine ⟨_, c.requests + 1, ?_, hflag⟩
    simp [keepsAll, hsucceeds]
  | true =>
    obtain ⟨driver', n, hrun, hconfig⟩ := run_pushAllowlist_spec deliveries
      (fun n => numbers (n + 1)) m.length_le
      (c := ⟨(deliveries c.requests).keeps, _, c.requests + 1⟩)
      (Delivery.keeps_of_succeeds hsucceeds) rfl
    refine ⟨driver', n, ?_, ?_⟩
    · simp only [Bool.not_true, Bool.false_eq_true, if_false]
      rw [hrun]
      simp only [keepsAll, hsucceeds, if_true]
    · rw [hconfig, hflag]

end

end RansomShield
