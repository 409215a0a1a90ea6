import RansomShield.Client.ConfigManager
import RansomShield.Client.PushAllowlist

/-!
# The client module

`RansomShieldModule::PushToDriver` of `usermode/common/RansomShieldModule.cpp`, and the requests of
`CommManager` that the clients send besides the allowlist: the settings are pushed in one request,
and the list behind it.  The driver applies the settings of the request, whatever they are
(`accepted_updateConfigRequest`), sets its monitoring flag when it is asked to pause or to resume
(`monitoring_request`), and no allowlist message changes its parameters
(`AllowlistMessage.config_handle`).
-/

namespace RansomShield

/-! ### Requests -/

/-- The request `RS_REQUEST_UPDATE_CONFIG`. -/
def updateConfigRequest (sequenceNumber fileCountThreshold timeWindowSeconds : UInt32)
    (monitoringEnabled : UInt8) : List UInt8 :=
  makeHeader sequenceNumber .updateConfig sizeofRequestUpdateConfig ++
    (ulongBytes fileCountThreshold ++ (ulongBytes timeWindowSeconds ++
      [monitoringEnabled, 0, 0, 0]))

/-- The request `RS_REQUEST_PAUSE`. -/
def pauseMonitoringRequest (sequenceNumber : UInt32) : List UInt8 :=
  makeHeader sequenceNumber .requestPause sizeofMessageHeader

/-- The request `RS_REQUEST_RESUME`. -/
def resumeMonitoringRequest (sequenceNumber : UInt32) : List UInt8 :=
  makeHeader sequenceNumber .requestResume sizeofMessageHeader

/-- The request `RS_REQUEST_QUERY_CONFIG`. -/
def queryConfigRequest (sequenceNumber : UInt32) : List UInt8 :=
  makeHeader sequenceNumber .queryConfig sizeofMessageHeader

theorem isRequest_header (sequenceNumber : UInt32) {t : RsMessageType} (ht : t ∈ requestTypes) :
    IsRequest (makeHeader sequenceNumber t sizeofMessageHeader) t := by
  rw [← List.append_nil (makeHeader ..)]
  exact isRequest_makeHeader ht rfl (by decide)

section

variable (sequenceNumber threshold seconds : UInt32) (monitoring : UInt8)

theorem isRequest_updateConfig :
    IsRequest (updateConfigRequest sequenceNumber threshold seconds monitoring) .updateConfig :=
  isRequest_makeHeader (by decide) rfl (by decide)

theorem readUlong_threshold :
    readUlong (updateConfigRequest sequenceNumber threshold seconds monitoring) 16 = threshold :=
  readUlong_ulongBytes (makeHeader sequenceNumber .updateConfig sizeofRequestUpdateConfig)
    threshold _

theorem readUlong_seconds :
    readUlong (updateConfigRequest sequenceNumber threshold seconds monitoring) 20 = seconds := by
  rw [updateConfigRequest, ← List.append_assoc]
  exact readUlong_ulongBytes _ seconds _

/-- **The driver applies the settings** of the request. -/
theorem requestCase_updateConfigRequest (s : DriverState) :
    rsMessageNotifyCallback s
        (some (updateConfigRequest sequenceNumber threshold seconds monitoring))
        (some sizeofReplyGeneric) =
      { state := drawSequence (rsApplyConfig s threshold seconds monitoring)
        status := .success
        returnLength := sizeofReplyGeneric
        reply := some (.generic (replyHeader (rsApplyConfig s threshold seconds monitoring)
          .updateConfig sizeofReplyGeneric) .success) } := by
  rw [(isRequest_updateConfig ..).eq_requestCase, requestCase, updateConfig,
    readUlong_threshold, readUlong_seconds]
  rfl

/-- **Every threshold and window is accepted.** -/
theorem accepted_updateConfigRequest (s : DriverState) :
    Accepted threshold seconds (exec Control.apply s
      [.applyConfig threshold seconds monitoring, .drawSequence]) := by
  -- the sequence number of the request does not matter
  have h := requestCase_updateConfigRequest 0 threshold seconds monitoring s
  exact ⟨s, updateConfigRequest 0 threshold seconds monitoring, some sizeofReplyGeneric, rfl,
    readUlong_threshold .., readUlong_seconds .., congrArg MessageOutcome.status h,
    congrArg MessageOutcome.state h⟩

end

/-- **The driver sets its monitoring flag** for the requests to pause and to resume. -/
theorem monitoring_request (s : DriverState) (sequenceNumber : UInt32) (enabled : Bool) :
    let m := rsMessageNotifyCallback s
      (some (if enabled then resumeMonitoringRequest sequenceNumber
        else pauseMonitoringRequest sequenceNumber)) (some sizeofReplyGeneric)
    m.status = .success ∧ m.state.config.monitoringEnabled = if enabled then 1 else 0 := by
  dsimp only
  cases enabled with
  | true =>
    simp only [if_true]
    rw [resumeMonitoringRequest, (isRequest_header sequenceNumber (by decide)).eq_requestCase]
    exact ⟨rfl, rfl⟩
  | false =>
    simp only [Bool.false_eq_true, if_false]
    rw [pauseMonitoringRequest, (isRequest_header sequenceNumber (by decide)).eq_requestCase]
    exact ⟨rfl, rfl⟩

/-! ### The push -/

/-- `CommManager::UpdateConfig`: the status in the reply is printed only. -/
def updateConfigProgram (sequenceNumber fileCountThreshold timeWindowSeconds : UInt32)
    (monitoringEnabled : UInt8) : ClientProgram :=
  .request
    (updateConfigRequest sequenceNumber fileCountThreshold timeWindowSeconds monitoringEnabled,
      sizeofReplyGeneric)
    fun outcome => .done outcome.hr

/-- `RansomShieldModule::PushToDriver`.  `connected` is the answer of `IsConnected`. -/
def pushToDriver (connected : Bool) (numbers : ℕ → UInt32) (m : ConfigManager) :
    Program SendArguments SendOutcome Bool :=
  if connected then
    (updateConfigProgram (numbers 0) m.fileCountThreshold m.timeWindowSeconds
        (if m.monitoringEnabled then 1 else 0)).bind fun hr =>
      if hr.failed then .done false
      else
        (pushAllowlist (fun n => numbers (n + 1)) m.allowlist).bind fun hr =>
          .done (!hr.failed)
  else .done false

/-- **A push with a server**: the settings first, and the list if they have arrived. -/
theorem run_pushToDriver {S : Type*} (serve : S → SendArguments → S × SendOutcome)
    (numbers : ℕ → UInt32) (m : ConfigManager) (s : S) :
    (pushToDriver true numbers m).run serve s =
      let (s', outcome) := serve s
        (updateConfigRequest (numbers 0) m.fileCountThreshold m.timeWindowSeconds
          (if m.monitoringEnabled then 1 else 0), sizeofReplyGeneric)
      if outcome.hr.failed then (s', false)
      else
        let (s'', hr) := (pushAllowlist (fun n => numbers (n + 1)) m.allowlist).run serve s'
        (s'', !hr.failed) := by
  unfold pushToDriver updateConfigProgram
  rw [if_pos rfl, Program.run_bind, Program.run_request]
  generalize serve s (updateConfigRequest (numbers 0) m.fileCountThreshold m.timeWindowSeconds
    (if m.monitoringEnabled then 1 else 0), sizeofReplyGeneric) = response
  cases hfailed : response.2.hr.failed with
  | true => simp [Program.run, hfailed]
  | false => simp [Program.run, Program.run_bind, hfailed]

theorem serve_updateConfig (sequenceNumber threshold seconds : UInt32) (monitoring : UInt8)
    (s : DriverState) :
    serve s (updateConfigRequest sequenceNumber threshold seconds monitoring,
        sizeofReplyGeneric) =
      (drawSequence (rsApplyConfig s threshold seconds monitoring), ⟨.sOk, .success⟩) := by
  rw [serve, requestCase_updateConfigRequest]
  rfl

/-! ### The parameters of the driver -/

/-- The control action leaves the parameters as they are. -/
def Control.KeepsConfig (k : Control) : Prop := ∀ s : DriverState, (k.apply s).config = s.config

theorem config_controls {ks : List Control} (h : ∀ k ∈ ks, k.KeepsConfig) (s : DriverState) :
    (exec Control.apply s ks).config = s.config :=
  exec_invariant (I := fun t : DriverState => t.config = s.config) ks rfl fun t k hk ht =>
    (h k hk t).trans ht

theorem keepsConfig_entryControls (bytes : List UInt8) (base n : ℕ) :
    ∀ k ∈ entryControls bytes base n ++ [Control.drawSequence], k.KeepsConfig := by
  intro k hk s
  rcases List.mem_append.1 hk with hk | hk
  · obtain ⟨i, -, rfl⟩ := List.mem_map.1 hk
    rw [Control.apply, rsAddDynamicAllowlistEntry]
    split_ifs <;> rfl
  · rw [List.mem_singleton.1 hk]
    rfl

/-- **No allowlist message changes the parameters.** -/
theorem AllowlistMessage.config_handle (m : AllowlistMessage) (s : DriverState) :
    (AllowlistMessage.handle s m).config = s.config := by
  rw [AllowlistMessage.handle, rsMessageNotifyCallback_state, m.messageControls_eq]
  refine config_controls ?_ s
  unfold AllowlistMessage.controls
  rcases m.type with ht | ht | ht
  · rw [ht]
    intro k hk s
    simp only [Option.elim_some, requestControls, List.mem_cons, List.not_mem_nil, or_false] at hk
    rcases hk with rfl | rfl <;> rfl
  · rw [ht]
    exact keepsConfig_entryControls _ _ _
  · rw [ht]
    exact keepsConfig_entryControls _ _ _

theorem config_handles (messages : List AllowlistMessage) (s : DriverState) :
    (exec AllowlistMessage.handle s messages).config = s.config :=
  exec_invariant (I := fun t : DriverState => t.config = s.config) messages rfl fun t m _ ht =>
    (m.config_handle t).trans ht

end RansomShield
