import RansomShield.Client.RansomShieldModule
import RansomShield.Guarantees.AllowlistPush

/-!
# The settings after a push

A push that is reported as complete brings the monitoring flag of the client to the driver, and its
threshold and its time window unless they are zero (`settings_push`): zero means no change in the
request, while the settings of the client may be zero, and the client does not tell the two apart
(`zero_threshold_differs`).
-/

namespace RansomShield

variable (numbers : ℕ → UInt32) (m : ConfigManager) (s : DriverState)

/-- The driver after a push of the settings, and the result of the push. -/
def pushedSettings (connected : Bool) : DriverState × Bool :=
  (pushToDriver connected numbers m).run serve s

/-- The parameters after a push: those of the client, unless they are zero. -/
def ConfigManager.applied (cfg : RsConfig) : RsConfig where
  fileCountThreshold :=
    if m.fileCountThreshold = 0 then cfg.fileCountThreshold else m.fileCountThreshold
  timeWindowSeconds :=
    if m.timeWindowSeconds = 0 then cfg.timeWindowSeconds else m.timeWindowSeconds
  timeWindowTicks :=
    if m.timeWindowSeconds = 0 then cfg.timeWindowTicks else windowTicks m.timeWindowSeconds
  monitoringEnabled := if m.monitoringEnabled then 1 else 0

theorem config_rsApplyConfig :
    (rsApplyConfig s m.fileCountThreshold m.timeWindowSeconds
      (if m.monitoringEnabled then 1 else 0)).config = m.applied s.config := by
  have hpos : ∀ n : UInt32, 0 < n ↔ n ≠ 0 := fun n => by
    rw [UInt32.lt_iff_toNat_lt, ne_eq, ← UInt32.toNat_inj, UInt32.toNat_zero]
    omega
  simp only [rsApplyConfig, ConfigManager.applied, hpos, ite_not]

/-- **The driver after a push.** -/
theorem pushedSettings_eq :
    pushedSettings numbers m s true =
      ((pushed (fun n => numbers (n + 1)) m.allowlist
        (drawSequence (rsApplyConfig s m.fileCountThreshold m.timeWindowSeconds
          (if m.monitoringEnabled then 1 else 0)))).1, true) := by
  have hok : HResult.sOk.failed = false := by decide
  rw [pushedSettings, run_pushToDriver, serve_updateConfig]
  simp only [hok, Bool.false_eq_true, if_false]
  rw [← pushed, (pushed_eq ..).2]
  rfl

theorem pushToDriver_config :
    (pushedSettings numbers m s true).1.config = m.applied s.config := by
  rw [pushedSettings_eq, (pushed_eq ..).1, config_handles, ← config_rsApplyConfig]
  rfl

theorem reply_queryConfig {query : List UInt8} {length : ℕ} (hquery : IsRequest query .queryConfig)
    (hlength : sizeofReplyConfig ≤ length) :
    (rsMessageNotifyCallback s (some query) (some length)).status = .success ∧
      ∃ header tracked blocked,
        (rsMessageNotifyCallback s (some query) (some length)).reply =
          some (.config header s.config.fileCountThreshold s.config.timeWindowSeconds
            s.config.monitoringEnabled tracked blocked) := by
  rw [hquery.eq_requestCase, requestCase, queryConfig, withOutputBuffer_of_le hlength]
  exact ⟨rfl, _, _, _, rfl⟩

/-- **The settings after a push.**  When `PushToDriver` returns `true`, a following `RsQueryConfig`
reports the monitoring flag of the client, and its threshold and its time window where they are not
zero; where they are zero, the driver keeps what it had.  The ticks are those of the window that is
reported, if they were before. -/
theorem settings_push (connected : Bool) (query : List UInt8) (length : ℕ)
    (hpush : (pushedSettings numbers m s connected).2 = true)
    (hquery : IsRequest query .queryConfig) (hlength : sizeofReplyConfig ≤ length) :
    (rsMessageNotifyCallback (pushedSettings numbers m s connected).1 (some query)
        (some length)).status = .success ∧
    (∃ header tracked blocked,
      (rsMessageNotifyCallback (pushedSettings numbers m s connected).1 (some query)
          (some length)).reply =
        some (.config header
          (if m.fileCountThreshold = 0 then s.config.fileCountThreshold
            else m.fileCountThreshold)
          (if m.timeWindowSeconds = 0 then s.config.timeWindowSeconds else m.timeWindowSeconds)
          (if m.monitoringEnabled then 1 else 0) tracked blocked)) ∧
    (m.timeWindowSeconds ≠ 0 →
      (pushedSettings numbers m s connected).1.config.timeWindowTicks.toInt =
        m.timeWindowSeconds.toNat * 10000000) ∧
    (m.timeWindowSeconds = 0 →
      (pushedSettings numbers m s connected).1.config.timeWindowTicks =
        s.config.timeWindowTicks) := by
  cases connected with
  | false => cases hpush
  | true =>
    obtain ⟨hstatus, header, tracked, blocked, hreply⟩ :=
      reply_queryConfig (pushedSettings numbers m s true).1 hquery hlength
    rw [pushToDriver_config] at hreply
    refine ⟨hstatus, ⟨header, tracked, blocked, hreply⟩, ?_, ?_⟩
    · intro hne
      rw [pushToDriver_config]
      exact (congrArg Int64.toInt (if_neg hne)).trans (toInt_windowTicks _)
    · intro hzero
      rw [pushToDriver_config]
      exact if_pos hzero

/-! ### A threshold of zero -/

/-- The registry with a threshold of zero. -/
def zeroThresholdRegistry : Registry :=
  ⟨Function.update (fun _ => none) rsRegvalThreshold (some (dwordValue 0)), fun _ => none⟩

/-- The settings that are read from it. -/
def zeroThreshold : ConfigManager where
  fileCountThreshold := 0
  timeWindowSeconds := rsDefaultTimeWindowSeconds
  monitoringEnabled := true
  allowlist := []
  length_le := Nat.zero_le _
  initialized := true
  hConfigKey := true
  hAllowlistKey := true

/-- The window of these settings arrives at the driver. -/
theorem settings_push_zeroThreshold :
    (pushedSettings (fun n => UInt32.ofNat n) zeroThreshold DriverState.init
      true).1.config.timeWindowTicks.toInt = 10 * 10000000 := by
  have hpush : (pushedSettings (fun n => UInt32.ofNat n) zeroThreshold DriverState.init
      true).2 = true := by rw [pushedSettings_eq]
  exact (settings_push (fun n => UInt32.ofNat n) zeroThreshold DriverState.init true
    (queryConfigRequest 7) sizeofReplyConfig hpush (isRequest_header 7 (by decide)) le_rfl).2.2.1
    (by decide)

/-- **The driver does not take over a threshold of zero**, which the client has read from the
registry: the push is reported as complete, and `RsQueryConfig` reports the default threshold. -/
theorem zero_threshold_differs :
    ConfigManager.new.runInitialize true true zeroThresholdRegistry =
        some (zeroThreshold, true) ∧
      (pushedSettings (fun n => UInt32.ofNat n) zeroThreshold DriverState.init true).2 = true ∧
      (∃ header seconds monitoring tracked blocked,
        (rsMessageNotifyCallback
            (pushedSettings (fun n => UInt32.ofNat n) zeroThreshold DriverState.init true).1
            (some (queryConfigRequest 7)) (some sizeofReplyConfig)).reply =
          some (.config header rsDefaultFileCountThreshold seconds monitoring tracked blocked)) ∧
      zeroThreshold.fileCountThreshold ≠ rsDefaultFileCountThreshold := by
  refine ⟨?_, ?_, ?_, by decide⟩
  · rfl
  · rw [pushedSettings_eq]
  · obtain ⟨-, header, tracked, blocked, hreply⟩ := reply_queryConfig
      (pushedSettings (fun n => UInt32.ofNat n) zeroThreshold DriverState.init true).1
      (isRequest_header 7 (by decide)) (le_refl sizeofReplyConfig)
    rw [pushToDriver_config] at hreply
    exact ⟨header, _, _, tracked, blocked, hreply⟩

end RansomShield
