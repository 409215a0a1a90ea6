import RansomShield.System.Atomic
import RansomShield.System.Dispatch

/-!
# Sequential histories

The driver when every callback and every message is handled without interruption: a history is a
list of events, and each of them changes the globals (`DriverEvent.apply`).  A process that exits
is an event too; the driver registers no process notification, so that nothing happens.  Every
sequential history is a run of the driver (`reachable_after`).

A request changes the context of its own process only (`lookup_preOperation_of_ne`).  What the
callbacks read besides is `DriverState.SameSettings`, and events change it alike in states that
agree on it.
-/

namespace RansomShield

/-- The events of a sequential history. -/
inductive DriverEvent
  | request (data : FltCallbackData)
  | message (input : Option (List UInt8)) (output : Option ℕ)
  | connect (clientPort : PortHandle)
  | disconnect
  | exit (processId : UInt32)

/-- The state after an event. -/
def DriverEvent.apply (upcase : UInt16 → UInt16) (s : DriverState) : DriverEvent → DriverState
  | .request data => (preOperation upcase s data).state
  | .message input output => (rsMessageNotifyCallback s input output).state
  | .connect clientPort => rsConnectNotifyCallback s clientPort
  | .disconnect => rsDisconnectNotifyCallback s
  | .exit _ => s

/-- The state after a history that starts when the driver is loaded. -/
def after (upcase : UInt16 → UInt16) (h : List DriverEvent) : DriverState :=
  exec (DriverEvent.apply upcase) DriverState.init h

/-- The event is a request of the process. -/
def DriverEvent.isRequestOf (p : UInt32) : DriverEvent → Bool
  | .request data => data.requestorProcessId = p
  | _ => false

variable {upcase : UInt16 → UInt16} {s s' : DriverState} {data : FltCallbackData} {p : UInt32}

/-! ### Contexts -/

theorem notify_contextHashTable (r : RecordResult) (s : DriverState) :
    (r.notify s).contextHashTable = s.contextHashTable := by
  unfold RecordResult.notify rsSendBlockNotification
  cases r.notification with
  | none => rfl
  | some n => cases h : s.clientPort <;> rfl

theorem lookup_notify (r : RecordResult) (s : DriverState) (p : UInt32) :
    rsLookupProcessContext (r.notify s) p = rsLookupProcessContext s p := by
  rw [rsLookupProcessContext, notify_contextHashTable, rsLookupProcessContext]

/-- An uninterrupted call, from the context found to the context left behind. -/
def recordContext (cfg : RsConfig) (context : Option RsProcessContext) (p : UInt32)
    (image : Option UnicodeString) (t : Int64) (allocates : Bool) :
    Option RsProcessContext × RecordResult :=
  match context with
  | some ctx =>
    if ctx.isBlocked then (some ctx, RecordResult.blocked)
    else
      (some (recordAndEvaluate cfg ctx t).context, (recordAndEvaluate cfg ctx t).result p)
  | none =>
    if allocates then
      (some (recordAndEvaluate cfg (rsCreateProcessContext p image) t).context,
        (recordAndEvaluate cfg (rsCreateProcessContext p image) t).result p)
    else (none, RecordResult.outOfMemory)

/-- **An uninterrupted call** acts on the context of its process, and on no other one. -/
theorem recordSections_eq (s : DriverState) (p : UInt32) (image : Option UnicodeString) (t : Int64)
    (allocates : Bool) :
    (recordSections s p image t allocates).2 =
        (recordContext s.config (rsLookupProcessContext s p) p image t allocates).2 ∧
      ∀ q, rsLookupProcessContext (recordSections s p image t allocates).1 q =
        if q = p then (recordContext s.config (rsLookupProcessContext s p) p image t allocates).1
        else rsLookupProcessContext s q := by
  have hself : ∀ q, rsLookupProcessContext s q =
      if q = p then rsLookupProcessContext s p else rsLookupProcessContext s q := by
    intro q
    split_ifs with hq
    · rw [hq]
    · rfl
  -- the paths of the code: blocked, tracked, out of memory, new
  cases hctx : rsLookupProcessContext s p with
  | some ctx =>
    cases hb : ctx.isBlocked with
    | true =>
      simp only [recordSections_of_blocks image t hctx hb, recordContext, hb, if_true, true_and]
      rw [← hctx]
      exact hself
    | false =>
      have hkey : (recordAndEvaluate s.config ctx t).context.processId = p :=
        (recordAndEvaluate_processId ..).trans (processId_of_lookup hctx)
      simp only [recordSections_of_context image t hctx hb, recordContext, hb,
        Bool.false_eq_true, if_false, lookup_storeContext hkey, hctx, Option.map_some,
        implies_true, and_self]
  | none =>
    cases allocates with
    | false =>
      simp only [recordSections_outOfMemory image t hctx, recordContext, Bool.false_eq_true,
        if_false, true_and]
      rw [← hctx]
      exact hself
    | true =>
      have hkey : (recordAndEvaluate s.config (rsCreateProcessContext p image) t).context.processId
          = p := recordAndEvaluate_processId ..
      simp only [recordSections_of_none image t hctx, recordContext, if_true,
        lookup_storeContext hkey, lookup_insertContext, true_and]
      intro q
      split_ifs with hq hp hp
      · rfl
      · exact absurd rfl hp
      · exact absurd hp.symm hq
      · rfl

theorem preOperation_of_passes (hpass : data.passes upcase s = true) :
    preOperation upcase s data = .passed s := by
  rw [preOperation_eq, if_pos hpass]

/-- **A request** acts on the context of its process, and on no other one. -/
theorem lookup_preOperation (hpass : data.passes upcase s = false) (q : UInt32) :
    rsLookupProcessContext (preOperation upcase s data).state q =
      if q = data.requestorProcessId then
        (recordContext s.config (rsLookupProcessContext s q) q data.processImageName
          data.interruptTime.ticks data.allocates).1
      else rsLookupProcessContext s q := by
  rw [preOperation_eq, if_neg (by simp [hpass])]
  show rsLookupProcessContext (rsRecordOperation ..).state q = _
  rw [(rsRecordOperation_eq ..).1, lookup_notify, (recordSections_eq ..).2]
  split_ifs with hq
  · rw [hq]
  · rfl

theorem lookup_preOperation_of_ne (hp : data.requestorProcessId ≠ p) :
    rsLookupProcessContext (preOperation upcase s data).state p = rsLookupProcessContext s p := by
  cases hpass : data.passes upcase s with
  | true => rw [preOperation_of_passes hpass]; rfl
  | false => rw [lookup_preOperation hpass, if_neg (Ne.symm hp)]

/-! ### Settings -/

/-- The states agree on what the callbacks read besides the context of their process: the
configuration and the dynamic allowlist. -/
structure DriverState.SameSettings (s s' : DriverState) : Prop where
  config : s.config = s'.config
  dynamicAllowlist : s.dynamicAllowlist = s'.dynamicAllowlist
  dynamicAllowlistCount : s.dynamicAllowlistCount = s'.dynamicAllowlistCount

namespace DriverState.SameSettings

theorem refl (s : DriverState) : s.SameSettings s := ⟨rfl, rfl, rfl⟩

theorem symm (h : s.SameSettings s') : s'.SameSettings s :=
  ⟨h.config.symm, h.dynamicAllowlist.symm, h.dynamicAllowlistCount.symm⟩

theorem trans {s'' : DriverState} (h : s.SameSettings s') (h' : s'.SameSettings s'') :
    s.SameSettings s'' :=
  ⟨h.config.trans h'.config, h.dynamicAllowlist.trans h'.dynamicAllowlist,
    h.dynamicAllowlistCount.trans h'.dynamicAllowlistCount⟩

theorem of_sameGlobals (h : s.SameGlobals s') : s'.SameSettings s := by
  obtain ⟨_, _, rfl⟩ := h
  exact ⟨rfl, rfl, rfl⟩

theorem passes_eq (h : s.SameSettings s') (upcase : UInt16 → UInt16) (data : FltCallbackData) :
    data.passes upcase s = data.passes upcase s' := by
  unfold FltCallbackData.passes imageAllowlisted rsIsProcessAllowlisted
  rw [h.dynamicAllowlist, h.dynamicAllowlistCount]

theorem control (h : s.SameSettings s') (k : Control) : (k.apply s).SameSettings (k.apply s') := by
  obtain ⟨hconfig, hallowlist, hcount⟩ := h
  cases k with
  | applyConfig threshold seconds monitoring =>
    refine ⟨?_, hallowlist, hcount⟩
    simp only [Control.apply, rsApplyConfig, hconfig]
  | setMonitoring value =>
    refine ⟨?_, hallowlist, hcount⟩
    simp only [Control.apply, setMonitoringEnabled, hconfig]
  | removeProcessContext p =>
    exact (of_sameGlobals (sameGlobals_removeProcessContext s p)).trans
      (trans ⟨hconfig, hallowlist, hcount⟩
        (of_sameGlobals (sameGlobals_removeProcessContext s' p)).symm)
  | clearDynamicAllowlist => exact ⟨hconfig, rfl, rfl⟩
  | addDynamicAllowlistEntry entry =>
    simp only [Control.apply, rsAddDynamicAllowlistEntry, hallowlist, hcount]
    split_ifs
    · exact ⟨hconfig, hallowlist, hcount⟩
    · exact ⟨hconfig, rfl, rfl⟩
    · exact ⟨hconfig, hallowlist, hcount⟩
  | drawSequence | getBlockedPids | getPidCounts | connect | disconnect =>
    exact ⟨hconfig, hallowlist, hcount⟩

theorem recordSections (s : DriverState) (p : UInt32) (image : Option UnicodeString) (t : Int64)
    (allocates : Bool) : (recordSections s p image t allocates).1.SameSettings s := by
  cases hctx : rsLookupProcessContext s p with
  | some ctx =>
    cases hb : ctx.isBlocked with
    | true =>
      rw [recordSections_of_blocks image t hctx hb]
      exact refl s
    | false =>
      rw [recordSections_of_context image t hctx hb]
      exact ⟨rfl, rfl, rfl⟩
  | none =>
    cases allocates with
    | false =>
      rw [recordSections_outOfMemory image t hctx]
      exact refl s
    | true =>
      rw [recordSections_of_none image t hctx]
      exact ⟨rfl, rfl, rfl⟩

theorem notify (r : RecordResult) (s : DriverState) : (r.notify s).SameSettings s := by
  unfold RecordResult.notify rsSendBlockNotification
  cases r.notification with
  | none => exact refl s
  | some n => cases s.clientPort <;> exact ⟨rfl, rfl, rfl⟩

theorem preOperation (upcase : UInt16 → UInt16) (s : DriverState) (data : FltCallbackData) :
    (preOperation upcase s data).state.SameSettings s := by
  rw [preOperation_eq]
  split_ifs
  · exact refl s
  · show (rsRecordOperation ..).state.SameSettings s
    rw [(rsRecordOperation_eq ..).1]
    exact (notify _ _).trans (recordSections ..)

theorem controls (h : s.SameSettings s') (ks : List Control) :
    (exec Control.apply s ks).SameSettings (exec Control.apply s' ks) := by
  induction ks generalizing s s' with
  | nil => exact h
  | cons k ks ih => exact ih (h.control k)

/-- **Every event changes the settings alike.** -/
theorem apply (h : s.SameSettings s') (upcase : UInt16 → UInt16) (e : DriverEvent) :
    (e.apply upcase s).SameSettings (e.apply upcase s') := by
  cases e with
  | request data =>
    exact (preOperation upcase s data).trans (h.trans (preOperation upcase s' data).symm)
  | message input output =>
    simp only [DriverEvent.apply]
    rw [rsMessageNotifyCallback_state, rsMessageNotifyCallback_state, messageControls_congr s' s]
    exact h.controls _
  | connect clientPort => exact h.control (.connect clientPort)
  | disconnect => exact h.control .disconnect
  | exit processId => exact h

end DriverState.SameSettings

/-! ### Processes without a context -/

theorem lookup_control_of_none (hs : s.WellFormed) (hnone : rsLookupProcessContext s p = none)
    (k : Control) : rsLookupProcessContext (k.apply s) p = none := by
  cases k with
  | removeProcessContext q =>
    simp only [Control.apply]
    rw [lookup_removeProcessContext hs, hnone, ite_self]
  | addDynamicAllowlistEntry entry =>
    simp only [Control.apply, rsAddDynamicAllowlistEntry]
    split_ifs <;> exact hnone
  | applyConfig | setMonitoring | clearDynamicAllowlist | drawSequence | getBlockedPids
  | getPidCounts | connect | disconnect => exact hnone

/-- Only its own requests give a process a context. -/
theorem lookup_apply_of_none (hs : s.WellFormed) (hnone : rsLookupProcessContext s p = none)
    {e : DriverEvent} (he : e.isRequestOf p = false) :
    rsLookupProcessContext (e.apply upcase s) p = none := by
  -- a message is a list of control actions, and none of them inserts a context
  have hcontrols : ∀ ks, (exec Control.apply s ks).WellFormed ∧
      rsLookupProcessContext (exec Control.apply s ks) p = none := fun ks =>
    exec_invariant (I := fun d => d.WellFormed ∧ rsLookupProcessContext d p = none) ks
      ⟨hs, hnone⟩ fun d k _ hd => ⟨wellFormed_apply hd.1 k, lookup_control_of_none hd.1 hd.2 k⟩
  cases e with
  | request data =>
    exact (lookup_preOperation_of_ne (of_decide_eq_false he)).trans hnone
  | message input output =>
    simp only [DriverEvent.apply]
    rw [rsMessageNotifyCallback_state]
    exact (hcontrols _).2
  | connect clientPort => exact hnone
  | disconnect => exact hnone
  | exit processId => exact hnone

/-! ### States that are the same for a process -/

theorem wellFormed_preOperation (h : s.WellFormed) (data : FltCallbackData) :
    (preOperation upcase s data).state.WellFormed := by
  rw [preOperation_eq]
  split_ifs
  · exact h
  · show (rsRecordOperation ..).state.WellFormed
    rw [(rsRecordOperation_eq ..).1, DriverState.WellFormed, notify_contextHashTable]
    exact h.recordSections _ _ _ _

/-- The states agree on everything that the requests of a process depend on: the settings, and the
context of the process. -/
structure SameFor (p : UInt32) (s s' : DriverState) : Prop where
  settings : s.SameSettings s'
  context : rsLookupProcessContext s p = rsLookupProcessContext s' p
  wellFormed : s.WellFormed
  wellFormed' : s'.WellFormed

namespace SameFor

theorem control (h : SameFor p s s') (k : Control) : SameFor p (k.apply s) (k.apply s') where
  settings := h.settings.control k
  context := by
    cases k with
    | removeProcessContext q =>
      simp only [Control.apply]
      rw [lookup_removeProcessContext h.wellFormed, lookup_removeProcessContext h.wellFormed',
        h.context]
    | addDynamicAllowlistEntry entry =>
      simp only [Control.apply, rsAddDynamicAllowlistEntry]
      split_ifs <;> exact h.context
    | applyConfig | setMonitoring | clearDynamicAllowlist | drawSequence | getBlockedPids
    | getPidCounts | connect | disconnect => exact h.context
  wellFormed := wellFormed_apply h.wellFormed k
  wellFormed' := wellFormed_apply h.wellFormed' k

theorem controls (h : SameFor p s s') (ks : List Control) :
    SameFor p (exec Control.apply s ks) (exec Control.apply s' ks) := by
  induction ks generalizing s s' with
  | nil => exact h
  | cons k ks ih => exact ih (h.control k)

variable (upcase) in
theorem preOperation (h : SameFor p s s') (data : FltCallbackData) :
    SameFor p (preOperation upcase s data).state (preOperation upcase s' data).state where
  settings := (DriverState.SameSettings.preOperation upcase s data).trans
    (h.settings.trans (DriverState.SameSettings.preOperation upcase s' data).symm)
  context := by
    have hpasses := h.settings.passes_eq upcase data
    cases hpass : data.passes upcase s with
    | true =>
      rw [preOperation_of_passes hpass, preOperation_of_passes (hpasses ▸ hpass)]
      exact h.context
    | false =>
      rw [lookup_preOperation hpass, lookup_preOperation (hpasses ▸ hpass), h.settings.config,
        h.context]
  wellFormed := wellFormed_preOperation h.wellFormed data
  wellFormed' := wellFormed_preOperation h.wellFormed' data

variable (upcase) in
/-- **Events keep states the same for a process.** -/
theorem apply (h : SameFor p s s') (e : DriverEvent) :
    SameFor p (e.apply upcase s) (e.apply upcase s') := by
  cases e with
  | request data => exact h.preOperation upcase data
  | message input output =>
    simp only [DriverEvent.apply]
    rw [rsMessageNotifyCallback_state, rsMessageNotifyCallback_state, messageControls_congr s' s]
    exact h.controls _
  | connect clientPort => exact h.control (.connect clientPort)
  | disconnect => exact h.control .disconnect
  | exit processId => exact h

end SameFor

/-! ### Histories are runs -/

/-- **Every sequential history is a run of the driver** with concurrent calls. -/
theorem reachable_after (upcase : UInt16 → UInt16) (h : List DriverEvent) :
    ∃ s : SystemState, Reachable upcase s ∧ s.driver = after upcase h ∧
      ∃ n, ∀ c : CallId, n ≤ c.serial → s.calls c = none := by
  -- the invariant keeps numbers free for the calls of the requests to come
  refine exec_induction (I := fun _ d => ∃ s : SystemState, Reachable upcase s ∧ s.driver = d ∧
    ∃ n, ∀ c : CallId, n ≤ c.serial → s.calls c = none)
    ⟨SystemState.init, ⟨[], rfl⟩, rfl, 0, fun _ _ => rfl⟩ ?_
  intro ds e _ ih
  obtain ⟨s, hs, hdriver, n, hnew⟩ := ih
  rw [← hdriver]
  have hcontrols : ∀ ks, ∃ s' : SystemState, Reachable upcase s' ∧
      s'.driver = exec Control.apply s.driver ks ∧
      ∃ n, ∀ c : CallId, n ≤ c.serial → s'.calls c = none := fun ks =>
    ⟨_, hs.run (run_controls upcase s ks), rfl, n, hnew⟩
  cases e with
  | request data =>
    obtain ⟨a, steps, s', -, hrun, hstate, -, hcalls⟩ :=
      run_preOperation upcase (c := ⟨data.requestorProcessId, n⟩) (hnew _ le_rfl) rfl
    refine ⟨s', hs.run hrun, hstate, n + 1, ?_⟩
    intro c hc
    have hne : c ≠ ⟨data.requestorProcessId, n⟩ := by
      rintro rfl
      exact absurd hc (Nat.not_succ_le_self n)
    rw [hcalls c hne]
    exact hnew c (Nat.le_of_succ_le hc)
  | message input output =>
    simp only [DriverEvent.apply]
    rw [rsMessageNotifyCallback_state]
    exact hcontrols _
  | connect clientPort => exact hcontrols [.connect clientPort]
  | disconnect => exact hcontrols [.disconnect]
  | exit processId => exact ⟨s, hs, rfl, n, hnew⟩

end RansomShield
