import RansomShield.Client.RansomShieldModule
import RansomShield.Guarantees.PathAgreement
import RansomShield.Machine.Simulation
import RansomShield.Tracker.Window

/-!
# Stricter settings deny no less

Two histories with the same requests and messages, except that the configuration messages of the
second one set a lower threshold or a longer window (`StricterMessage`).  Then whatever is denied in
the first one is denied in the second one, request by request, and whoever is blocked after the
first one is blocked after the second one (`stricter_settings`).

The longer window keeps more entries in the ring, and as the times of a process do not decrease,
the entries kept by the shorter one are the last of them (`slide_suffix_slide`).  So the states of
the two histories stay related (`DriverState.Stricter`): a context of the second one is blocked, or
ends with the entries of the first one.
-/

namespace RansomShield

open RsProcessContext

/-! ### The window -/

section

variable {w w' t : Int64} {entries entries' : List Int64}

theorem recent_of_le (hw : w ≤ w') {x : Int64} (h : recent w t x = true) :
    recent w' t x = true := by
  rw [recent, decide_eq_true_eq] at h ⊢
  exact Int64.le_trans h hw

/-- **A longer window keeps more**: what the shorter one keeps are the last of the entries that the
longer one keeps. -/
theorem slide_suffix_slide (hw : w ≤ w') (ht : 0 ≤ t) (hordered : Ordered entries')
    (h : entries <:+ entries') : slide w entries t <:+ slide w' entries' t := by
  have hpairwise := hordered.pairwise
  have hfilter : entries.filter (recent w t) <:+ entries'.filter (recent w' t) := by
    have hshort : entries.filter (recent w t) <:+ entries' := by
      refine (Window.filter_suffix_of_pairwise (hpairwise.sublist h.sublist) ?_).trans h
      exact fun x y hxy hx => recent_mono ht hxy hx
    have hlong : entries'.filter (recent w' t) <:+ entries' :=
      Window.filter_suffix_of_pairwise hpairwise fun x y hxy hx => recent_mono ht hxy hx
    refine List.suffix_of_suffix_length_le hshort hlong ?_
    rw [← List.countP_eq_length_filter, ← List.countP_eq_length_filter]
    exact h.sublist.countP_le.trans (List.countP_mono_left fun x _ hx => recent_of_le hw hx)
  obtain ⟨u, hu⟩ := hfilter
  rw [slide_eq, slide_eq, ← hu]
  exact Window.rtake_suffix_rtake ⟨u, (List.append_assoc _ _ _).symm⟩ _

theorem ordered_slide (hordered : Ordered entries) (ht : 0 ≤ t) (hlast : ∀ x ∈ entries, x ≤ t) :
    Ordered (slide w entries t) := by
  have hsub := slide_sublist (w := w) (t := t) (List.Sublist.refl entries)
  refine ⟨List.Pairwise.sublist hsub ?_, fun x hx => ?_⟩
  · rw [List.pairwise_append]
    refine ⟨hordered.1, List.pairwise_singleton _ _, fun x hx y hy => ?_⟩
    rw [List.mem_singleton.1 hy]
    exact hlast x hx
  · rcases List.mem_append.1 (hsub.subset hx) with hx | hx
    · exact hordered.2 x hx
    · rw [List.mem_singleton.1 hx]
      exact ht

end

/-! ### Contexts -/

/-- A threshold that is no higher, a window that is no shorter. -/
structure RsConfig.Stricter (cfg cfg' : RsConfig) : Prop where
  fileCountThreshold : cfg'.fileCountThreshold ≤ cfg.fileCountThreshold
  timeWindowTicks : cfg.timeWindowTicks ≤ cfg'.timeWindowTicks
  monitoringEnabled : cfg'.monitoringEnabled = cfg.monitoringEnabled

/-- The contexts of a process in the two histories. -/
inductive ContextStricter : Option RsProcessContext → Option RsProcessContext → Prop
  | none : ContextStricter none none
  /-- The stricter settings have blocked the process. -/
  | blocked {ctx ctx' : RsProcessContext} (h : ctx'.isBlocked = true) :
    ContextStricter (some ctx) (some ctx')
  /-- Neither have. -/
  | tracked {ctx ctx' : RsProcessContext} (h : ctx.isBlocked = false) (h' : ctx'.isBlocked = false)
    (valid : ctx.valid <:+ ctx'.valid) : ContextStricter (some ctx) (some ctx')

variable {cfg cfg' : RsConfig} {t : Int64} {p : UInt32} {image : Option UnicodeString}

theorem recordAndEvaluate_stricter (hcfg : cfg.Stricter cfg') {ctx ctx' : RsProcessContext}
    (ht : 0 ≤ t) (hordered : Ordered ctx'.valid) (h : ctx.isBlocked = false)
    (h' : ctx'.isBlocked = false) (hvalid : ctx.valid <:+ ctx'.valid) :
    ContextStricter (some (recordAndEvaluate cfg ctx t).context)
        (some (recordAndEvaluate cfg' ctx' t).context) ∧
      ((recordAndEvaluate cfg ctx t).shouldBlock = true →
        (recordAndEvaluate cfg' ctx' t).shouldBlock = true) := by
  have hslide := slide_suffix_slide hcfg.timeWindowTicks ht hordered hvalid
  have hcount : (recordAndEvaluate cfg ctx t).recentCount ≤
      (recordAndEvaluate cfg' ctx' t).recentCount := by
    rw [UInt32.le_iff_toNat_le, toNat_recentCount, toNat_recentCount]
    exact hslide.sublist.countP_le.trans
      (List.countP_mono_left fun x _ hx => recent_of_le hcfg.timeWindowTicks hx)
  have hblock : (recordAndEvaluate cfg ctx t).shouldBlock = true →
      (recordAndEvaluate cfg' ctx' t).shouldBlock = true := by
    rw [shouldBlock_iff, shouldBlock_iff, hcfg.monitoringEnabled]
    rintro ⟨hthreshold, -, hmonitoring⟩
    refine ⟨?_, h', hmonitoring⟩
    exact UInt32.le_trans (UInt32.le_trans hcfg.fileCountThreshold hthreshold) hcount
  refine ⟨?_, hblock⟩
  cases hshould : (recordAndEvaluate cfg' ctx' t).shouldBlock with
  | true => exact .blocked (by rw [recordAndEvaluate_isBlocked, hshould, Bool.or_true])
  | false =>
    have hnot : (recordAndEvaluate cfg ctx t).shouldBlock = false := by
      rw [← Bool.not_eq_true]
      exact fun hb => Bool.false_ne_true (hshould.symm.trans (hblock hb))
    refine .tracked ?_ ?_ ?_
    · rw [recordAndEvaluate_isBlocked, h, hnot, Bool.or_false]
    · rw [recordAndEvaluate_isBlocked, h', hshould, Bool.or_false]
    · rw [valid_recordAndEvaluate, valid_recordAndEvaluate]
      exact hslide

theorem result_status (e : Evaluation) (p : UInt32) : (e.result p).status = .success := rfl

theorem result_shouldBlock (e : Evaluation) (p : UInt32) :
    (e.result p).shouldBlock = e.shouldBlock := rfl

/-- **One operation**: it is not denied less, and the contexts stay related. -/
theorem recordContext_stricter (hcfg : cfg.Stricter cfg')
    {context context' : Option RsProcessContext} (ht : 0 ≤ t)
    (hordered : ∀ ctx' ∈ context', Ordered ctx'.valid) (h : ContextStricter context context')
    (allocates : Bool) :
    ContextStricter (recordContext cfg context p image t allocates).1
        (recordContext cfg' context' p image t allocates).1 ∧
      ((recordContext cfg context p image t allocates).2.status =
        (recordContext cfg' context' p image t allocates).2.status) ∧
      ((recordContext cfg context p image t allocates).2.shouldBlock = true →
        (recordContext cfg' context' p image t allocates).2.shouldBlock = true) := by
  cases h with
  | none =>
    cases allocates with
    | false =>
      simp only [recordContext, Bool.false_eq_true, if_false]
      exact ⟨.none, trivial, id⟩
    | true =>
      have hfree : (rsCreateProcessContext p image).isBlocked = false := rfl
      have hnew := valid_rsCreateProcessContext p image
      have hnil : Ordered (rsCreateProcessContext p image).valid := by
        rw [hnew]
        exact ⟨List.Pairwise.nil, by simp⟩
      obtain ⟨hctx, hblock⟩ :=
        recordAndEvaluate_stricter hcfg ht hnil hfree hfree List.suffix_rfl
      simp only [recordContext, if_true, result_status, result_shouldBlock]
      exact ⟨hctx, trivial, hblock⟩
  | @blocked ctx ctx' hblocked =>
    simp only [recordContext, hblocked, if_true]
    split_ifs
    · exact ⟨.blocked hblocked, rfl, fun _ => rfl⟩
    · exact ⟨.blocked hblocked, result_status _ _, fun _ => rfl⟩
  | @tracked ctx ctx' hfree hfree' hvalid =>
    obtain ⟨hctx, hblock⟩ :=
      recordAndEvaluate_stricter hcfg ht (hordered ctx' rfl) hfree hfree' hvalid
    simp only [recordContext, hfree, hfree', Bool.false_eq_true, if_false, result_status,
      result_shouldBlock]
    exact ⟨hctx, trivial, hblock⟩

/-! ### The driver -/

/-- What is denied in the first history is denied in the second one. -/
def Decision.NoLess (d d' : Decision) : Prop :=
  d = .complete (some .accessDenied) → d' = .complete (some .accessDenied)

/-- The driver in the two histories. -/
structure DriverState.Stricter (s s' : DriverState) : Prop where
  config : s.config.Stricter s'.config
  dynamicAllowlist : s'.dynamicAllowlist = s.dynamicAllowlist
  dynamicAllowlistCount : s'.dynamicAllowlistCount = s.dynamicAllowlistCount
  contexts : ∀ p, ContextStricter (rsLookupProcessContext s p) (rsLookupProcessContext s' p)
  wellFormed : s.WellFormed
  wellFormed' : s'.WellFormed

variable {upcase : UInt16 → UInt16} {s s' : DriverState}

theorem stricter_init : DriverState.Stricter .init .init where
  config := ⟨UInt32.le_refl _, Int64.le_refl _, rfl⟩
  dynamicAllowlist := rfl
  dynamicAllowlistCount := rfl
  contexts _ := .none
  wellFormed := wellFormed_init
  wellFormed' := wellFormed_init

theorem windowTicks_le {seconds seconds' : UInt32} (h : seconds ≤ seconds') :
    windowTicks seconds ≤ windowTicks seconds' := by
  have hle : seconds.toNat ≤ seconds'.toNat := h
  rw [Int64.le_iff_toInt_le, toInt_windowTicks, toInt_windowTicks]
  omega

/-- A stricter configuration; zero stands for no change. -/
structure StricterUpdate (threshold threshold' seconds seconds' : UInt32) : Prop where
  threshold_le : threshold' ≤ threshold
  threshold_eq_zero : threshold' = 0 ↔ threshold = 0
  seconds_le : seconds ≤ seconds'
  seconds_eq_zero : seconds' = 0 ↔ seconds = 0

namespace DriverState.Stricter

theorem applyConfig (h : s.Stricter s') {threshold threshold' seconds seconds' : UInt32}
    (hupdate : StricterUpdate threshold threshold' seconds seconds') (monitoring : UInt8) :
    (rsApplyConfig s threshold seconds monitoring).Stricter
      (rsApplyConfig s' threshold' seconds' monitoring) := by
  refine ⟨⟨?_, ?_, rfl⟩, h.dynamicAllowlist, h.dynamicAllowlistCount, h.contexts, h.wellFormed,
    h.wellFormed'⟩
  · dsimp only [rsApplyConfig]
    split_ifs with hpos' hpos hpos
    · exact hupdate.threshold_le
    · exact absurd (UInt32.pos_iff_ne_zero.2 fun hz =>
        (UInt32.pos_iff_ne_zero.1 hpos') (hupdate.threshold_eq_zero.2 hz)) hpos
    · exact absurd (UInt32.pos_iff_ne_zero.2 fun hz =>
        (UInt32.pos_iff_ne_zero.1 hpos) (hupdate.threshold_eq_zero.1 hz)) hpos'
    · exact h.config.fileCountThreshold
  · dsimp only [rsApplyConfig]
    split_ifs with hpos hpos' hpos'
    · exact windowTicks_le hupdate.seconds_le
    · exact absurd (UInt32.pos_iff_ne_zero.2 fun hz =>
        (UInt32.pos_iff_ne_zero.1 hpos) (hupdate.seconds_eq_zero.1 hz)) hpos'
    · exact absurd (UInt32.pos_iff_ne_zero.2 fun hz =>
        (UInt32.pos_iff_ne_zero.1 hpos') (hupdate.seconds_eq_zero.2 hz)) hpos
    · exact h.config.timeWindowTicks

theorem control (h : s.Stricter s') (k : Control) : (k.apply s).Stricter (k.apply s') := by
  obtain ⟨hconfig, hallowlist, hcount, hcontexts, hs, hs'⟩ := h
  cases k with
  | applyConfig threshold seconds monitoring =>
    have hrel : s.Stricter s' := ⟨hconfig, hallowlist, hcount, hcontexts, hs, hs'⟩
    exact hrel.applyConfig ⟨UInt32.le_refl _, Iff.rfl, UInt32.le_refl _, Iff.rfl⟩ monitoring
  | setMonitoring value =>
    exact ⟨⟨hconfig.1, hconfig.2, rfl⟩, hallowlist, hcount, hcontexts, hs, hs'⟩
  | removeProcessContext p =>
    have hsettings := DriverState.SameSettings.of_sameGlobals (sameGlobals_removeProcessContext s p)
    have hsettings' :=
      DriverState.SameSettings.of_sameGlobals (sameGlobals_removeProcessContext s' p)
    refine ⟨?_, ?_, ?_, fun q => ?_, hs.removeProcessContext p, hs'.removeProcessContext p⟩
    · dsimp only [Control.apply]
      rw [hsettings.config, hsettings'.config]
      exact hconfig
    · exact hsettings'.dynamicAllowlist.trans (hallowlist.trans hsettings.dynamicAllowlist.symm)
    · exact hsettings'.dynamicAllowlistCount.trans
        (hcount.trans hsettings.dynamicAllowlistCount.symm)
    · dsimp only [Control.apply]
      rw [lookup_removeProcessContext hs, lookup_removeProcessContext hs']
      split_ifs
      · exact .none
      · exact hcontexts q
  | clearDynamicAllowlist => exact ⟨hconfig, rfl, rfl, hcontexts, hs, hs'⟩
  | addDynamicAllowlistEntry entry =>
    simp only [Control.apply, rsAddDynamicAllowlistEntry, hallowlist, hcount]
    split_ifs
    · exact ⟨hconfig, hallowlist, hcount, hcontexts, hs, hs'⟩
    · exact ⟨hconfig, rfl, rfl, hcontexts, hs, hs'⟩
    · exact ⟨hconfig, hallowlist, hcount, hcontexts, hs, hs'⟩
  | drawSequence | getBlockedPids | getPidCounts | connect | disconnect =>
    exact ⟨hconfig, hallowlist, hcount, hcontexts, hs, hs'⟩

theorem controls (h : s.Stricter s') (ks : List Control) :
    (exec Control.apply s ks).Stricter (exec Control.apply s' ks) :=
  exec_forall₂ (Q := Eq) (fun _ _ k _ hrel hk => hk ▸ hrel.control k) h (List.forall₂_refl ks)

theorem passes_eq (h : s.Stricter s') (data : FltCallbackData) :
    data.passes upcase s' = data.passes upcase s := by
  unfold FltCallbackData.passes imageAllowlisted rsIsProcessAllowlisted
  rw [h.dynamicAllowlist, h.dynamicAllowlistCount]

variable (upcase) in
/-- **A request** is not denied less under stricter settings. -/
theorem preOperation (h : s.Stricter s') {data : FltCallbackData}
    (hordered : ∀ ctx' ∈ rsLookupProcessContext s' data.requestorProcessId, Ordered ctx'.valid) :
    (preOperation upcase s data).state.Stricter (preOperation upcase s' data).state ∧
      (RansomShield.preOperation upcase s data).completion.decision.NoLess
        (RansomShield.preOperation upcase s' data).completion.decision := by
  have hsettings := DriverState.SameSettings.preOperation upcase s data
  have hsettings' := DriverState.SameSettings.preOperation upcase s' data
  cases hpass : data.passes upcase s with
  | true =>
    rw [preOperation_of_passes hpass, preOperation_of_passes ((h.passes_eq data).trans hpass)]
    exact ⟨h, id⟩
  | false =>
    have hpass' : data.passes upcase s' = false := (h.passes_eq data).trans hpass
    obtain ⟨hctx, hstatus, hblock⟩ := recordContext_stricter h.config
      (p := data.requestorProcessId) data.interruptTime.nonneg
      hordered (h.contexts _) data.allocates
    refine ⟨⟨?_, ?_, ?_, fun q => ?_, wellFormed_preOperation h.wellFormed data,
      wellFormed_preOperation h.wellFormed' data⟩, ?_⟩
    · rw [hsettings.config, hsettings'.config]
      exact h.config
    · exact hsettings'.dynamicAllowlist.trans
        (h.dynamicAllowlist.trans hsettings.dynamicAllowlist.symm)
    · exact hsettings'.dynamicAllowlistCount.trans
        (h.dynamicAllowlistCount.trans hsettings.dynamicAllowlistCount.symm)
    · rw [lookup_preOperation hpass, lookup_preOperation hpass']
      split_ifs with hq
      · subst hq
        exact hctx
      · exact h.contexts q
    · rw [preOperation_eq, preOperation_eq, if_neg (by simp [hpass]), if_neg (by simp [hpass'])]
      simp only [decision_complete, (rsRecordOperation_eq ..).2, (recordSections_eq ..).1]
      rw [hstatus]
      intro hdenied
      split_ifs at hdenied with hcond
      rw [if_pos ⟨hcond.1, hblock hcond.2⟩]

end DriverState.Stricter

/-! ### Times -/

/-- The time of a request of a process. -/
def DriverEvent.timeOf (p : UInt32) : DriverEvent → Option Int64
  | .request data =>
    if data.requestorProcessId = p then some data.interruptTime.ticks else none
  | _ => none

/-- The times of the requests of a process. -/
def requestTimes (p : UInt32) (es : List DriverEvent) : List Int64 := es.filterMap (·.timeOf p)

/-- The entries of each ring are in order, and no later than the requests to come. -/
def DriverState.Timely (s : DriverState) (es : List DriverEvent) : Prop :=
  ∀ p, ∀ ctx ∈ rsLookupProcessContext s p,
    Ordered ctx.valid ∧ ∀ x ∈ ctx.valid, ∀ t ∈ requestTimes p es, x ≤ t

/-- A locked section leaves a context as it is, or removes it. -/
theorem mem_lookup_control (hs : s.WellFormed) (k : Control) {ctx : RsProcessContext}
    (h : ctx ∈ rsLookupProcessContext (k.apply s) p) : ctx ∈ rsLookupProcessContext s p := by
  cases k with
  | removeProcessContext q =>
    dsimp only [Control.apply] at h
    rw [lookup_removeProcessContext hs] at h
    split_ifs at h
    · cases h
    · exact h
  | addDynamicAllowlistEntry entry =>
    simp only [Control.apply, rsAddDynamicAllowlistEntry] at h
    split_ifs at h <;> exact h
  | applyConfig | setMonitoring | clearDynamicAllowlist | drawSequence | getBlockedPids
  | getPidCounts | connect | disconnect => exact h

theorem ordered_recordContext (cfg : RsConfig) {context : Option RsProcessContext}
    (ht : 0 ≤ t) (h : ∀ ctx ∈ context, Ordered ctx.valid ∧ ∀ x ∈ ctx.valid, x ≤ t)
    (allocates : Bool) :
    ∀ ctx ∈ (recordContext cfg context p image t allocates).1,
      Ordered ctx.valid ∧ ∀ x ∈ ctx.valid, x ≤ t := by
  have hslide : ∀ ctx : RsProcessContext, Ordered ctx.valid → (∀ x ∈ ctx.valid, x ≤ t) →
      Ordered (recordAndEvaluate cfg ctx t).context.valid ∧
        ∀ x ∈ (recordAndEvaluate cfg ctx t).context.valid, x ≤ t := by
    intro ctx hordered hlast
    rw [valid_recordAndEvaluate]
    refine ⟨ordered_slide hordered ht hlast, fun x hx => ?_⟩
    rcases List.mem_append.1 ((slide_sublist (List.Sublist.refl ctx.valid)).subset hx) with hx | hx
    · exact hlast x hx
    · rw [List.mem_singleton.1 hx]
      exact Int64.le_refl t
  cases context with
  | none =>
    cases allocates with
    | false =>
      simp only [recordContext, Bool.false_eq_true, if_false]
      intro ctx hctx
      cases hctx
    | true =>
      simp only [recordContext, if_true]
      rintro _ ⟨⟩
      have hnew := valid_rsCreateProcessContext p image
      exact hslide _ (by rw [hnew]; exact ⟨List.Pairwise.nil, by simp⟩) (by simp [hnew])
  | some ctx =>
    obtain ⟨hordered, hlast⟩ := h ctx rfl
    simp only [recordContext]
    split_ifs
    · rintro _ ⟨⟩
      exact ⟨hordered, hlast⟩
    · rintro _ ⟨⟩
      exact hslide ctx hordered hlast

namespace DriverState.Timely

variable {e : DriverEvent} {es : List DriverEvent}

theorem tail (h : s.Timely (e :: es)) : s.Timely es := by
  intro p ctx hctx
  obtain ⟨hordered, hlast⟩ := h p ctx hctx
  refine ⟨hordered, fun x hx t ht => hlast x hx t ?_⟩
  exact ((List.sublist_cons_self e es).filterMap _).subset ht

theorem controls (h : s.Timely es) (hs : s.WellFormed) (ks : List Control) :
    (exec Control.apply s ks).Timely es := by
  have hsame := exec_invariant (f := Control.apply)
    (I := fun d => d.WellFormed ∧
      ∀ p, ∀ ctx ∈ rsLookupProcessContext d p, ctx ∈ rsLookupProcessContext s p) ks
    ⟨hs, fun _ _ hctx => hctx⟩ fun d k _ hd =>
      ⟨wellFormed_apply hd.1 k, fun p ctx hctx => hd.2 p ctx (mem_lookup_control hd.1 k hctx)⟩
  exact fun p ctx hctx => h p ctx (hsame.2 p ctx hctx)

theorem preOperation {data : FltCallbackData} (h : s.Timely (.request data :: es))
    (horder : ∀ p, (requestTimes p (.request data :: es)).Pairwise (· ≤ ·)) :
    (preOperation upcase s data).state.Timely es := by
  cases hpass : data.passes upcase s with
  | true =>
    rw [preOperation_of_passes hpass]
    exact h.tail
  | false =>
    intro p ctx hctx
    rw [lookup_preOperation hpass] at hctx
    split_ifs at hctx with hp
    · subst hp
      have htimes : requestTimes data.requestorProcessId (.request data :: es) =
          data.interruptTime.ticks :: requestTimes data.requestorProcessId es := by
        simp [requestTimes, DriverEvent.timeOf]
      have hpairwise := horder data.requestorProcessId
      rw [htimes, List.pairwise_cons] at hpairwise
      obtain ⟨hordered, hlast⟩ := ordered_recordContext s.config data.interruptTime.nonneg
        (fun ctx hctx => ⟨(h _ ctx hctx).1, fun x hx => (h _ ctx hctx).2 x hx _
          (by rw [htimes]; exact List.mem_cons_self)⟩) data.allocates ctx hctx
      exact ⟨hordered, fun x hx t ht => Int64.le_trans (hlast x hx) (hpairwise.1 t ht)⟩
    · exact h.tail p ctx hctx

end DriverState.Timely

/-! ### Histories -/

/-- Two configuration messages, of which the second sets a lower threshold or a longer window: the
driver reads such values from them, and carries out both or neither. -/
structure StricterMessage (bytes bytes' : List UInt8) (output output' : Option ℕ) : Prop where
  type : requestType bytes = some .updateConfig
  type' : requestType bytes' = some .updateConfig
  update : StricterUpdate (readUlong bytes 16) (readUlong bytes' 16) (readUlong bytes 20)
    (readUlong bytes' 20)
  monitoring : bytes.getD 24 0 = bytes'.getD 24 0
  status : (rsMessageNotifyCallback .init (some bytes) output).status = .success ↔
    (rsMessageNotifyCallback .init (some bytes') output').status = .success

/-- The same event, or a stricter configuration. -/
inductive DriverEvent.Stricter : DriverEvent → DriverEvent → Prop
  | same (e : DriverEvent) : Stricter e e
  | updateConfig {bytes bytes' : List UInt8} {output output' : Option ℕ}
    (h : StricterMessage bytes bytes' output output') :
    Stricter (.message (some bytes) output) (.message (some bytes') output')

theorem StricterMessage.state {bytes bytes' : List UInt8} {output output' : Option ℕ}
    (h : StricterMessage bytes bytes' output output') (hs : s.Stricter s') :
    (rsMessageNotifyCallback s (some bytes) output).state.Stricter
      (rsMessageNotifyCallback s' (some bytes') output').state := by
  rw [rsMessageNotifyCallback_state, rsMessageNotifyCallback_state, messageControls_congr s .init,
    messageControls_congr s' .init, messageControls, messageControls, h.type, h.type']
  by_cases hsuccess : (rsMessageNotifyCallback .init (some bytes) output).status = .success
  · rw [if_pos hsuccess, if_pos (h.status.1 hsuccess)]
    simp only [Option.elim_some, requestControls]
    rw [← h.monitoring]
    exact (hs.applyConfig h.update _).control .drawSequence
  · rw [if_neg hsuccess, if_neg fun h' => hsuccess (h.status.2 h')]
    exact hs

variable (upcase) in
/-- **A stricter event** keeps the states related, and does not deny less. -/
theorem DriverEvent.Stricter.apply {e e' : DriverEvent} (he : e.Stricter e') (hs : s.Stricter s')
    {es : List DriverEvent} (htimely : s'.Timely (e :: es)) :
    (e.apply upcase s).Stricter (e'.apply upcase s') ∧
      List.Forall₂ Decision.NoLess (e.decision upcase s).toList (e'.decision upcase s').toList := by
  cases he with
  | same =>
    cases e with
    | request data =>
      obtain ⟨hstate, hdecision⟩ := hs.preOperation upcase
        fun ctx' hctx' => (htimely _ ctx' hctx').1
      exact ⟨hstate, .cons hdecision .nil⟩
    | message input output =>
      refine ⟨?_, .nil⟩
      dsimp only [DriverEvent.apply]
      rw [rsMessageNotifyCallback_state, rsMessageNotifyCallback_state, messageControls_congr s' s]
      exact hs.controls _
    | connect port => exact ⟨hs.control (.connect port), .nil⟩
    | disconnect => exact ⟨hs.control .disconnect, .nil⟩
    | exit => exact ⟨hs, .nil⟩
  | updateConfig hmessage => exact ⟨hmessage.state hs, .nil⟩

theorem DriverEvent.Stricter.timely {e e' : DriverEvent} (he : e.Stricter e')
    {es : List DriverEvent} (hs : s.WellFormed) (htimely : s.Timely (e :: es))
    (horder : ∀ p, (requestTimes p (e :: es)).Pairwise (· ≤ ·)) :
    (e'.apply upcase s).Timely es := by
  have hmessage : ∀ input output,
      (DriverEvent.apply upcase s (.message input output)).Timely es := by
    intro input output
    dsimp only [DriverEvent.apply]
    rw [rsMessageNotifyCallback_state]
    exact htimely.tail.controls hs _
  cases he with
  | same =>
    cases e with
    | request data => exact htimely.preOperation horder
    | message input output => exact hmessage input output
    | connect port => exact htimely.tail.controls hs [.connect port]
    | disconnect => exact htimely.tail.controls hs [.disconnect]
    | exit => exact htimely.tail
  | updateConfig => exact hmessage _ _

variable (upcase) in
theorem decisions_stricter {es es' : List DriverEvent}
    (h : List.Forall₂ DriverEvent.Stricter es es')
    (horder : ∀ p, (requestTimes p es).Pairwise (· ≤ ·)) (hs : s.Stricter s')
    (htimely : s'.Timely es) :
    List.Forall₂ Decision.NoLess (decisions upcase s es) (decisions upcase s' es') ∧
      (exec (DriverEvent.apply upcase) s es).Stricter
        (exec (DriverEvent.apply upcase) s' es') := by
  induction h generalizing s s' with
  | nil => exact ⟨.nil, hs⟩
  | @cons e e' es es' he _ ih =>
    obtain ⟨hnext, hdecision⟩ := he.apply upcase hs htimely
    obtain ⟨hrest, hend⟩ := ih
      (fun p => (horder p).sublist ((List.sublist_cons_self e es).filterMap _)) hnext
      (he.timely hs.wellFormed' htimely horder)
    exact ⟨List.rel_append hdecision hrest, hend⟩

/-- **Stricter settings deny no less.**  Take any history in which the times of each process do not
decrease, and lower the thresholds or lengthen the windows in its configuration messages: every
request that was denied is denied, and every process that was blocked in the end is blocked. -/
theorem stricter_settings (upcase : UInt16 → UInt16) (es es' : List DriverEvent)
    (h : List.Forall₂ DriverEvent.Stricter es es')
    (horder : ∀ p, (requestTimes p es).Pairwise (· ≤ ·)) :
    List.Forall₂ Decision.NoLess (decisions upcase .init es) (decisions upcase .init es') ∧
    ∀ p ctx, rsLookupProcessContext (after upcase es) p = some ctx → ctx.isBlocked = true →
      ∃ ctx', rsLookupProcessContext (after upcase es') p = some ctx' ∧ ctx'.isBlocked = true := by
  obtain ⟨hdecisions, hend⟩ := decisions_stricter upcase h horder stricter_init
    fun p ctx hctx => by cases hctx
  refine ⟨hdecisions, fun p ctx hctx hblocked => ?_⟩
  have hcontext := hend.contexts p
  unfold after at hctx ⊢
  rw [hctx] at hcontext
  revert hcontext
  generalize rsLookupProcessContext (exec _ _ es') p = context'
  rintro (- | hblocked' | ⟨hfree, -, -⟩)
  · exact ⟨_, rfl, hblocked'⟩
  · exact absurd (hblocked.symm.trans hfree) (by decide)

/-- A configuration, and two writes of a process. -/
def writesUnder (sequenceNumber threshold seconds : UInt32) : List DriverEvent :=
  [.message (some (updateConfigRequest sequenceNumber threshold seconds 1)) (some 24),
    .request (writeRequest 8 .apcLevel (rtlInitUnicodeString []) (.ofTicks 3) true),
    .request (writeRequest 8 .apcLevel (rtlInitUnicodeString []) (.ofTicks 7) true)]

theorem stricter_settings_writesUnder :
    decisions id .init (writesUnder 1 2 5) = [.allow, .complete (some .accessDenied)] ∧
      List.Forall₂ Decision.NoLess (decisions id .init (writesUnder 1 2 5))
        (decisions id .init (writesUnder 6 1 9)) := by
  refine ⟨by decide +kernel, ?_⟩
  have hmessage : StricterMessage (updateConfigRequest 1 2 5 1) (updateConfigRequest 6 1 9 1)
      (some 24) (some 24) :=
    ⟨by decide, by decide, ⟨by decide, by decide, by decide, by decide⟩, by decide, by decide⟩
  have h : List.Forall₂ DriverEvent.Stricter (writesUnder 1 2 5) (writesUnder 6 1 9) :=
    .cons (.updateConfig hmessage) (.cons (.same _) (.cons (.same _) .nil))
  refine (stricter_settings id _ _ h fun p => ?_).1
  have htimes : requestTimes p (writesUnder 1 2 5) = if 8 = p then [3, 7] else [] := by
    unfold requestTimes writesUnder
    simp only [List.filterMap_cons, List.filterMap_nil, DriverEvent.timeOf, writeRequest]
    split_ifs <;> rfl
  rw [htimes]
  split_ifs
  · decide
  · exact .nil

end RansomShield
