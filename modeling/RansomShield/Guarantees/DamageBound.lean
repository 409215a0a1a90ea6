import RansomShield.Guarantees.NoFalseBlock

/-!
# The damage bound under concurrency

A call reads the time before it acquires the lock, so that operations may be recorded in another
order than that of their times.  With a constant threshold `K` and window `W`, how many operations
of one process can be allowed within one interval of length `W`?

At most `K - 1`, if `K ≤ 2` or no operation is *overtaken*: whenever an operation at `y` is
recorded, those at `x` with `y - x ≤ W` have not been pruned by an operation at `z` with
`z - x > W` that was recorded in between (`damage_bound`).  An overtaken operation is missing from
the count, and the bound fails (`damage_bound_overtaken`).

The invariant is that the ring of an unblocked process holds the survivors of its log
(`Process.Contained`).
-/

namespace RansomShield

/-- The operation is within the interval of the length of the window that starts at `x`. -/
def Operation.inside (w : Int64) (x : ℤ) (op : Operation) : Bool :=
  x ≤ op.time.ticks.toInt ∧ op.time.ticks.toInt ≤ x + w.toInt

/-- The operation was allowed, within the interval that starts at `x`. -/
def Operation.allowedInside (w : Int64) (x : ℤ) (op : Operation) : Bool :=
  !op.shouldBlock && op.inside w x

namespace Process

variable {p : UInt32} {s s' : State} {a : Action} {w : Int64} {K : UInt32}

/-! ### What the ring holds -/

theorem recentCount_lt_of_allowed {call : Call} {ctx : RsProcessContext}
    (hmonitoring : s.config.monitoringEnabled ≠ 0) (hb : ctx.isBlocked = false)
    (hallowed : (evaluation s call ctx).shouldBlock = false) :
    (evaluation s call ctx).recentCount.toNat < s.config.fileCountThreshold.toNat := by
  by_contra hge
  have hblock := (shouldBlock_iff s.config ctx call.currentTime.ticks).2
    ⟨UInt32.le_iff_toNat_le.2 (Nat.le_of_not_lt hge), hb, hmonitoring⟩
  rw [evaluation, hblock] at hallowed
  cases hallowed

/-- What is known of an allowed operation: the ring is not full, and the operations that are counted
are fewer than the threshold. -/
theorem length_of_allowed {call : Call} {ctx : RsProcessContext}
    (hw : 0 ≤ s.config.timeWindowTicks) (hK : s.config.fileCountThreshold.toNat ≤ 256)
    (hmonitoring : s.config.monitoringEnabled ≠ 0) (hb : ctx.isBlocked = false)
    (hallowed : (evaluation s call ctx).shouldBlock = false) :
    (ctx.valid.filter (recent s.config.timeWindowTicks call.currentTime.ticks)).length + 1 <
      s.config.fileCountThreshold.toNat := by
  have hcount := toNat_recentCount s.config ctx call.currentTime.ticks
  have hlt := recentCount_lt_of_allowed hmonitoring hb hallowed
  have hall : ∀ x ∈ RsProcessContext.slide s.config.timeWindowTicks ctx.valid
      call.currentTime.ticks, decide (call.currentTime.ticks - x ≤ s.config.timeWindowTicks) :=
    fun x hx => decide_eq_true (RsProcessContext.age_le_of_mem_slide hw hx)
  rw [List.countP_eq_length.2 hall, RsProcessContext.slide_eq, Window.length_rtake,
    List.length_append, List.length_singleton] at hcount
  rw [evaluation] at hlt
  have hmax : rsMaxOperationsPerPid = 256 := rfl
  omega

theorem slide_of_length_lt {entries : List Int64} {t : Int64}
    (h : (entries.filter (recent w t)).length < 256) :
    RsProcessContext.slide w entries t = entries.filter (recent w t) ++ [t] := by
  rw [RsProcessContext.slide_eq]
  refine Window.rtake_of_length_le ?_
  rw [List.length_append, List.length_singleton]
  exact h

theorem recent_false_trans (hw : 0 ≤ w) {x y z : Int64} (hx : 0 ≤ x) (hy : 0 ≤ y) (hz : 0 ≤ z)
    (hxy : recent w y x = false) (hyz : recent w z y = false) : recent w z x = false := by
  have hw' : 0 ≤ w.toInt := Int64.le_iff_toInt_le.1 hw
  rw [Bool.eq_false_iff, ne_eq, recent_iff hy hx] at hxy
  rw [Bool.eq_false_iff, ne_eq, recent_iff hz hy] at hyz
  rw [Bool.eq_false_iff, ne_eq, recent_iff hz hx]
  omega

/-- If no survivor of a log with gaps is recent, then nothing in the log is. -/
theorem recent_false_of_gaps (hw : 0 ≤ w) {log : List Int64} (hpos : ∀ x ∈ log, 0 ≤ x)
    (hgaps : log.Pairwise fun x y => recent w y x = false) {t : Int64} (ht : 0 ≤ t)
    (hnone : (Window.survivors (recent w) log).filter (recent w t) = []) :
    ∀ x ∈ log, recent w t x = false := by
  induction log using List.reverseRecOn with
  | nil => exact fun x hx => by cases hx
  | append_singleton log l _ =>
    have hlast : recent w t l = false := by
      rw [Window.survivors_concat, List.filter_append, List.append_eq_nil_iff] at hnone
      by_contra hrec
      rw [Bool.not_eq_false] at hrec
      rw [List.filter_cons_of_pos hrec] at hnone
      cases hnone.2
    intro x hx
    rcases List.mem_append.1 hx with hx' | hx'
    · have hxl := (List.pairwise_append.1 hgaps).2.2 x hx' l (List.mem_singleton_self l)
      exact recent_false_trans hw (hpos x hx)
        (hpos l (List.mem_append_right log (List.mem_singleton_self l))) ht hxl hlast
    · rw [List.mem_singleton.1 hx']
      exact hlast

/-! ### The invariant -/

/-- The damage is contained. -/
structure Contained (p : UInt32) (w : Int64) (K : UInt32) (s : State) : Prop where
  /-- The ring of an unblocked process holds the survivors of the log. -/
  ring : ∀ ctx, s.context = some ctx → ctx.isBlocked = false →
    ctx.valid = Window.survivors (recent w) (logTimes s.log)
  /-- With a threshold of at most 2, the operations before a block are further apart than the
  window. -/
  gaps : K.toNat ≤ 2 → s.blocks = false →
    (logTimes s.log).Pairwise fun x y => recent w y x = false
  bound : ∀ x, s.log.countP (Operation.allowedInside w x) < K.toNat
  /-- The calls that returned without a block have recorded their operation. -/
  allowed : Accounted p (fun _ r => r.shouldBlock = false) s.log s

/-- No operation that the call has to count was overtaken. -/
def NotOvertaken (w : Int64) (s : State) (call : Call) : Prop :=
  ∀ x z, [x, z].Sublist (logTimes s.log) → recent w call.currentTime.ticks x = true →
    recent w z x = true

theorem Contained.ring_target (h : Contained p w K s) (hledger : Ledger p s) {call : Call}
    {ctx : RsProcessContext} (hctx : Target p s call ctx) (hb : ctx.isBlocked = false) :
    ctx.valid = Window.survivors (recent w) (logTimes s.log) := by
  rcases hctx with hctx | ⟨hnone, rfl⟩
  · exact h.ring ctx hctx hb
  · rw [hledger.context_none.1 hnone, RsProcessContext.valid_rsCreateProcessContext]
    rfl

theorem blocks_of_target {call : Call} {ctx : RsProcessContext} (hctx : Target p s call ctx)
    (hb : ctx.isBlocked = false) : s.blocks = false := by
  rcases hctx with hctx | ⟨hnone, -⟩
  · rw [State.blocks, hctx]
    exact hb
  · rw [State.blocks, hnone]
    rfl

/-- The parameters are constant: the threshold `K`, the window `w`, monitoring on. -/
structure Constant (w : Int64) (K : UInt32) (cfg : RsConfig) : Prop where
  threshold : cfg.fileCountThreshold = K
  window : cfg.timeWindowTicks = w
  monitoring : cfg.monitoringEnabled ≠ 0

/-- **An allowed operation** finds fewer than `K - 1` logged operations within the window. -/
theorem Contained.countP_recent (h : Contained p w K s) (hledger : Ledger p s)
    (hcfg : Constant w K s.config) (hw : 0 ≤ w) (hK : K.toNat ≤ 256) {call : Call}
    {ctx : RsProcessContext} (hctx : Target p s call ctx) (hb : ctx.isBlocked = false)
    (hallowed : (evaluation s call ctx).shouldBlock = false)
    (horder : K.toNat ≤ 2 ∨ NotOvertaken w s call) :
    (logTimes s.log).countP (recent w call.currentTime.ticks) + 1 < K.toNat := by
  obtain ⟨rfl, rfl, hmonitoring⟩ := hcfg
  have hlength := length_of_allowed hw hK hmonitoring hb hallowed
  rw [h.ring_target hledger hctx hb] at hlength
  -- nothing recent survives in a log with gaps; without overtaking, all that is recent does
  rcases horder with hK2 | horder
  · have hnil : (Window.survivors (recent s.config.timeWindowTicks) (logTimes s.log)).filter
        (recent s.config.timeWindowTicks call.currentTime.ticks) = [] :=
      List.length_eq_zero_iff.1 (by omega)
    have hnone := recent_false_of_gaps hw (fun _ => nonneg_of_mem_logTimes)
      (h.gaps hK2 (blocks_of_target hctx hb)) call.currentTime.nonneg hnil
    rw [List.countP_eq_zero.2 fun x hx => by rw [hnone x hx]; decide]
    omega
  · rwa [Window.filter_survivors horder, ← List.countP_eq_length_filter] at hlength

theorem countP_inside_le (x : ℤ) (w : Int64) (t : InterruptTime) (log : List Operation)
    (ht : t.ticks.toInt ≤ x + w.toInt) :
    log.countP (Operation.inside w x) ≤ (logTimes log).countP (recent w t.ticks) := by
  rw [countP_logTimes, countWithin]
  refine List.countP_mono_left ?_
  intro op _ hop
  rw [Operation.inside, decide_eq_true_eq] at hop
  rw [decide_eq_true_eq]
  omega

theorem countP_allowedInside_le (x : ℤ) (w : Int64) (log : List Operation) :
    log.countP (Operation.allowedInside w x) ≤ log.countP (Operation.inside w x) :=
  List.countP_mono_left fun _ _ hop => (Bool.and_eq_true_iff.1 hop).2

theorem Contained.record (h : Contained p w K s) (hledger : Ledger p s)
    (hcfg : Constant w K s.config) (hw : 0 ≤ w) (hK : K.toNat ≤ 256) {i : ℕ} {call : Call}
    {ctx : RsProcessContext} (hctx : Target p s call ctx)
    (hb : ctx.isBlocked = false) (horder : K.toNat ≤ 2 ∨ NotOvertaken w s call) :
    Contained p w K (recordedState p s i call ctx) := by
  have hcount := fun hallowed => h.countP_recent hledger hcfg hw hK hctx hb hallowed horder
  have hring := h.ring_target hledger hctx hb
  have hblocked : (evaluation s call ctx).context.isBlocked =
      (evaluation s call ctx).shouldBlock := by
    rw [evaluation, recordAndEvaluate_isBlocked, hb, Bool.false_or]
  have hlog := logTimes_recordedState (p := p) s i call ctx
  refine ⟨?_, ?_, ?_, h.allowed.record i call ctx⟩
  · intro ctx' hctx' hb'
    cases hctx'
    have hallowed := hblocked.symm.trans hb'
    have hw' : 0 ≤ s.config.timeWindowTicks := hcfg.window.symm ▸ hw
    have hlength :=
      length_of_allowed hw' (hcfg.threshold.symm ▸ hK) hcfg.monitoring hb hallowed
    rw [hcfg.window, hcfg.threshold] at hlength
    rw [hlog, Window.survivors_concat, ← hring, evaluation, valid_recordAndEvaluate, hcfg.window]
    exact slide_of_length_lt (by omega)
  · intro hK2 hb'
    have hallowed := hcount (hblocked.symm.trans hb')
    have hzero : (logTimes s.log).countP (recent w call.currentTime.ticks) = 0 := by omega
    rw [hlog, List.pairwise_append]
    refine ⟨h.gaps hK2 (blocks_of_target hctx hb), List.pairwise_singleton _ _, ?_⟩
    intro x hx y hy
    rw [List.mem_singleton.1 hy]
    exact Bool.eq_false_iff.2 (List.countP_eq_zero.1 hzero x hx)
  · intro x
    show (s.log ++ [operation p i call (evaluation s call ctx)]).countP _ < _
    rw [List.countP_append, List.countP_singleton]
    split_ifs with hinside
    · rw [Operation.allowedInside, Operation.inside, Bool.and_eq_true, Bool.not_eq_true',
        decide_eq_true_eq] at hinside
      calc s.log.countP (Operation.allowedInside w x) + 1
          ≤ (logTimes s.log).countP (recent w call.currentTime.ticks) + 1 :=
            Nat.succ_le_succ ((countP_allowedInside_le x w s.log).trans
              (countP_inside_le x w call.currentTime s.log hinside.2.2))
        _ < K.toNat := hcount hinside.1
    · exact h.bound x

/-- A step that changes nothing but a pending call, without allowing it. -/
theorem Contained.update (h : Contained p w K s) (i : ℕ) {call : Call}
    (hcall : ∀ r, call.phase = .decided r → r.shouldBlock = true) :
    Contained p w K { s with calls := Function.update s.calls i (some call) } where
  ring := h.ring
  gaps := h.gaps
  bound := h.bound
  allowed := h.allowed.update i fun r hr => by rw [hcall r hr]; exact Bool.noConfusion

/-- **Every step contains the damage**, unless a call records although an operation that it has to
count was overtaken. -/
theorem Contained.step (h : Contained p w K s) (hledger : Ledger p s)
    (hcfg : Constant w K s.config) (hw : 0 ≤ w) (hK : K.toNat ≤ 256) (hstep : Step p s a s')
    (hremove : a ≠ .remove) (halloc : ∀ i, a ≠ .allocate i false)
    (horder : K.toNat ≤ 2 ∨ ∀ i call, Locked a i call → s.calls i = some call →
      s.blocks = false → NotOvertaken w s call) : Contained p w K s' := by
  cases hstep with
  | enter i image t hnew => exact h.update i fun r hr => by cases hr
  | missing i call hcall hphase hnone => exact h.update i fun r hr => by cases hr
  | allocate i call hcall hphase => exact h.update i fun r hr => by cases hr
  | outOfMemory i call hcall hphase => exact absurd rfl (halloc i)
  | blocked a i call ctx hcall ha hctx hblocked => exact h.update i fun r hr => by cases hr; rfl
  | record a i call ctx hcall ha hctx hblocked =>
    exact h.record hledger hcfg hw hK hctx hblocked
      (horder.imp_right fun horder => horder i call ha hcall (blocks_of_target hctx hblocked))
  | applyConfig | setMonitoring => exact ⟨h.ring, h.gaps, h.bound, h.allowed⟩
  | remove => exact absurd rfl hremove

end Process

/-! ### Runs -/

/-- Every closed interval of the length of the window contains fewer than `K` times of calls of the
process that returned without a block. -/
def DamageBound (p : UInt32) (K : UInt32) (w : Int64) (s : SystemState) : Prop :=
  ∀ (x : ℤ) (calls : Finset CallId),
    (∀ c ∈ calls, c.processId = p ∧ (s.result c).any (fun r => !r.shouldBlock) = true ∧
      (s.calls c).any (fun call => x ≤ call.currentTime.ticks.toInt ∧
        call.currentTime.ticks.toInt ≤ x + w.toInt) = true) → calls.card < K.toNat

/-- The action is not a locked section of a call at a time `y`, for an unblocked process, that finds
an operation at `x` with `y - x ≤ w` followed in the log by one at `z` with `z - x > w`. -/
def NoOvertaking (p : UInt32) (w : Int64) (s : SystemState) (a : Action) : Prop :=
  ∀ c step call, a = .advance c step → step = .firstSection ∨ step = .secondSection →
    c.processId = p → s.calls c = some call → s.driver.blocks p = false →
    ∀ x z, [x, z].Sublist (logTimes (operationsOf p s.history)) →
      call.currentTime.ticks.toInt - x.toInt ≤ w.toInt → z.toInt - x.toInt ≤ w.toInt

variable {upcase : UInt16 → UInt16} {s₀ s : SystemState} {as : List Action} {p K : UInt32}
  {w : Int64}

theorem Process.Accounted.card_le {P : ℕ → RecordResult → Prop} {ops : List Operation}
    (h : Accounted p P ops (view p s)) {q : Operation → Bool} {calls : Finset CallId}
    (hcalls : ∀ c ∈ calls, c.processId = p ∧ ∃ r call, s.result c = some r ∧ P c.serial r ∧
      s.calls c = some call ∧ ∀ op : Operation, op.time = call.currentTime →
        op.shouldBlock = r.shouldBlock → q op = true) : calls.card ≤ ops.countP q := by
  -- every such call has recorded an operation of its own
  have hsub : calls ⊆ ((ops.filter q).map Operation.call).toFinset := by
    intro c hc
    obtain ⟨rfl, r, call, hr, hP, hcall, hq⟩ := hcalls c hc
    rw [← Process.view_result c.processId s c.serial] at hr
    obtain ⟨pcall, hpcall, hphase⟩ := Process.result_eq_some hr
    obtain ⟨op, hop, hid, htime, hblock⟩ := h c.serial pcall r hpcall hphase hP
    rw [(Process.of_view_calls hcall hpcall).2] at htime
    have hmem : op ∈ ops.filter q := List.mem_filter.2 ⟨hop, hq op htime hblock⟩
    exact List.mem_toFinset.2 (List.mem_map.2 ⟨op, hmem, hid⟩)
  calc calls.card
      ≤ _ := Finset.card_le_card hsub
    _ ≤ (ops.filter q).length := (List.toFinset_card_le _).trans (List.length_map _).le
    _ = ops.countP q := (List.countP_eq_length_filter ..).symm

theorem Process.Contained.damageBound (h : Contained p w K (view p s)) : DamageBound p K w s := by
  intro x calls hcalls
  refine (h.allowed.card_le ?_).trans_lt (h.bound x)
  intro c hc
  obtain ⟨hp, hresult, htime⟩ := hcalls c hc
  obtain ⟨r, hr, hfree⟩ := (Option.any_eq_true _ _).1 hresult
  have hfalse : r.shouldBlock = false := by simpa using hfree
  obtain ⟨call, hcall, htime⟩ := (Option.any_eq_true _ _).1 htime
  refine ⟨hp, r, call, hr, hfalse, hcall, ?_⟩
  intro op hop hblock
  rw [Operation.allowedInside, Operation.inside, hop, hblock, hfalse]
  exact htime

theorem contained_of_new (hs : Reachable upcase s) (hnew : ∀ i, s.calls ⟨p, i⟩ = none)
    (hK : 1 ≤ K.toNat) : Process.Contained p w K (Process.view p s) := by
  have hledger := Process.ledger_of_reachable hs p
  have hcalls : ∀ i, (Process.view p s).calls i = none := by
    intro i
    show (s.calls ⟨p, i⟩).bind _ = none
    rw [hnew i]
    rfl
  have hlog : (Process.view p s).log = [] := by
    refine List.eq_nil_iff_forall_not_mem.2 ?_
    intro op hop
    obtain ⟨call, -, hcall, -⟩ := hledger.logged op hop
    cases (hcalls _).symm.trans hcall
  have hcontext := hledger.context_none.2 hlog
  refine ⟨?_, ?_, ?_, ?_⟩
  · intro ctx hctx
    cases hcontext.symm.trans hctx
  · intro _ _
    rw [hlog]
    exact List.Pairwise.nil
  · intro x
    rw [hlog]
    exact hK
  · intro i call r hcall
    cases (hcalls i).symm.trans hcall

/-- **The damage bound.**  Let the threshold `K` be between 1 and 256 and constant like the window,
monitoring enabled, no allocation of the process fail and its context never be removed, from its
first call on.  If `K ≤ 2`, or no call of the run records although an operation that it has to count
was overtaken, then every closed interval of the length of the window contains at most `K - 1` times
of its calls that returned without a block, whatever the interleaving. -/
theorem damage_bound (hs₀ : Reachable upcase s₀) (hnew : ∀ i, s₀.calls ⟨p, i⟩ = none)
    (hK : 1 ≤ K.toNat) (hK' : K.toNat ≤ 256) (hrun : (system upcase).run s₀ as = some s)
    (hconstant : (system upcase).Always s₀ as fun s => Process.Constant w K s.driver.config)
    (hremove : ∀ a ∈ as, a ≠ .control (.removeProcessContext p))
    (halloc : ∀ a ∈ as, ∀ i, a ≠ .advance ⟨p, i⟩ (.allocate false))
    (horder : K.toNat ≤ 2 ∨ ∀ bs b t, bs ++ [b] <+: as → (system upcase).run s₀ bs = some t →
      NoOvertaking p w t b) : DamageBound p K w s := by
  have hw : 0 ≤ w := hconstant.start.window ▸ zero_le_window hs₀
  -- the invariant along the run is `Contained`
  refine (Process.run_induction_view (I := Process.Contained p w K) hs₀ hrun
    (contained_of_new hs₀ hnew hK) ?_).damageBound
  intro bs b t b' v hbs ht hreach ih hb' hcase
  have hmem : b ∈ as := Machine.mem_of_concat hbs
  refine ih.step (Process.ledger_of_reachable hreach p) (hconstant.before hbs ht) hw hK' hcase
    ?_ ?_ (horder.imp_right ?_)
  · rintro rfl
    exact hremove b hmem (Process.ofProcess_cases hb')
  · rintro i rfl
    exact halloc b hmem i (Process.ofProcess_cases hb')
  · intro horder i pcall hlocked hpcall hblocks x z hxz hx
    obtain ⟨step, hsection, rfl⟩ := hlocked.advance hb'
    obtain ⟨call, hcall⟩ := Process.exists_of_view_calls hpcall
    have hzpos : 0 ≤ z := nonneg_of_mem_logTimes (hxz.subset (by simp))
    have hxpos : 0 ≤ x := nonneg_of_mem_logTimes (hxz.subset (by simp))
    have hover := horder bs _ t hbs ht ⟨p, i⟩ step call rfl hsection rfl hcall hblocks x z hxz
    rw [(Process.of_view_calls hcall hpcall).2, recent_iff call.currentTime.nonneg hxpos] at hx
    rw [recent_iff hzpos hxpos]
    have := hover (by omega)
    omega

/-! ### The bound at work, and failing -/

/-- The locked sections of the first call of the process 8, which has no context. -/
def createContext : List Action :=
  [.advance ⟨8, 0⟩ .firstSection, .advance ⟨8, 0⟩ (.allocate true),
    .advance ⟨8, 0⟩ .secondSection]

/-- Three calls read the time in order; the last one acquires the lock before the second one, and
prunes the operation of the first one. -/
def overtaken : List Action :=
  [.call ⟨8, 0⟩ none (.ofTicks 10), .call ⟨8, 1⟩ none (.ofTicks 10000010),
    .call ⟨8, 2⟩ none (.ofTicks 10000011)] ++ createContext ++
  [.advance ⟨8, 2⟩ .firstSection, .advance ⟨8, 1⟩ .firstSection]

theorem constant_of_check {threshold seconds : UInt32} {as : List Action}
    (h : (system id).check
      (fun s => s.driver.config == ⟨threshold, seconds, windowTicks seconds, 1⟩)
      { SystemState.init with driver := rsApplyConfig DriverState.init threshold seconds 1 } as =
        true) :
    (system id).Always
      { SystemState.init with driver := rsApplyConfig DriverState.init threshold seconds 1 } as
      fun s => Process.Constant (windowTicks seconds) threshold s.driver.config := by
  intro bs t hbs ht
  have hcfg := beq_iff_eq.1 (Machine.always_of_check _ _ _ _ h bs t hbs ht)
  have hone : (1 : UInt8) ≠ 0 := by decide
  rw [hcfg]
  exact ⟨rfl, rfl, hone⟩

/-- Four calls; the third one acquires the lock behind one that has read a later time, but no
operation of its window was pruned. -/
def swapped : List Action :=
  [.call ⟨8, 0⟩ none (.ofTicks 10), .call ⟨8, 1⟩ none (.ofTicks 10000011),
    .call ⟨8, 2⟩ none (.ofTicks 10000012), .call ⟨8, 3⟩ none (.ofTicks 10000013)] ++
  createContext ++
  [.advance ⟨8, 2⟩ .firstSection, .advance ⟨8, 1⟩ .firstSection, .advance ⟨8, 3⟩ .firstSection]

/-- A computable form of `NoOvertaking`. -/
def keepsOrder (p : UInt32) (w : Int64) (s : SystemState) : Action → Bool
  | .advance c .firstSection | .advance c .secondSection =>
    c.processId != p || (s.calls c).all fun call =>
      decide ((logTimes (operationsOf p s.history)).Pairwise fun x z =>
        call.currentTime.ticks.toInt - x.toInt ≤ w.toInt → z.toInt - x.toInt ≤ w.toInt)
  | _ => true

theorem noOvertaking_of_keepsOrder {a : Action} (h : keepsOrder p w s a = true) :
    NoOvertaking p w s a := by
  rintro c step call rfl hstep rfl hcall - x z hsub hle
  have hpairwise : ((s.calls c).all fun call =>
      decide ((logTimes (operationsOf c.processId s.history)).Pairwise fun x z =>
        call.currentTime.ticks.toInt - x.toInt ≤ w.toInt → z.toInt - x.toInt ≤ w.toInt)) =
      true := by
    rcases hstep with rfl | rfl <;> simpa [keepsOrder] using h
  rw [hcall, Option.all_some, decide_eq_true_eq] at hpairwise
  exact List.pairwise_iff_forall_sublist.1 hpairwise hsub hle

/-- With the threshold 2 the bound holds even in a run with an overtaken operation, and with the
threshold 3 in a run that has none. -/
theorem damage_bound_two_three :
    (∃ s, (system id).run
        { SystemState.init with driver := rsApplyConfig DriverState.init 2 1 1 } overtaken =
          some s ∧
      DamageBound 8 2 (windowTicks 1) s) ∧
    ∃ s, (system id).run
        { SystemState.init with driver := rsApplyConfig DriverState.init 3 1 1 } swapped =
          some s ∧
      s.driver.blocks 8 = true ∧ DamageBound 8 3 (windowTicks 1) s := by
  constructor
  · obtain ⟨s, hrun, -⟩ := Machine.exists_of_any (system id) (fun _ => true)
      { SystemState.init with driver := rsApplyConfig DriverState.init 2 1 1 } overtaken
      (by decide +kernel)
    exact ⟨s, hrun, damage_bound ⟨[.control (.applyConfig 2 1 1)], rfl⟩ (fun _ => rfl) (by decide)
      (by decide) hrun (constant_of_check (by decide +kernel)) (by simp [overtaken, createContext])
      (by simp [overtaken, createContext]) (.inl (by decide))⟩
  · obtain ⟨s, hrun, hblocks⟩ := Machine.exists_of_any (system id)
      (fun s : SystemState => s.driver.blocks 8)
      { SystemState.init with driver := rsApplyConfig DriverState.init 3 1 1 } swapped
      (by decide +kernel)
    have hsteps := Machine.everyStep_of_checkSteps (system id) (keepsOrder 8 (windowTicks 1))
      { SystemState.init with driver := rsApplyConfig DriverState.init 3 1 1 } swapped
      (by decide +kernel)
    refine ⟨s, hrun, hblocks, damage_bound ⟨[.control (.applyConfig 3 1 1)], rfl⟩ (fun _ => rfl)
      (by decide) (by decide) hrun (constant_of_check (by decide +kernel))
      (by simp [swapped, createContext]) (by simp [swapped, createContext]) (.inr ?_)⟩
    exact fun bs b t hb ht => noOvertaking_of_keepsOrder (hsteps bs b t hb ht)

/-- Four calls read the time in order; the last one acquires the lock before the third one, and
prunes the operations of the first two, which the third one has to count. -/
def twiceOvertaken : List Action :=
  [.call ⟨8, 0⟩ none (.ofTicks 10), .call ⟨8, 1⟩ none (.ofTicks 10),
    .call ⟨8, 2⟩ none (.ofTicks 10000010), .call ⟨8, 3⟩ none (.ofTicks 10000011)] ++
  createContext ++
  [.advance ⟨8, 1⟩ .firstSection, .advance ⟨8, 3⟩ .firstSection, .advance ⟨8, 2⟩ .firstSection]

/-- **The damage bound fails** at the threshold 3 and the window of one second: three operations
are allowed that lie within one second. -/
theorem damage_bound_overtaken :
    ∃ s₀ s, Reachable id s₀ ∧ (∀ i, s₀.calls ⟨8, i⟩ = none) ∧
      (system id).run s₀ twiceOvertaken = some s ∧
      ((system id).Always s₀ twiceOvertaken fun s =>
        Process.Constant (windowTicks 1) 3 s.driver.config) ∧
      (∀ a ∈ twiceOvertaken, a ≠ .control (.removeProcessContext 8)) ∧
      (∀ a ∈ twiceOvertaken, ∀ i, a ≠ .advance ⟨8, i⟩ (.allocate false)) ∧
      ¬ DamageBound 8 3 (windowTicks 1) s := by
  obtain ⟨s, hrun, h⟩ := Machine.exists_of_any (system id)
    (fun s => decide (∀ c ∈ [(⟨8, 0⟩ : CallId), ⟨8, 1⟩, ⟨8, 2⟩],
      (s.result c).any (fun r => !r.shouldBlock) = true ∧
        (s.calls c).any (fun call => (10 : ℤ) ≤ call.currentTime.ticks.toInt ∧
          call.currentTime.ticks.toInt ≤ 10 + (windowTicks 1).toInt) = true))
    { SystemState.init with driver := rsApplyConfig DriverState.init 3 1 1 } twiceOvertaken
    (by decide +kernel)
  refine ⟨_, s, ⟨[.control (.applyConfig 3 1 1)], rfl⟩, fun _ => rfl, hrun,
    constant_of_check (by decide +kernel), by simp [twiceOvertaken, createContext],
    by simp [twiceOvertaken, createContext], ?_⟩
  intro hbound
  have hcard := hbound 10 {⟨8, 0⟩, ⟨8, 1⟩, ⟨8, 2⟩} fun c hc => ?_
  · exact absurd hcard (by decide)
  · have hmem : c ∈ [(⟨8, 0⟩ : CallId), ⟨8, 1⟩, ⟨8, 2⟩] := by simpa using hc
    refine ⟨?_, (of_decide_eq_true h) c hmem⟩
    simp only [List.mem_cons, List.not_mem_nil, or_false] at hmem
    rcases hmem with rfl | rfl | rfl <;> rfl

end RansomShield
