import RansomShield.Guarantees.NoFalseBlock
import RansomShield.Guarantees.StickyBlock
import RansomShield.System.Dispatch
import RansomShield.Tracker.Reports
import Mathlib.Data.List.Perm.Basic

/-!
# One notification per block

`RsRecordOperation` builds the notification of a block from copies it takes under the lock and from
the count it has just computed; a query reads the context itself, at any later time.  Both agree:
the ring is pruned before the count, so that the count is the number of its entries
(`operationCount_eq_recentCount`), and a blocked context does not change any more.

So the `notifications` of a process are its `transitions`, one to one, and agree with the reports
until the process is unblocked (`notification_exact`); `due_cases` says how a step changes what a
call has to notify.
-/

namespace RansomShield

/-! ### The arguments of a notification -/

/-- The count that is sent to the client is the count that the context stores. -/
theorem operationCount_eq_recentCount {cfg : RsConfig} (hw : 0 ≤ cfg.timeWindowTicks)
    (ctx : RsProcessContext) (t : Int64) :
    (recordAndEvaluate cfg ctx t).context.operationCount.1 =
      (recordAndEvaluate cfg ctx t).recentCount := by
  apply UInt32.toNat_inj.1
  rw [toNat_recentCount, ← RsProcessContext.length_valid, valid_recordAndEvaluate, eq_comm,
    List.countP_eq_length]
  intro x hx
  exact decide_eq_true (RsProcessContext.age_le_of_mem_slide hw hx)

/-- What a query has to report of a process, if it agrees with a notification. -/
def BlockNotification.entry (n : BlockNotification) : RsBlockedPidEntry where
  processId := n.processId
  imageName := n.imageName
  blockedTimestamp := n.blockedTimestamp
  operationCount := n.operationCount

/-- An evaluation that decides to notify has blocked the context, and the notification agrees with
it. -/
theorem entry_of_notification {cfg : RsConfig} (hw : 0 ≤ cfg.timeWindowTicks)
    {ctx : RsProcessContext} {p : UInt32} (hp : ctx.processId = p) {t : Int64}
    {n : BlockNotification} (hn : ((recordAndEvaluate cfg ctx t).result p).notification = some n) :
    (recordAndEvaluate cfg ctx t).shouldBlock = true ∧
      n.entry = (recordAndEvaluate cfg ctx t).context.blockedEntry := by
  simp only [Evaluation.result, Option.ite_none_right_eq_some, Option.some.injEq] at hn
  obtain ⟨hblock, rfl⟩ := hn
  refine ⟨hblock, ?_⟩
  simp only [BlockNotification.entry, RsProcessContext.blockedEntry,
    operationCount_eq_recentCount hw, recordAndEvaluate_processId, hp]

theorem processId_of_notification {e : Evaluation} {p : UInt32} {n : BlockNotification}
    (hn : (e.result p).notification = some n) : n.processId = p := by
  simp only [Evaluation.result, Option.ite_none_right_eq_some, Option.some.injEq] at hn
  rw [← hn.2]

/-! ### What happens along a run -/

/-- The notification that a call is about to send. -/
def CallPhase.due : CallPhase → Option BlockNotification
  | .notifying _ n => some n
  | _ => none

/-- The callback of the call has let its request pass, or `RsRecordOperation` has returned. -/
def CallPhase.over : CallPhase → Bool
  | .passed => true
  | .returned _ => true
  | _ => false

/-- The notification that a call is about to send. -/
def SystemState.due (s : SystemState) (c : CallId) : Option BlockNotification :=
  (s.calls c).bind fun call => call.phase.due

/-- No call is in flight. -/
def SystemState.Idle (s : SystemState) : Prop :=
  ∀ c call, s.calls c = some call → call.phase.over = true

/-- The call that an action is a step of. -/
def Action.caller : Action → Option CallId
  | .pass c _ => some c
  | .track c _ => some c
  | .call c _ _ => some c
  | .advance c _ => some c
  | .control _ => none

/-- `IsBlocked` of a process turns from `FALSE` to `TRUE`: the call that does it, and the entry
that describes the context from then on. -/
def transition (p : UInt32) (s : SystemState) (a : Action) (s' : SystemState) :
    List (Option CallId × RsBlockedPidEntry) :=
  if s.driver.blocks p then []
  else
    ((rsLookupProcessContext s'.driver p).filter RsProcessContext.isBlocked).toList.map
      fun ctx => (a.caller, ctx.blockedEntry)

/-- `RsSendBlockNotification` is called for a process: it begins by copying the client port. -/
def notificationCall (p : UInt32) (s : SystemState) (a : Action) (_ : SystemState) :
    List (CallId × BlockNotification) :=
  match a with
  | .advance c .snapshotPort =>
    ((s.due c).filter fun n => n.processId = p).toList.map fun n => (c, n)
  | _ => []

/-- The transitions of a process along a run. -/
def transitions (upcase : UInt16 → UInt16) (p : UInt32) (as : List Action) :
    List (Option CallId × RsBlockedPidEntry) :=
  (system upcase).outputs (transition p) SystemState.init as

/-- The calls of `RsSendBlockNotification` for a process along a run. -/
def notifications (upcase : UInt16 → UInt16) (p : UInt32) (as : List Action) :
    List (CallId × BlockNotification) :=
  (system upcase).outputs (notificationCall p) SystemState.init as

theorem mem_transition {p : UInt32} {s s' : SystemState} {a : Action}
    {x : Option CallId × RsBlockedPidEntry} :
    x ∈ transition p s a s' ↔ s.driver.blocks p = false ∧
      ∃ ctx, rsLookupProcessContext s'.driver p = some ctx ∧ ctx.isBlocked = true ∧
        x = (a.caller, ctx.blockedEntry) := by
  unfold transition
  split_ifs with hb
  · simp [hb]
  · simp only [List.mem_map, Option.mem_toList, Option.filter_eq_some_iff, and_assoc, hb,
      true_and]
    exact exists_congr fun ctx => and_congr_right fun _ => and_congr_right fun _ => eq_comm

/-- A record that grows by at most one entry, with a new key, has every key once. -/
theorem nodup_map_append {α β : Type*} {f : α → β} {l l' : List α} (h : (l.map f).Nodup)
    (hlen : l'.length ≤ 1) (hnew : ∀ x ∈ l, ∀ y ∈ l', f x ≠ f y) : ((l ++ l').map f).Nodup := by
  match l', hlen with
  | [], _ => rwa [List.append_nil]
  | [y], _ =>
    rw [List.map_append, List.map_singleton, List.nodup_append]
    refine ⟨h, List.nodup_singleton _, ?_⟩
    rintro b hb c hc rfl
    obtain ⟨x, hx, rfl⟩ := List.mem_map.1 hb
    exact hnew x hx y (List.mem_singleton_self y) (List.mem_singleton.1 hc)

theorem length_transition_le (p : UInt32) (s : SystemState) (a : Action) (s' : SystemState) :
    (transition p s a s').length ≤ 1 := by
  unfold transition
  split_ifs
  · exact Nat.zero_le _
  · rw [List.length_map]
    exact Option.length_toList_le

theorem length_notificationCall_le (p : UInt32) (s : SystemState) (a : Action)
    (s' : SystemState) : (notificationCall p s a s').length ≤ 1 := by
  unfold notificationCall
  split
  · rw [List.length_map]
    exact Option.length_toList_le
  · exact Nat.zero_le _

theorem mem_notificationCall {p : UInt32} {s s' : SystemState} {a : Action}
    {c : CallId} {n : BlockNotification} :
    (c, n) ∈ notificationCall p s a s' ↔
      a = .advance c .snapshotPort ∧ s.due c = some n ∧ n.processId = p := by
  cases a with
  | advance d step => cases step <;> simp [notificationCall]; grind
  | _ => simp [notificationCall]

/-! ### One step -/

theorem result_update {s s' : SystemState} {c : CallId} {call : Call}
    (h : s'.calls = Function.update s.calls c (some call)) (d : CallId) :
    s'.result d = if d = c then call.phase.result else s.result d :=
  bind_update h _ d

theorem due_update {s s' : SystemState} {c : CallId} {call : Call}
    (h : s'.calls = Function.update s.calls c (some call)) (d : CallId) :
    s'.due d = if d = c then call.phase.due else s.due d :=
  bind_update h _ d

/-- What a step does to what a call has to notify. -/
inductive DueStep (s : SystemState) (a : Action) (c : CallId) (s' : SystemState) : Prop
  /-- Nothing. -/
  | same (ha : a ≠ .advance c .snapshotPort) (hresult : s'.result c = s.result c)
      (hdue : s'.due c = s.due c)
  /-- The call is decided, and has its notification to send, if there is one. -/
  | decided (ha : a ≠ .advance c .snapshotPort) (hnone : s.result c = none) (r : RecordResult)
      (hresult : s'.result c = some r) (hdue : s'.due c = r.notification)
  /-- The notification is sent. -/
  | notified (ha : a = .advance c .snapshotPort) (n : BlockNotification) (hn : s.due c = some n)
      (hresult : s'.result c = s.result c) (hdue : s'.due c = none)

theorem due_phase (p : UInt32) (r : SectionResult) :
    (r.phase p).due = (r.result p).bind RecordResult.notification ∧
      (r.phase p).result = r.result p := by
  unfold SectionResult.phase
  cases r.result p with
  | none => exact ⟨rfl, rfl⟩
  | some result => cases h : result.notification <;> simp [CallPhase.due, CallPhase.result, h]

theorem DueStep.endSection {s : SystemState} {a : Action} {c : CallId} {call : Call}
    (hcall : s.calls c = some call) (hphase : call.phase.result = none)
    (ha : a ≠ .advance c .snapshotPort) (outcome : DriverState × SectionResult) :
    DueStep s a c (s.endSection c call outcome) := by
  have hnone : s.result c = none := by simp [SystemState.result, hcall, hphase]
  have hdue : s.due c = none := by
    rw [SystemState.due, hcall, Option.bind_some]
    cases hp : call.phase <;> simp_all [CallPhase.due, CallPhase.result]
  have hresult' := result_update (SystemState.endSection_calls s c call outcome) c
  have hdue' := due_update (SystemState.endSection_calls s c call outcome) c
  rw [if_pos rfl] at hresult' hdue'
  obtain ⟨hd, hr⟩ := due_phase c.processId outcome.2
  cases hout : outcome.2.result c.processId with
  | none =>
    refine .same ha ?_ ?_
    · rw [hresult', hr, hout, hnone]
    · rw [hdue', hd, hout, hdue]
      rfl
  | some r =>
    refine .decided ha hnone r ?_ ?_
    · rw [hresult', hr, hout]
    · rw [hdue', hd, hout]
      rfl

theorem DueStep.setPhase {s s' : SystemState} {a : Action} {c : CallId} {call : Call}
    (hcall : s.calls c = some call) {phase : CallPhase}
    (hs' : s'.calls = Function.update s.calls c (some { call with phase := phase }))
    (ha : a ≠ .advance c .snapshotPort) (hresult : phase.result = call.phase.result)
    (hdue : phase.due = call.phase.due) : DueStep s a c s' := by
  refine .same ha ?_ ?_
  · rw [result_update hs', if_pos rfl, SystemState.result, hcall]
    exact hresult
  · rw [due_update hs', if_pos rfl, SystemState.due, hcall]
    exact hdue

/-- **A step of a call**, and what it has to notify. -/
theorem DueStep.of_callStep {s s' : SystemState} {c : CallId} {call : Call} {step : CallStep}
    (hcall : s.calls c = some call) (h : callStep s c call step = some s') :
    DueStep s (.advance c step) c s' := by
  unfold callStep at h
  split at h
  · next hp =>
    cases h
    exact .endSection hcall (by rw [hp]; rfl) (by simp) _
  · next hp =>
    cases h
    exact .setPhase hcall rfl (by simp) (by rw [hp]; rfl) (by rw [hp]; rfl)
  · next hp =>
    cases h
    refine .decided (by simp) ?_ RecordResult.outOfMemory ?_ ?_
    · rw [SystemState.result, hcall, Option.bind_some, hp]
      rfl
    · rw [result_update rfl, if_pos rfl]
      rfl
    · rw [due_update rfl, if_pos rfl]
      rfl
  · next hp =>
    cases h
    exact .endSection hcall (by rw [hp]; rfl) (by simp) _
  · next result n hp =>
    have hn : s.due c = some n := by rw [SystemState.due, hcall, Option.bind_some, hp]; rfl
    have hr : s.result c = some result := by
      rw [SystemState.result, hcall, Option.bind_some, hp]; rfl
    split at h <;> cases h <;> refine .notified rfl n hn ?_ ?_
    · rw [result_update rfl, if_pos rfl, hr]; rfl
    · rw [due_update rfl, if_pos rfl]; rfl
    · rw [result_update rfl, if_pos rfl, hr]; rfl
    · rw [due_update rfl, if_pos rfl]; rfl
  · next hp =>
    cases h
    exact .setPhase hcall rfl (by simp) (by rw [hp]; rfl) (by rw [hp]; rfl)
  · next hp =>
    cases h
    exact .setPhase hcall rfl (by simp) (by rw [hp]; rfl) (by rw [hp]; rfl)
  · cases h

variable {upcase : UInt16 → UInt16} {s s' : SystemState} {a : Action}

/-- **A step of the driver**, and what a call has to notify. -/
theorem due_cases (h : (system upcase).step s a = some s') (c : CallId) : DueStep s a c s' := by
  obtain ⟨d, call, hnew, hphase, rfl⟩ | ⟨d, step, call, rfl, hcall, hcs⟩ | ⟨k, rfl, rfl⟩ :=
    system_step_cases h
  · -- a new call has nothing to notify
    have ha : a ≠ .advance c .snapshotPort := by
      rintro rfl
      obtain ⟨call', hcall', hcs⟩ := Option.bind_eq_some_iff.1 h
      obtain ⟨phase, hcalls⟩ := callStep_calls hcs
      have hd : d ≠ c := by
        rintro rfl
        cases hnew.symm.trans hcall'
      have hcalls_d := congrFun hcalls d
      simp [hd, hnew] at hcalls_d
    refine .same ha ?_ ?_
    · rw [result_update (s.start_calls d call)]
      split_ifs with hc
      · subst hc
        rw [SystemState.result, hnew]
        rcases hphase with hp | hp <;> rw [hp] <;> rfl
      · rfl
    · rw [due_update (s.start_calls d call)]
      split_ifs with hc
      · subst hc
        rw [SystemState.due, hnew]
        rcases hphase with hp | hp <;> rw [hp] <;> rfl
      · rfl
  · by_cases hc : c = d
    · subst hc
      exact .of_callStep hcall hcs
    · obtain ⟨phase, hcalls⟩ := callStep_calls hcs
      refine .same ?_ ?_ ?_
      · rintro ⟨⟩
        exact hc rfl
      · rw [result_update hcalls, if_neg hc]
      · rw [due_update hcalls, if_neg hc]
  · exact .same Action.noConfusion rfl rfl

/-- **A call that gets something to notify has blocked its process.** -/
theorem mem_transition_of_notification (hs : Reachable upcase s)
    (h : (system upcase).step s a = some s') {c : CallId} {r : RecordResult}
    {n : BlockNotification} (hbefore : s.result c = none) (hafter : s'.result c = some r)
    (hn : r.notification = some n) :
    n.processId = c.processId ∧ (some c, n.entry) ∈ transition c.processId s a s' := by
  obtain ⟨b, hb, hdecided⟩ := Process.decided_of_step hs.sound h hbefore hafter
  obtain ⟨step, rfl⟩ := hdecided.advance hb
  cases hdecided with
  | outOfMemory | blocked => cases hn
  | record call ctx hcall ha hctx hblocked hs' =>
    have hp : ctx.processId = c.processId := by
      rcases hctx with hctx | ⟨-, rfl⟩
      · exact processId_of_lookup hctx
      · rfl
    obtain ⟨hblock, hentry⟩ := entry_of_notification (zero_le_window hs) hp hn
    refine ⟨processId_of_notification hn, mem_transition.2 ⟨?_, _,
      congrArg Process.State.context hs', ?_, ?_⟩⟩
    · rcases hctx with hctx | ⟨hnone, -⟩
      · have hctx' : rsLookupProcessContext s.driver c.processId = some ctx := hctx
        rw [DriverState.blocks, hctx', Option.any_some, hblocked]
      · have hnone' : rsLookupProcessContext s.driver c.processId = none := hnone
        rw [DriverState.blocks, hnone', Option.any_none]
    · rw [Process.evaluation, recordAndEvaluate_isBlocked]
      exact Bool.or_eq_true_iff.2 (.inr hblock)
    · rw [hentry]
      rfl

/-- **A transition is made by a call**, which then has to notify it. -/
theorem notification_of_mem_transition (hs : Reachable upcase s)
    (h : (system upcase).step s a = some s') {p : UInt32} {x : Option CallId × RsBlockedPidEntry}
    (hx : x ∈ transition p s a s') :
    ∃ c r n, s.result c = none ∧ s'.result c = some r ∧ r.notification = some n ∧
      n.processId = p ∧ x = (some c, n.entry) := by
  obtain ⟨hbefore, ctx', hctx', hb', rfl⟩ := mem_transition.1 hx
  rcases Process.view_cases hs.sound h p with hsame | ⟨b, hb, hcase⟩
  · have hctx : rsLookupProcessContext s.driver p = some ctx' :=
      (congrArg Process.State.context hsame).symm.trans hctx'
    rw [DriverState.blocks, hctx, Option.any_some, hb'] at hbefore
    cases hbefore
  · have hafter : (Process.view p s').blocks = true := by
      have hctx : (Process.view p s').context = some ctx' := hctx'
      rw [Process.State.blocks, hctx, Option.any_some, hb']
    obtain ⟨i, call, ctx, hcall, ha, htarget, hblocked, hblock, hview⟩ :=
      hcase.blocks hbefore hafter
    obtain ⟨step, -, rfl⟩ := ha.advance hb
    have hresult : (Process.view p s').result i =
        some ((Process.evaluation (Process.view p s) call ctx).result p) := by
      rw [hview, Process.result_update rfl, if_pos rfl]
      rfl
    have hnone : (Process.view p s).result i = none := by
      rw [Process.State.result, hcall, Option.bind_some]
      rcases ha with ⟨-, hp⟩ | ⟨-, hp⟩ <;> rw [hp] <;> rfl
    rw [Process.view_result] at hresult hnone
    obtain ⟨n, hn⟩ : ∃ n, ((Process.evaluation (Process.view p s) call ctx).result p).notification
        = some n := by
      simp [Evaluation.result, hblock]
    obtain ⟨hp, hmem⟩ := mem_transition_of_notification hs h hnone hresult hn
    obtain ⟨-, ctx'', hctx'', -, heq⟩ := mem_transition.1 hmem
    cases hctx'.symm.trans hctx''
    exact ⟨⟨p, i⟩, _, n, hnone, hresult, hn, hp, heq.symm⟩

/-! ### Runs -/

/-- What has happened so far agrees with the outcomes of the calls: a call has blocked the process
when its outcome says so, and has notified it when in addition nothing is due. -/
structure NotificationLedger (upcase : UInt16 → UInt16) (p : UInt32) (as : List Action)
    (s : SystemState) : Prop where
  mem_transitions : ∀ x, x ∈ transitions upcase p as ↔ ∃ c r n, s.result c = some r ∧
    r.notification = some n ∧ n.processId = p ∧ x = (some c, n.entry)
  mem_notifications : ∀ c n, (c, n) ∈ notifications upcase p as ↔ n.processId = p ∧
    s.due c = none ∧ ∃ r, s.result c = some r ∧ r.notification = some n
  due : ∀ c n, s.due c = some n → ∃ r, s.result c = some r ∧ r.notification = some n
  /-- A call blocks a process once. -/
  nodup_transitions : ((transitions upcase p as).map Prod.fst).Nodup
  /-- A call notifies once. -/
  nodup_notifications : ((notifications upcase p as).map Prod.fst).Nodup

theorem notificationLedger_init (upcase : UInt16 → UInt16) (p : UInt32) :
    NotificationLedger upcase p [] SystemState.init where
  mem_transitions x := by simp [transitions, SystemState.result, SystemState.init]
  mem_notifications c n := by simp [notifications, SystemState.result, SystemState.init]
  due c n h := by simp [SystemState.due, SystemState.init] at h
  nodup_transitions := List.nodup_nil
  nodup_notifications := List.nodup_nil

variable {p : UInt32} {as : List Action}

/-- **Every step keeps the ledger.** -/
theorem NotificationLedger.step (hl : NotificationLedger upcase p as s)
    (hrun : (system upcase).run SystemState.init as = some s)
    (h : (system upcase).step s a = some s') : NotificationLedger upcase p (as ++ [a]) s' := by
  have hs : Reachable upcase s := ⟨as, hrun⟩
  have htransitions : transitions upcase p (as ++ [a]) =
      transitions upcase p as ++ transition p s a s' := Machine.outputs_concat hrun h
  have hnotifications : notifications upcase p (as ++ [a]) =
      notifications upcase p as ++ notificationCall p s a s' := Machine.outputs_concat hrun h
  refine ⟨?_, ?_, ?_, ?_, ?_⟩
  · intro x
    rw [htransitions, List.mem_append, hl.mem_transitions]
    constructor
    · rintro (⟨c, r, n, hr, hn, hp, rfl⟩ | hx)
      · exact ⟨c, r, n, Process.result_of_step hs.sound h hr, hn, hp, rfl⟩
      · obtain ⟨c, r, n, -, hr, hn, hp, rfl⟩ := notification_of_mem_transition hs h hx
        exact ⟨c, r, n, hr, hn, hp, rfl⟩
    · rintro ⟨c, r, n, hr, hn, hp, rfl⟩
      cases hbefore : s.result c with
      | some r' =>
        cases (Process.result_of_step hs.sound h hbefore).symm.trans hr
        exact .inl ⟨c, r, n, hbefore, hn, hp, rfl⟩
      | none =>
        obtain ⟨hc, hmem⟩ := mem_transition_of_notification hs h hbefore hr hn
        rw [← hc, hp] at hmem
        exact .inr hmem
  · intro c n
    rw [hnotifications, List.mem_append, hl.mem_notifications, mem_notificationCall]
    constructor
    · rintro (⟨hp, hdue, r, hr, hn⟩ | ⟨ha, hdue, hp⟩)
      · cases due_cases h c with
        | same _ hresult hdue' => exact ⟨hp, hdue'.trans hdue, r, hresult.trans hr, hn⟩
        | decided _ hnone => cases hnone.symm.trans hr
        | notified _ m hm => cases hdue.symm.trans hm
      · obtain ⟨r, hr, hn⟩ := hl.due c n hdue
        cases due_cases h c with
        | same hne => exact absurd ha hne
        | decided hne => exact absurd ha hne
        | notified _ m hm hresult hdue' => exact ⟨hp, hdue', r, hresult.trans hr, hn⟩
    · rintro ⟨hp, hdue', r, hr, hn⟩
      cases due_cases h c with
      | same _ hresult hdue => exact .inl ⟨hp, hdue ▸ hdue', r, hresult ▸ hr, hn⟩
      | decided _ _ r' hr' hdue =>
        cases hr'.symm.trans hr
        cases (hdue.symm.trans hdue').symm.trans hn
      | notified ha m hm hresult =>
        obtain ⟨r', hr', hm'⟩ := hl.due c m hm
        cases (hresult.trans hr').symm.trans hr
        cases hm'.symm.trans hn
        exact .inr ⟨ha, hm, hp⟩
  · intro c n hdue'
    cases due_cases h c with
    | same _ hresult hdue =>
      rw [hresult]
      exact hl.due c n (hdue ▸ hdue')
    | decided _ _ r hr hdue => exact ⟨r, hr, hdue.symm.trans hdue'⟩
    | notified _ _ _ _ hdue => cases hdue.symm.trans hdue'
  · rw [htransitions]
    refine nodup_map_append hl.nodup_transitions (length_transition_le p s a s') ?_
    intro x hx y hy hxy
    obtain ⟨d, r, n, hr, -, -, rfl⟩ := (hl.mem_transitions x).1 hx
    obtain ⟨d', r', n', hnone, -, -, -, rfl⟩ := notification_of_mem_transition hs h hy
    cases hxy
    cases hnone.symm.trans hr
  · rw [hnotifications]
    refine nodup_map_append hl.nodup_notifications (length_notificationCall_le p s a s') ?_
    rintro x hx ⟨d, n⟩ hy hxy
    obtain ⟨-, hdue, -⟩ := (hl.mem_notifications x.1 x.2).1 hx
    obtain ⟨-, hdue', -⟩ := mem_notificationCall.1 hy
    cases hxy
    cases hdue.symm.trans hdue'

theorem notificationLedger_of_run (hrun : (system upcase).run SystemState.init as = some s)
    (p : UInt32) : NotificationLedger upcase p as s :=
  Machine.run_induction (M := system upcase) (I := NotificationLedger upcase p) hrun
    (notificationLedger_init upcase p) fun _ _ _ _ _ hu hl hstep => hl.step hu hstep

theorem context_of_run {ctx : RsProcessContext} {bs : List Action} (hs : Reachable upcase s)
    (hctx : rsLookupProcessContext s.driver p = some ctx) (hb : ctx.isBlocked = true)
    (hrun : (system upcase).run s bs = some s')
    (hno : ∀ b ∈ bs, b ≠ .control (.removeProcessContext p)) :
    rsLookupProcessContext s'.driver p = some ctx :=
  Machine.run_induction (M := system upcase)
    (I := fun _ u => rsLookupProcessContext u.driver p = some ctx) hrun hctx
    fun _ b _ _ hbs hu hctx' hstep =>
      context_of_step (hs.run hu).sound hctx' hb (hno b (Machine.mem_of_concat hbs)) hstep

/-- The entries of a reply about blocked processes are those that `RsGetBlockedPids` reports. -/
def MessageOutcome.ReportsBlocked (m : MessageOutcome) (d : DriverState) : Prop :=
  ∀ header count entries, m.reply = some (.blockedPids header count entries) →
    entries = rsGetBlockedPids d rsMaxReportBlocked

theorem reportsBlocked (d : DriverState) (input : Option (List UInt8)) (output : Option ℕ) :
    (rsMessageNotifyCallback d input output).ReportsBlocked d := by
  have hinvalid : (invalidParameter d).ReportsBlocked d := by intro _ _ _ h; cases h
  have hcheck : ∀ {size : ℕ} {go : MessageOutcome}, go.ReportsBlocked d →
      (withOutputBuffer d output size go).ReportsBlocked d := by
    intro size go hgo
    refine withOutputBuffer_cases (P := fun m => m.ReportsBlocked d) ?_ fun _ _ _ => hgo
    intro _ _ _ h
    cases h
  have hgeneric : ∀ {t : RsMessageType} {change : DriverState → DriverState},
      (genericRequest d t output change).ReportsBlocked d := by
    intro t change
    exact hcheck fun _ _ _ h => by cases h
  have hallowlist : ∀ {t : RsMessageType} {size maxEntries offset : ℕ} {bytes : List UInt8},
      (allowlistRequest d t size maxEntries offset bytes output).ReportsBlocked d := by
    intro t size maxEntries offset bytes
    unfold allowlistRequest
    split_ifs
    · exact hinvalid
    · refine hcheck ?_
      simp only []
      split_ifs
      · exact hinvalid
      · exact hgeneric
  unfold rsMessageNotifyCallback
  split
  · exact hinvalid
  · split_ifs
    · exact hinvalid
    · exact hinvalid
    · split
      · exact hcheck fun _ _ _ h => by cases h; rfl
      · unfold requestUnblockPid
        split_ifs
        · exact hinvalid
        · exact hcheck fun _ _ _ h => by cases h
      · exact hcheck fun _ _ _ h => by cases h
      · exact hcheck fun _ _ _ h => by cases h
      · exact hgeneric
      · exact hgeneric
      · unfold updateConfig
        split_ifs
        · exact hinvalid
        · exact hgeneric
      · exact hgeneric
      · exact hallowlist
      · exact hallowlist
      · exact hinvalid

/-- A reply to `RsQueryBlockedPids` lists the entry, when the query acquires the lock in this
state. -/
def SystemState.Lists (s : SystemState) (e : RsBlockedPidEntry) : Prop :=
  ∃ input output header count entries, (rsMessageNotifyCallback s.driver input output).reply =
    some (.blockedPids header count entries) ∧ e ∈ entries

theorem SystemState.Lists.context {e : RsBlockedPidEntry} (h : s.Lists e) (hs : s.Sound) :
    ∃ ctx, rsLookupProcessContext s.driver e.processId = some ctx ∧ e = ctx.blockedEntry := by
  obtain ⟨input, output, header, count, entries, hreply, he⟩ := h
  rw [reportsBlocked s.driver input output header count entries hreply] at he
  obtain ⟨ctx, hctx, -, heq⟩ := lookup_of_mem_rsGetBlockedPids hs.wellFormed he
  exact ⟨ctx, hctx, heq⟩

/-- **One notification per block.**  Along every interleaving of calls, unblocks, configuration
changes and other messages that ends with no call in flight:
* the calls of `RsSendBlockNotification` for a process are, one to one, the steps that turn its
  `IsBlocked` from `FALSE` to `TRUE`, and each of these is a step of a different call;
* until the context of the process is removed, every reply to `RsQueryBlockedPids` that lists the
  process agrees with the notification of the step that blocked it, in all four fields. -/
theorem notification_exact (hrun : (system upcase).run SystemState.init as = some s)
    (hidle : s.Idle) (p : UInt32) :
    ((notifications upcase p as).map fun cn => (some cn.1, cn.2.entry)).Perm
        (transitions upcase p as) ∧
      ((transitions upcase p as).map Prod.fst).Nodup ∧
      ∀ bs a t t', bs ++ [a] <+: as → (system upcase).run SystemState.init bs = some t →
        (system upcase).step t a = some t' → t.driver.blocks p = false →
        t'.driver.blocks p = true →
        ∃ c n, a.caller = some c ∧ (c, n) ∈ notifications upcase p as ∧
          ∀ cs u, (system upcase).run t' cs = some u →
            (∀ b ∈ cs, b ≠ .control (.removeProcessContext p)) →
            ∀ e, u.Lists e → e.processId = p →
              n.processId = e.processId ∧ n.imageName = e.imageName ∧
                n.blockedTimestamp = e.blockedTimestamp ∧
                n.operationCount = e.operationCount := by
  have hl := notificationLedger_of_run hrun p
  have hdue : ∀ c, s.due c = none := by
    intro c
    cases hcall : s.calls c with
    | none => rw [SystemState.due, hcall, Option.bind_none]
    | some call =>
      have hover := hidle c call hcall
      rw [SystemState.due, hcall, Option.bind_some]
      cases hp : call.phase <;> simp_all [CallPhase.due, CallPhase.over]
  have hmem : ∀ x, x ∈ ((notifications upcase p as).map fun cn => (some cn.1, cn.2.entry)) ↔
      x ∈ transitions upcase p as := by
    intro x
    rw [hl.mem_transitions, List.mem_map]
    constructor
    · rintro ⟨⟨c, n⟩, hcn, rfl⟩
      obtain ⟨hp, -, r, hr, hn⟩ := (hl.mem_notifications c n).1 hcn
      exact ⟨c, r, n, hr, hn, hp, rfl⟩
    · rintro ⟨c, r, n, hr, hn, hp, rfl⟩
      exact ⟨(c, n), (hl.mem_notifications c n).2 ⟨hp, hdue c, r, hr, hn⟩, rfl⟩
  refine ⟨(List.perm_ext_iff_of_nodup ?_ hl.nodup_transitions.of_map).2 hmem,
    hl.nodup_transitions, ?_⟩
  · refine List.Nodup.of_map Prod.fst ?_
    rw [List.map_map]
    have hsome := hl.nodup_notifications.map (Option.some_injective CallId)
    rwa [List.map_map] at hsome
  · intro bs a t t' hbs ht hstep hbefore hafter
    have hreach : Reachable upcase t := ⟨bs, ht⟩
    obtain ⟨ctx, hctx, hb⟩ := (Option.any_eq_true _ _).1 hafter
    -- the step is a transition of the run, which has been notified
    have hx : (a.caller, ctx.blockedEntry) ∈ transition p t a t' :=
      mem_transition.2 ⟨hbefore, ctx, hctx, hb, rfl⟩
    have hxs : (a.caller, ctx.blockedEntry) ∈ transitions upcase p as := by
      obtain ⟨rest, rfl⟩ := hbs
      obtain ⟨u, hu, hrest⟩ := Option.bind_eq_some_iff.1
        ((Machine.run_append SystemState.init (bs ++ [a]) rest).symm.trans hrun)
      rw [transitions, Machine.outputs_append hu, Machine.outputs_concat ht hstep]
      exact List.mem_append_left _ (List.mem_append_right _ hx)
    obtain ⟨⟨c, n⟩, hcn, heq⟩ := List.mem_map.1 ((hmem _).2 hxs)
    obtain ⟨hc, hentry⟩ := Prod.mk.inj heq
    refine ⟨c, n, hc.symm, hcn, ?_⟩
    intro cs u hu hno e he hep
    have hreach' : Reachable upcase u := (hreach.step hstep).run hu
    obtain ⟨ctx', hctx', rfl⟩ := he.context hreach'.sound
    rw [hep, context_of_run (hreach.step hstep) hctx hb hu hno] at hctx'
    cases hctx'
    rw [← hentry]
    exact ⟨rfl, rfl, rfl, rfl⟩

theorem calls_of_step (h : (system upcase).step s a = some s') {c : CallId}
    (hc : a.caller ≠ some c) : s'.calls c = s.calls c := by
  have hne : ∀ {d : CallId}, some d ≠ some c → c ≠ d := fun hd hcd => hd (congrArg some hcd.symm)
  cases a with
  | pass d data | track d data =>
    simp only [system, Option.ite_none_right_eq_some, Option.some.injEq] at h
    rw [← h.2, SystemState.start_calls, Function.update_of_ne (hne hc)]
  | call d image t =>
    simp only [system, Option.ite_none_right_eq_some, Option.some.injEq] at h
    rw [← h.2, SystemState.start_calls, Function.update_of_ne (hne hc)]
  | advance d step =>
    obtain ⟨call, -, hcs⟩ := Option.bind_eq_some_iff.1 h
    obtain ⟨phase, hcalls⟩ := callStep_calls hcs
    rw [hcalls, Function.update_of_ne (hne hc)]
  | control k =>
    cases h
    rfl

/-- Two calls of the process 8 race for the block, with the threshold 2; the second one wins, and
notifies. -/
def raceToBlock : List Action :=
  [.control (.connect 3), .control (.applyConfig 2 9 1), .call ⟨8, 0⟩ none (.ofTicks 5),
    .call ⟨8, 1⟩ none (.ofTicks 6), .advance ⟨8, 0⟩ .firstSection,
    .advance ⟨8, 1⟩ .firstSection, .advance ⟨8, 0⟩ (.allocate true),
    .advance ⟨8, 1⟩ (.allocate true), .advance ⟨8, 0⟩ .secondSection,
    .advance ⟨8, 1⟩ .secondSection, .advance ⟨8, 1⟩ .snapshotPort,
    .advance ⟨8, 1⟩ .drawSequence, .advance ⟨8, 1⟩ .sendMessage]

theorem notification_exact_race :
    ∃ s, (system id).run SystemState.init raceToBlock = some s ∧
      (notifications id 8 raceToBlock).length = 1 ∧
      ((notifications id 8 raceToBlock).map fun cn => (some cn.1, cn.2.entry)).Perm
        (transitions id 8 raceToBlock) := by
  obtain ⟨s, hrun, h⟩ := Machine.exists_of_any (system id)
    (fun s => ((s.calls ⟨8, 0⟩).any fun call => call.phase.over) &&
      (s.calls ⟨8, 1⟩).any fun call => call.phase.over)
    SystemState.init raceToBlock (by decide +kernel)
  have hcallers : ∀ a ∈ raceToBlock, a.caller = none ∨ a.caller = some ⟨8, 0⟩ ∨
      a.caller = some ⟨8, 1⟩ := by simp [raceToBlock, Action.caller]
  have hidle : s.Idle := by
    intro c call hcall
    by_cases hc : c = ⟨8, 0⟩ ∨ c = ⟨8, 1⟩
    · simp only [Bool.and_eq_true, Option.any_eq_true] at h
      obtain ⟨⟨call₀, hcall₀, h₀⟩, call₁, hcall₁, h₁⟩ := h
      rcases hc with rfl | rfl
      · cases hcall₀.symm.trans hcall
        exact h₀
      · cases hcall₁.symm.trans hcall
        exact h₁
    · have hnone : s.calls c = none := by
        refine Machine.run_invariant (I := fun s => s.calls c = none) hrun rfl ?_
        intro u a u' hu ha hstep
        rw [calls_of_step hstep ?_, hu]
        intro hcaller
        rcases hcallers a ha with ha | ha | ha <;> simp_all
      cases hnone.symm.trans hcall
  exact ⟨s, hrun, by decide +kernel, (notification_exact hrun hidle 8).1⟩

end RansomShield
