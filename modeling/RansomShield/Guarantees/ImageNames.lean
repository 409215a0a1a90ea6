import RansomShield.Buffers.ImagePath
import RansomShield.Client.EventTexts
import RansomShield.Guarantees.Notification
import RansomShield.Guarantees.SequenceNumbers

/-!
# Image names, end to end

The name that the client shows of a blocked process is the beginning of the image path that the
call which created the context was given (`exists_createdFor`, `blockedFor_of_sent`).  It goes from
the context into the arguments of the notification, from there into the message, and into the
replies to queries, always as a whole array that holds the first 259 characters of the path and
zeros behind them (`HoldsPath`); and the alert that is logged for the message fits the buffers of
the logger (`image_names_survive`).

`PathInMemory.copyImageName` is `RsCopyImageNameToContext` at the level of memory, and makes the
same copy (`PathInMemory.copyImageName_eq`).
-/

namespace RansomShield

/-! ### The array -/

/-- The array holds the longest prefix of the path of at most 259 characters, and only zeros behind
it. -/
def HoldsPath (name : Fin rsMaxImageNameLen → UInt16) (path : List UInt16) : Prop :=
  List.ofFn name = path.take (rsMaxImageNameLen - 1) ++
    List.replicate (rsMaxImageNameLen - (path.take (rsMaxImageNameLen - 1)).length) 0

/-- The characters of an image path, none when it is absent. -/
def imageChars (path : Option UnicodeString) : List UInt16 :=
  (path.bind UnicodeString.buffer).getD []

theorem holdsPath_getD (path : List UInt16) :
    HoldsPath (fun i => (path.take (rsMaxImageNameLen - 1)).getD i.val 0) path :=
  ofFn_getD ((List.length_take_le _ _).trans (Nat.sub_le _ _))

/-- **The name of a new context.** -/
theorem holdsPath_rsCopyImageName (path : Option UnicodeString) :
    HoldsPath (rsCopyImageName path) (imageChars path) := by
  have hcopied : copiedName path = (imageChars path).take (rsMaxImageNameLen - 1) := by
    unfold copiedName imageChars
    cases path.bind UnicodeString.buffer with
    | none => rfl
    | some chars => rfl
  unfold rsCopyImageName
  rw [hcopied]
  exact holdsPath_getD (imageChars path)

/-- `RsCopyImageNameToContext`, where `Buffer` is memory and `Length` any number of bytes: the
characters are copied into an array of zeros, and then terminated. -/
def PathInMemory.copyImageName (path : PathInMemory) : Fin rsMaxImageNameLen → UInt16 :=
  match path.memory with
  | none => fun _ => 0
  | some memory =>
    let chars := path.length.toNat / 2
    let copyChars := if rsMaxImageNameLen ≤ chars then rsMaxImageNameLen - 1 else chars
    fun i => if i.val = copyChars then 0 else if i.val < copyChars then memory i.val else 0

theorem PathInMemory.holdsPath_copyImageName (path : PathInMemory) :
    HoldsPath path.copyImageName ((path.memory.map path.chars).getD []) := by
  cases hmemory : path.memory with
  | none =>
    unfold PathInMemory.copyImageName
    rw [hmemory]
    exact holdsPath_getD []
  | some memory =>
    have hcopy : path.copyImageName =
        fun i => ((path.chars memory).take (rsMaxImageNameLen - 1)).getD i.val 0 := by
      unfold PathInMemory.copyImageName
      rw [hmemory]
      funext i
      have hlen : ((path.chars memory).take (rsMaxImageNameLen - 1)).length =
          min (rsMaxImageNameLen - 1) (path.length.toNat / 2) := by
        rw [List.length_take, PathInMemory.chars, List.length_map, List.length_range]
      dsimp only
      by_cases hi : i.val < ((path.chars memory).take (rsMaxImageNameLen - 1)).length
      · rw [List.getD_eq_getElem _ _ hi, List.getElem_take, if_neg, if_pos]
        · simp [PathInMemory.chars]
        · rw [hlen] at hi
          split_ifs <;> omega
        · rw [hlen] at hi
          split_ifs <;> omega
      · rw [List.getD_eq_default _ _ (not_lt.1 hi)]
        rw [hlen] at hi
        split_ifs <;> first | rfl | omega
    rw [hcopy]
    exact holdsPath_getD _

theorem HoldsPath.unique {name name' : Fin rsMaxImageNameLen → UInt16} {path : List UInt16}
    (h : HoldsPath name path) (h' : HoldsPath name' path) : name = name' :=
  List.ofFn_injective (h.trans h'.symm)

/-- **The copy in memory** is the copy of the characters. -/
theorem PathInMemory.copyImageName_eq {path : PathInMemory} {name : UnicodeString}
    (h : path.memory.map path.chars = name.buffer) :
    path.copyImageName = rsCopyImageName (some name) := by
  refine path.holdsPath_copyImageName.unique ?_
  rw [h]
  exact holdsPath_rsCopyImageName (some name)

/-! ### The path of a context -/

/-- The context of the process was created by a call that was given the image path: the first call
that recorded in it. -/
def SystemState.CreatedFor (s : SystemState) (p : UInt32) (path : Option UnicodeString) : Prop :=
  ∃ op ops call, operationsOf p s.history = op :: ops ∧ s.calls op.call = some call ∧
    call.processImageName = path

namespace Process

variable {p : UInt32}

/-- The context has the name of the path that its creator was given. -/
def Named (p : UInt32) (s : State) : Prop :=
  ∀ ctx, s.context = some ctx → ∃ op ops call, s.log = op :: ops ∧ op.call.processId = p ∧
    s.calls op.call.serial = some call ∧ ctx.imageName = rsCopyImageName call.processImageName

theorem Named.update {s : State} (h : Named p s) {i : ℕ} {call' : Call}
    (himage : ∀ call, s.calls i = some call → call.processImageName = call'.processImageName) :
    Named p { s with calls := Function.update s.calls i (some call') } := by
  intro ctx hctx
  obtain ⟨op, ops, call, hlog, hp, hcall, hname⟩ := h ctx hctx
  by_cases hi : op.call.serial = i
  · refine ⟨op, ops, call', hlog, hp, ?_, ?_⟩
    · show Function.update s.calls i (some call') op.call.serial = some call'
      rw [hi, Function.update_self]
    · rw [hname, himage call (hi ▸ hcall)]
  · refine ⟨op, ops, call, hlog, hp, ?_, hname⟩
    show Function.update s.calls i (some call') op.call.serial = some call
    rw [Function.update_of_ne hi]
    exact hcall

theorem Named.setPhase {s : State} (h : Named p s) {i : ℕ} {call : Call}
    (hcall : s.calls i = some call) (phase : Phase) : Named p (s.setPhase i call phase) :=
  h.update fun _ hcall' => by cases hcall.symm.trans hcall'; rfl

/-- **A step keeps the name of the context.** -/
theorem Named.step {s s' : State} {a : Action} (h : Named p s) (hledger : Ledger p s)
    (hstep : Step p s a s') : Named p s' := by
  cases hstep with
  | enter i image t hnew =>
    exact h.update fun call hcall => by cases hnew.symm.trans hcall
  | missing i call hcall | allocate i call hcall | outOfMemory i call hcall =>
    exact h.setPhase hcall _
  | blocked a i call ctx hcall => exact h.setPhase hcall _
  | record a i call ctx hcall ha hctx hblocked =>
    rintro _ ⟨⟩
    rw [evaluation, recordAndEvaluate_imageName]
    rcases hctx with hctx | ⟨hnone, rfl⟩
    · obtain ⟨op, ops, call', hlog, hp, hcall', hname⟩ :=
        h.setPhase hcall (.decided ((evaluation s call ctx).result p)) ctx hctx
      refine ⟨op, ops ++ [operation p i call (evaluation s call ctx)], call', ?_, hp, hcall',
        hname⟩
      exact congrArg (· ++ [operation p i call (evaluation s call ctx)]) hlog
    · -- the first operation of a new context
      have hlog := hledger.context_none.1 hnone
      refine ⟨_, [], _, congrArg (· ++ _) hlog, rfl, Function.update_self .., rfl⟩
  | applyConfig | setMonitoring => exact h
  | remove =>
    intro ctx hctx
    cases hctx

end Process

variable {upcase : UInt16 → UInt16} {s s' : SystemState} {p : UInt32}

theorem Process.named_of_reachable (h : Reachable upcase s) (p : UInt32) :
    Process.Named p (Process.view p s) := by
  obtain ⟨as, hrun⟩ := h
  refine Process.run_induction_view ⟨[], rfl⟩ hrun ?_ ?_
  · rw [Process.view_init]
    intro ctx hctx
    cases hctx
  · intro bs a t b v _ _ hreach hnamed _ hstep
    exact hnamed.step (Process.ledger_of_reachable hreach p) hstep

/-- **A context has the name of the path that it was created for.** -/
theorem exists_createdFor (h : Reachable upcase s) {ctx : RsProcessContext}
    (hctx : rsLookupProcessContext s.driver p = some ctx) :
    ∃ path, s.CreatedFor p path ∧ ctx.imageName = rsCopyImageName path := by
  obtain ⟨op, ops, call, hlog, hp, hcall, hname⟩ := Process.named_of_reachable h p ctx hctx
  obtain ⟨call', hcall', hview⟩ := Option.bind_eq_some_iff.1 hcall
  obtain ⟨phase, -, rfl⟩ := Option.map_eq_some_iff.1 hview
  subst hp
  exact ⟨call'.processImageName, ⟨op, ops, call', hlog, hcall', rfl⟩, hname⟩

/-! ### The name of a notification -/

/-- The process and the image name that a call is going to notify. -/
def CallPhase.named : CallPhase → Option (UInt32 × (Fin rsMaxImageNameLen → UInt16))
  | .notifying _ n => some (n.processId, n.imageName)
  | .drawing _ n _ => some (n.processId, n.imageName)
  | .sending _ _ notification => some (notification.processId, notification.imageName)
  | _ => none

/-- The process and the image name that a call is going to notify. -/
def SystemState.named (s : SystemState) (c : CallId) :
    Option (UInt32 × (Fin rsMaxImageNameLen → UInt16)) :=
  (s.calls c).bind fun call => call.phase.named

theorem named_update {c : CallId} {call : Call}
    (h : s'.calls = Function.update s.calls c (some call)) (d : CallId) :
    s'.named d = if d = c then call.phase.named else s.named d :=
  bind_update h _ d

theorem named_of_unsent {c : CallId} {notification : RsNotificationBlockedPid}
    (h : s.unsent c = some notification) :
    s.named c = some (notification.processId, notification.imageName) := by
  obtain ⟨call, hcall, hphase⟩ := Option.bind_eq_some_iff.1 h
  rw [SystemState.named, hcall, Option.bind_some]
  cases hp : call.phase with
  | sending result port m =>
    rw [hp] at hphase
    cases hphase
    rfl
  | _ =>
    rw [hp] at hphase
    cases hphase

/-- The call is decided by the step, with a notification of this process and name. -/
def DecidesToNotify (s s' : SystemState) (c : CallId)
    (x : UInt32 × (Fin rsMaxImageNameLen → UInt16)) : Prop :=
  ∃ r n, s.result c = none ∧ s'.result c = some r ∧ r.notification = some n ∧
    x = (n.processId, n.imageName)

theorem decidesToNotify_endSection {c : CallId} {call : Call} (hcall : s.calls c = some call)
    (hphase : call.phase.result = none) {outcome : DriverState × SectionResult}
    {x : UInt32 × (Fin rsMaxImageNameLen → UInt16)}
    (hx : (s.endSection c call outcome).named c = some x) :
    DecidesToNotify s (s.endSection c call outcome) c x := by
  rw [named_update (SystemState.endSection_calls s c call outcome), if_pos rfl] at hx
  have hresult : (s.endSection c call outcome).result c = outcome.2.result c.processId := by
    rw [result_update (SystemState.endSection_calls s c call outcome), if_pos rfl]
    exact (due_phase c.processId outcome.2).2
  have hbefore : s.result c = none := by
    rw [SystemState.result, hcall, Option.bind_some, hphase]
  unfold SectionResult.phase at hx
  cases hr : outcome.2.result c.processId with
  | none =>
    rw [hr] at hx
    cases hx
  | some r =>
    rw [hr] at hx hresult
    cases hn : r.notification with
    | none =>
      simp only [hn, CallPhase.named] at hx
      cases hx
    | some n =>
      simp only [hn, CallPhase.named, Option.some.injEq] at hx
      exact ⟨r, n, hbefore, hresult, hn, hx.symm⟩

/-- **What a call notifies** was decided before the step, or by it. -/
theorem named_of_callStep {c : CallId} {call : Call} {step : CallStep}
    (hcall : s.calls c = some call) (h : callStep s c call step = some s')
    {x : UInt32 × (Fin rsMaxImageNameLen → UInt16)} (hx : s'.named c = some x) :
    s.named c = some x ∨ DecidesToNotify s s' c x := by
  have hold : s.named c = call.phase.named := by
    rw [SystemState.named, hcall, Option.bind_some]
  unfold callStep at h
  split at h
  · next hphase =>
    cases h
    exact Or.inr (decidesToNotify_endSection hcall (by rw [hphase]; rfl) hx)
  · cases h
    rw [named_update rfl, if_pos rfl] at hx
    cases hx
  · cases h
    rw [named_update rfl, if_pos rfl] at hx
    cases hx
  · next hphase =>
    cases h
    exact Or.inr (decidesToNotify_endSection hcall (by rw [hphase]; rfl) hx)
  · next hphase =>
    split at h
    · cases h
      rw [named_update rfl, if_pos rfl] at hx
      cases hx
    · cases h
      rw [named_update rfl, if_pos rfl] at hx
      exact Or.inl (by rw [hold, hphase]; exact hx)
  · next hphase =>
    cases h
    rw [named_update rfl, if_pos rfl] at hx
    exact Or.inl (by rw [hold, hphase]; exact hx)
  · cases h
    rw [named_update rfl, if_pos rfl] at hx
    cases hx
  · cases h

theorem named_of_step {a : Action} (h : (system upcase).step s a = some s') {c : CallId}
    {x : UInt32 × (Fin rsMaxImageNameLen → UInt16)} (hx : s'.named c = some x) :
    s.named c = some x ∨ DecidesToNotify s s' c x := by
  obtain ⟨d, call, hnew, hphase, rfl⟩ | ⟨d, step, call, rfl, hcall, hcs⟩ | ⟨k, rfl, rfl⟩ :=
    system_step_cases h
  · rw [named_update (SystemState.start_calls s d call)] at hx
    split_ifs at hx with hc
    · rcases hphase with hphase | hphase
      · rw [hphase] at hx
        cases hx
      · rw [hphase] at hx
        cases hx
    · exact Or.inl hx
  · by_cases hc : c = d
    · subst hc
      exact named_of_callStep hcall hcs hx
    · obtain ⟨phase, hcalls⟩ := callStep_calls hcs
      rw [named_update hcalls, if_neg hc] at hx
      exact Or.inl hx
  · exact Or.inl hx

/-- At some point of the run the process was blocked, in a context with the name that was created
for the path. -/
def BlockedFor (upcase : UInt16 → UInt16) (as : List Action) (p : UInt32)
    (name : Fin rsMaxImageNameLen → UInt16) (path : Option UnicodeString) : Prop :=
  ∃ bs u ctx, bs <+: as ∧ (system upcase).run SystemState.init bs = some u ∧
    rsLookupProcessContext u.driver p = some ctx ∧ ctx.isBlocked = true ∧ ctx.imageName = name ∧
    u.CreatedFor p path

theorem BlockedFor.mono {as as' : List Action} {name : Fin rsMaxImageNameLen → UInt16}
    {path : Option UnicodeString} (h : BlockedFor upcase as p name path) (has : as <+: as') :
    BlockedFor upcase as' p name path := by
  obtain ⟨bs, u, ctx, hbs, hu⟩ := h
  exact ⟨bs, u, ctx, hbs.trans has, hu⟩

theorem blockedFor_of_decidesToNotify {as : List Action} {a : Action} {c : CallId}
    {x : UInt32 × (Fin rsMaxImageNameLen → UInt16)}
    (hrun : (system upcase).run SystemState.init as = some s)
    (hstep : (system upcase).step s a = some s') (h : DecidesToNotify s s' c x) :
    ∃ path, BlockedFor upcase (as ++ [a]) x.1 x.2 path ∧ x.2 = rsCopyImageName path := by
  obtain ⟨r, n, hbefore, hafter, hn, rfl⟩ := h
  have hreach : Reachable upcase s := ⟨as, hrun⟩
  obtain ⟨hp, hmem⟩ := mem_transition_of_notification hreach hstep hbefore hafter hn
  obtain ⟨-, ctx, hctx, hblocked, hentry⟩ := mem_transition.1 hmem
  obtain ⟨path, hcreated, hname⟩ := exists_createdFor (hreach.step hstep) hctx
  have hrun' : (system upcase).run SystemState.init (as ++ [a]) = some s' := by
    rw [Machine.run_concat, hrun]
    exact hstep
  have himage : n.imageName = ctx.imageName :=
    congrArg RsBlockedPidEntry.imageName (Prod.mk.inj hentry).2
  dsimp only
  rw [hp]
  exact ⟨path, ⟨_, s', ctx, List.prefix_rfl, hrun', hctx, hblocked, himage.symm, hcreated⟩,
    himage.trans hname⟩

/-- **The name of a notification** is that of the path that the blocked context was created
for. -/
theorem blockedFor_of_sent {as : List Action}
    (hrun : (system upcase).run SystemState.init as = some s) :
    (∀ c x, s.named c = some x →
      ∃ path, BlockedFor upcase as x.1 x.2 path ∧ x.2 = rsCopyImageName path) ∧
    ∀ message ∈ s.sent, ∃ path,
      BlockedFor upcase as message.2.processId message.2.imageName path ∧
        message.2.imageName = rsCopyImageName path := by
  refine Machine.run_induction (I := fun as s => (∀ c x, s.named c = some x →
      ∃ path, BlockedFor upcase as x.1 x.2 path ∧ x.2 = rsCopyImageName path) ∧
    ∀ message ∈ s.sent, ∃ path,
      BlockedFor upcase as message.2.processId message.2.imageName path ∧
        message.2.imageName = rsCopyImageName path) hrun ⟨?_, ?_⟩ ?_
  · intro c x hx
    cases hx
  · intro message hmem
    cases hmem
  rintro bs b t t' - ht ⟨hnamed, hsent⟩ hstep
  have hmono : ∀ {p name}, (∃ path, BlockedFor upcase bs p name path ∧
      name = rsCopyImageName path) → ∃ path, BlockedFor upcase (bs ++ [b]) p name path ∧
      name = rsCopyImageName path := by
    rintro p name ⟨path, hblocked, hname⟩
    exact ⟨path, hblocked.mono (List.prefix_append _ _), hname⟩
  refine ⟨?_, ?_⟩
  · intro c x hx
    rcases named_of_step hstep hx with hx | hdecides
    · exact hmono (hnamed c x hx)
    · exact blockedFor_of_decidesToNotify ht hstep hdecides
  · intro message hmem
    cases numberStep_of_step hstep with
    | draws _ _ _ _ hsame => exact hmono (hsent message (hsame ▸ hmem))
    | replies _ _ hsame => exact hmono (hsent message (hsame ▸ hmem))
    | other _ _ _ hsame => exact hmono (hsent message (hsame ▸ hmem))
    | @sends c port notification _ hunsent _ _ hsends =>
      rw [hsends, List.mem_append, List.mem_singleton] at hmem
      rcases hmem with hmem | rfl
      · exact hmono (hsent message hmem)
      · exact hmono (hnamed c _ (named_of_unsent hunsent))

/-! ### The log -/

theorem HoldsPath.zero_mem {name : Fin rsMaxImageNameLen → UInt16} {path : List UInt16}
    (h : HoldsPath name path) : 0 ∈ List.ofFn name := by
  have hlen : (path.take (rsMaxImageNameLen - 1)).length ≤ rsMaxImageNameLen - 1 :=
    List.length_take_le _ _
  have hmax : rsMaxImageNameLen = 260 := rfl
  rw [h]
  refine List.mem_append_right _ (List.mem_replicate.2 ⟨?_, rfl⟩)
  omega

theorem HoldsPath.wcs_eq {name : Fin rsMaxImageNameLen → UInt16} {path : List UInt16}
    (h : HoldsPath name path) (hnul : 0 ∉ path) : wcs name = path.take (rsMaxImageNameLen - 1) := by
  rw [wcs, h]
  exact takeWhile_append_replicate (fun hmem => hnul (List.mem_of_mem_take hmem)) _

/-- The text of the alert about a notification. -/
def alertText (n : RsNotificationBlockedPid) : List UInt16 :=
  detectedText n.processId (some (wcs n.imageName)) n.operationCount

/-- The notification is logged: the two texts fit their buffers, and the process goes on. -/
structure AlertLogged (n : RsNotificationBlockedPid) : Prop where
  message : (alertText n).length < 512
  line : ∀ st, (logLine st (wide "ALERT") (alertText n)).length < 2048
  continues : ∀ (logger : EventLogger) st,
    (logger.logEvent st (.blockedPid n.processId n.imageName n.operationCount)).isSome = true

/-- **A notification with an image name is logged**, whatever the process and the count. -/
theorem HoldsPath.logged {n : RsNotificationBlockedPid} {path : List UInt16}
    (h : HoldsPath n.imageName path) : AlertLogged n := by
  have hname : terminatedString n.imageName = some (wcs n.imageName) := if_pos h.zero_mem
  have hmessage : (alertText n).length < 512 := by
    refine length_detectedText_lt _ _ ?_
    rintro _ ⟨⟩
    exact length_of_terminatedString hname
  refine ⟨hmessage, fun st => ?_, fun logger st => ?_⟩
  · have hline : (logLine st (wide "ALERT") (alertText n)).length ≤ (alertText n).length + 52 :=
      length_logLine_le st (by decide)
    omega
  · have htext : eventText (.blockedPid n.processId n.imageName n.operationCount) =
        some (wide "ALERT", alertText n) := by
      rw [eventText, hname]
      rfl
    rw [(EventLogger.logEvent_eq htext (by simp)).2]
    rfl

/-! ### End to end -/

/-- **Image names survive.**  After every run: a notification that was sent carries the beginning of
the path of the call that had created the blocked context, followed by zeros, and its alert and
its line in the log fit their buffers; an entry of a reply to a query carries that of the path of
the call that created the context which is reported; and the copy into the context is made so for
every number of bytes. -/
theorem image_names_survive (upcase : UInt16 → UInt16) (as : List Action) (s : SystemState)
    (hrun : (system upcase).run SystemState.init as = some s) :
    (∀ message ∈ s.sent, ∃ path,
      BlockedFor upcase as message.2.processId message.2.imageName path ∧
        HoldsPath message.2.imageName (imageChars path) ∧
        (0 ∉ imageChars path →
          wcs message.2.imageName = (imageChars path).take (rsMaxImageNameLen - 1)) ∧
        AlertLogged message.2) ∧
    (∀ maxEntries, ∀ e ∈ rsGetBlockedPids s.driver maxEntries, ∃ path,
      s.CreatedFor e.processId path ∧ HoldsPath e.imageName (imageChars path)) ∧
    ∀ path : PathInMemory,
      HoldsPath path.copyImageName ((path.memory.map path.chars).getD []) := by
  have hreach : Reachable upcase s := ⟨as, hrun⟩
  refine ⟨?_, ?_, PathInMemory.holdsPath_copyImageName⟩
  · intro message hmem
    obtain ⟨path, hblocked, hname⟩ := (blockedFor_of_sent hrun).2 message hmem
    have hpath := holdsPath_rsCopyImageName path
    rw [← hname] at hpath
    exact ⟨path, hblocked, hpath, hpath.wcs_eq, hpath.logged⟩
  · intro maxEntries e he
    obtain ⟨ctx, hctx, -, rfl⟩ := lookup_of_mem_rsGetBlockedPids hreach.sound.wellFormed he
    obtain ⟨path, hcreated, hname⟩ := exists_createdFor hreach hctx
    have hpath := holdsPath_rsCopyImageName path
    rw [← hname] at hpath
    exact ⟨path, hcreated, hpath⟩

/-- The image path of a process. -/
def someImagePath : UnicodeString := UnicodeString.ofChars (wide "\\Device\\evil.exe") (by decide)

/-- The first operation of a process is blocked, and notified. -/
def blockedAtOnce : List Action :=
  [.control (.connect 3), .control (.applyConfig 1 9 1),
    .call ⟨8, 0⟩ (some someImagePath) (.ofTicks 5), .advance ⟨8, 0⟩ .firstSection,
    .advance ⟨8, 0⟩ (.allocate true), .advance ⟨8, 0⟩ .secondSection,
    .advance ⟨8, 0⟩ .snapshotPort, .advance ⟨8, 0⟩ .drawSequence, .advance ⟨8, 0⟩ .sendMessage]

theorem image_names_survive_blockedAtOnce :
    ∃ s, (system id).run SystemState.init blockedAtOnce = some s ∧ s.sent.length = 1 ∧
      (∀ message ∈ s.sent, ∃ path,
        BlockedFor id blockedAtOnce message.2.processId message.2.imageName path ∧
          AlertLogged message.2) ∧
      ∀ e ∈ rsGetBlockedPids s.driver rsMaxReportBlocked, ∃ path,
        s.CreatedFor e.processId path ∧ HoldsPath e.imageName (imageChars path) := by
  obtain ⟨s, hrun, h⟩ := Machine.exists_of_any (system id)
    (fun s => decide (s.sent.length = 1)) SystemState.init blockedAtOnce (by decide +kernel)
  obtain ⟨hsent, hreported, -⟩ := image_names_survive id blockedAtOnce s hrun
  refine ⟨s, hrun, of_decide_eq_true h, ?_, hreported _⟩
  intro message hmem
  obtain ⟨path, hblocked, -, -, hlogged⟩ := hsent message hmem
  exact ⟨path, hblocked, hlogged⟩

end RansomShield
