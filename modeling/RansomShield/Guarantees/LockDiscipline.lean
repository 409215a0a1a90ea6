import RansomShield.Lock.Code
import RansomShield.Tracker.Ring

/-!
# What happens under the spinlock

Holding `g_ContextLock` means `DISPATCH_LEVEL`: no call that needs `PASSIVE_LEVEL`, and no access to
memory that may be paged out (`Locking.Disciplined`).  The driver keeps the first half on every
path.  It does not keep the second one: `RsIsProcessAllowlisted` compares the image name with the
dynamic allowlist under the lock, `RsRecordOperation` prints it there, and the message handler
stores into the reply and copies from the request (`Locking.touched_under_lock`).

Each function of the driver gets a verdict: that its steps use the lock properly, and the condition
under which they do not touch pageable memory under the lock.  The verdicts on the entry points
(`Locking.verdict_preOperation`, `Locking.verdict_rsMessageNotifyCallback`) give the exact condition
for the rule (`Locking.disciplined_iff`).
-/

namespace RansomShield

namespace Locking

open KernelStep (IsCall IsAccess)

/-! ### The rule -/

/-- The lock is never acquired while it is held and is free in the end; while it is held, there is
no allocation, no lookup of an image name and no `FltSendMessage`, and no access to the image name
or to the buffers of the caller. -/
def Disciplined (ts : List KernelStep) : Prop :=
  Lock.Balanced KernelStep.lockOp ts ∧ Lock.Avoids KernelStep.lockOp IsCall ts ∧
    Lock.Avoids KernelStep.lockOp IsAccess ts

/-- The code uses the lock properly, and touches pageable memory under the lock unless `P`. -/
def HasVerdict {A : Type} (x : Code A) (P : Prop) : Prop :=
  Lock.Verdict KernelStep.lockOp IsCall IsAccess x.steps P

variable {A B : Type} {x : Code A} {P Q : Prop} {body ts : List KernelStep}

theorem HasVerdict.congr (h : HasVerdict x P) (hPQ : P ↔ Q) : HasVerdict x Q :=
  Lock.Verdict.congr h hPQ

theorem HasVerdict.bind {f : A → Code B} (h : HasVerdict x P) (h' : HasVerdict (f x.result) Q) :
    HasVerdict (x >>= f) (P ∧ Q) := Lock.Verdict.append h h'

theorem HasVerdict.true_bind {f : A → Code B} (h : HasVerdict x True)
    (h' : HasVerdict (f x.result) Q) : HasVerdict (x >>= f) Q :=
  (h.bind h').congr (iff_of_eq (true_and Q))

theorem HasVerdict.false_bind {f : A → Code B} (h : HasVerdict x False)
    (h' : HasVerdict (f x.result) Q) : HasVerdict (x >>= f) False :=
  (h.bind h').congr (iff_of_eq (false_and Q))

theorem verdict_pure (a : A) : HasVerdict (pure a) True := Lock.Verdict.nil

theorem HasVerdict.step_bind {t : KernelStep} (ht : t.lockOp = .other) {f : Unit → Code A}
    (h : HasVerdict (f ()) P) : HasVerdict (Traced.step t >>= f) P := Lock.Verdict.cons ht h

theorem HasVerdict.access_bind {memory : PageableMemory} {f : Unit → Code A}
    (h : HasVerdict (f ()) P) : HasVerdict (access memory >>= f) P := h.step_bind rfl

theorem isAccess_access (memory : PageableMemory) : IsAccess (.access memory) := ⟨memory, rfl⟩

theorem verdict_locked (body : List KernelStep) (hbody : ∀ t ∈ body, IsAccess t)
    (h : Lock.Verdict KernelStep.lockOp IsCall IsAccess ts P) :
    Lock.Verdict KernelStep.lockOp IsCall IsAccess
      (.acquireContextLock :: (body ++ .releaseContextLock :: ts)) (body = [] ∧ P) := by
  have hlocked := Lock.Verdict.locked (a := .acquireContextLock) (r := .releaseContextLock) rfl rfl
    (by rintro (h | h | h) <;> cases h) (by rintro ⟨_, h⟩; cases h) body (fun t ht => by
      obtain ⟨memory, rfl⟩ := hbody t ht
      exact ⟨rfl, by rintro (h | h | h) <;> cases h⟩) h
  refine hlocked.congr (and_congr_left fun _ => ?_)
  rw [List.eq_nil_iff_forall_not_mem]
  exact forall_congr' fun t => ⟨fun h ht => h ht (hbody t ht), fun h ht => absurd ht h⟩

theorem verdict_locked_end (body : List KernelStep) (hbody : ∀ t ∈ body, IsAccess t) :
    Lock.Verdict KernelStep.lockOp IsCall IsAccess
      (.acquireContextLock :: (body ++ [.releaseContextLock])) (body = []) :=
  (verdict_locked body hbody Lock.Verdict.nil).congr (iff_of_eq (and_true _))

theorem disciplined_of_verdict (h : Lock.Verdict KernelStep.lockOp IsCall IsAccess ts P) :
    Disciplined ts ↔ P := by
  rw [Disciplined, and_iff_right h.balanced, and_iff_right h.never, h.avoids_iff]

/-! ### The allowlist -/

/-- `RtlEqualUnicodeString` compares the strings character by character. -/
def SameLength (processFileName entry : UnicodeString) : Prop :=
  processFileName.length = entry.length ∧ processFileName.length ≠ 0

section

variable {upcase : UInt16 → UInt16} {fileName : UnicodeString} {s : DriverState}
  {env : Encounter}

theorem isAccess_of_mem_findEqual {entries : List UnicodeString} {t : KernelStep}
    (ht : t ∈ (findEqual upcase fileName entries).steps) : IsAccess t := by
  induction entries with
  | nil => cases ht
  | cons entry entries ih =>
    rw [findEqual, Traced.steps_bind, List.mem_append] at ht
    rcases ht with ht | ht
    · unfold rtlEqualUnicodeString at ht
      split_ifs at ht
      · exact ⟨_, List.mem_singleton.1 ht⟩
      · cases ht
    · split_ifs at ht
      · cases ht
      · exact ih ht

/-- The name is not read if no entry is as long: a match would have to be as long. -/
theorem steps_findEqual_eq_nil {entries : List UnicodeString} :
    (findEqual upcase fileName entries).steps = [] ↔
      ∀ entry ∈ entries, ¬ SameLength fileName entry := by
  induction entries with
  | nil => exact iff_of_true rfl (List.forall_mem_nil _)
  | cons entry entries ih =>
    have hread : (rtlEqualUnicodeString upcase fileName entry).steps = [] ↔
        ¬ SameLength fileName entry := by
      unfold rtlEqualUnicodeString SameLength
      split_ifs with h
      · exact iff_of_false (List.cons_ne_nil _ _) (not_not.2 h)
      · exact iff_of_true rfl h
    rw [findEqual, Traced.steps_bind, List.append_eq_nil_iff, hread, List.forall_mem_cons,
      result_rtlEqualUnicodeString]
    refine and_congr_right fun hentry => ?_
    by_cases heq : RansomShield.rtlEqualUnicodeString upcase fileName entry = true
    · -- a match that is not read is a match of empty strings
      rw [if_pos heq]
      have hlength : fileName.length = entry.length := by
        rw [RansomShield.rtlEqualUnicodeString, Bool.and_eq_true] at heq
        exact eq_of_beq heq.1
      exact iff_of_true rfl fun e _ he => hentry ⟨hlength, he.2⟩
    · rw [if_neg heq]
      exact ih

theorem verdict_isFileNameAllowlisted : HasVerdict (isFileNameAllowlisted upcase s fileName)
    (staticEntries.any (RansomShield.rtlEqualUnicodeString upcase fileName) = true ∨
      ∀ entry ∈ dynamicEntries s, ¬ SameLength fileName entry) := by
  have hunlocked : HasVerdict (findEqual upcase fileName staticEntries) True :=
    Lock.Verdict.others fun t ht => by
      obtain ⟨memory, rfl⟩ := isAccess_of_mem_findEqual ht
      rfl
  unfold isFileNameAllowlisted
  refine (hunlocked.bind (Q := staticEntries.any (RansomShield.rtlEqualUnicodeString upcase
    fileName) = true ∨ ∀ entry ∈ dynamicEntries s, ¬ SameLength fileName entry) ?_).congr
    (iff_of_eq (true_and _))
  rw [result_findEqual]
  by_cases hstatic : staticEntries.any (RansomShield.rtlEqualUnicodeString upcase fileName) = true
  · rw [if_pos hstatic]
    exact (verdict_pure true).access_bind.congr (iff_of_true trivial (.inl hstatic))
  · rw [if_neg hstatic]
    have hrest (found : Bool) : HasVerdict
        (if found then do access .processImageName; return true else return false) True := by
      cases found with
      | true => exact (verdict_pure true).access_bind
      | false => exact verdict_pure false
    have hsection := verdict_locked (findEqual upcase fileName (dynamicEntries s)).steps
      (fun t ht => isAccess_of_mem_findEqual ht) (hrest
        (findEqual upcase fileName (dynamicEntries s)).result)
    refine hsection.congr ?_
    rw [steps_findEqual_eq_nil, or_iff_right hstatic, and_true]

/-- The name is not in the built-in allowlist, and the dynamic one has an entry as long as its last
component. -/
def ComparesUnderLock (upcase : UInt16 → UInt16) (s : DriverState) (name : UnicodeString) : Prop :=
  name.length ≠ 0 ∧ ∃ chars, ∃ h : name.buffer = some chars,
    ¬ staticEntries.any (RansomShield.rtlEqualUnicodeString upcase
      (processFileName name chars h)) = true ∧
    ∃ entry ∈ dynamicEntries s, SameLength (processFileName name chars h) entry

variable (upcase s) in
/-- **`RsIsProcessAllowlisted`** reads the name under the lock when it comes to an entry as long as
the last component. -/
theorem verdict_rsIsProcessAllowlisted (name : UnicodeString) :
    HasVerdict (rsIsProcessAllowlisted upcase s name) (¬ ComparesUnderLock upcase s name) := by
  unfold rsIsProcessAllowlisted
  refine HasVerdict.access_bind ?_
  split
  · next h =>
    refine (verdict_pure false).congr (iff_of_true trivial ?_)
    rintro ⟨-, chars, h', -⟩
    cases h.symm.trans h'
  · next chars h =>
    by_cases hzero : name.length = 0
    · rw [if_pos hzero]
      exact (verdict_pure false).congr (iff_of_true trivial fun hc => hc.1 hzero)
    · rw [if_neg hzero]
      refine verdict_isFileNameAllowlisted.access_bind.congr ?_
      constructor
      · rintro hor ⟨-, chars', h', hstatic, entry, hentry, hsame⟩
        cases h.symm.trans h'
        exact hor.elim hstatic fun hno => hno entry hentry hsame
      · intro hno
        refine or_iff_not_imp_left.2 fun hstatic entry hentry hsame => ?_
        exact hno ⟨hzero, chars, h, hstatic, entry, hentry, hsame⟩

end

/-! ### Recording -/

section

variable {env : Encounter} {image : Option UnicodeString} {p : UInt32} {t : Int64}

/-- An operation of the process reaches the threshold: with it, that many operations of the context
are in the window, the process is not blocked yet, and monitoring is enabled. -/
def Reaches (cfg : RsConfig) (ctx : RsProcessContext) (t : Int64) : Prop :=
  cfg.fileCountThreshold.toNat ≤
      (RsProcessContext.slide cfg.timeWindowTicks ctx.valid t).countP
        (fun x => t - x ≤ cfg.timeWindowTicks) ∧
    ctx.isBlocked = false ∧ cfg.monitoringEnabled ≠ 0

theorem shouldBlock_iff_reaches {cfg : RsConfig} {ctx : RsProcessContext} :
    (recordAndEvaluate cfg ctx t).shouldBlock = true ↔ Reaches cfg ctx t := by
  rw [shouldBlock_iff, UInt32.le_iff_toNat_le, toNat_recentCount, Reaches]

/-- The operation blocks the process: in the first section, or, after an allocation, in the second
one, where the context is that of another thread or the new one. -/
def Blocks (env : Encounter) (p : UInt32) (image : Option UnicodeString) (t : Int64)
    (allocates : Bool) : Prop :=
  match rsLookupProcessContext env.recordFirst p with
  | some ctx => Reaches env.recordFirst.config ctx t
  | none => allocates = true ∧ Reaches env.recordSecond.config
      ((rsLookupProcessContext env.recordSecond p).getD (rsCreateProcessContext p image)) t

theorem verdict_rsSendBlockNotification : HasVerdict (rsSendBlockNotification env) True := by
  unfold rsSendBlockNotification
  split_ifs
  · exact (verdict_locked [] (List.forall_mem_nil _)
      (Lock.Verdict.others (List.forall_mem_singleton.2 rfl))).congr (by simp)
  · exact verdict_pure ()

/-- From the label `RecordAndEvaluate` on, which is reached with the lock held. -/
theorem verdict_finishRecord (e : Evaluation) :
    Lock.Verdict KernelStep.lockOp IsCall IsAccess
      (.acquireContextLock :: (finishRecord env image e).steps)
      (e.shouldBlock = true → image = none) := by
  have hrest : HasVerdict (do
      if e.shouldBlock then rsSendBlockNotification env
      return (NtStatus.success, e.shouldBlock) : Code (NtStatus × Bool)) True := by
    split_ifs
    · exact (verdict_rsSendBlockNotification.bind (verdict_pure _)).congr (by simp)
    · exact verdict_pure _
  unfold finishRecord
  by_cases hblock : e.shouldBlock = true
  · rw [if_pos hblock]
    cases image with
    | none => exact (verdict_locked [] (List.forall_mem_nil _) hrest).congr (by simp)
    | some name =>
      exact (verdict_locked [.access .processImageName]
        (List.forall_mem_singleton.2 (isAccess_access _)) hrest).congr (by simp [hblock])
  · rw [if_neg hblock]
    exact (verdict_locked [] (List.forall_mem_nil _) hrest).congr (by simp [hblock])

variable (env image p t) in
theorem verdict_recordInContext (s : DriverState) (ctx : RsProcessContext) :
    Lock.Verdict KernelStep.lockOp IsCall IsAccess
      (.acquireContextLock :: (finishSection env image (recordInContext s p ctx t).2).steps)
      (Reaches s.config ctx t → image = none) := by
  unfold recordInContext
  by_cases hblocked : ctx.isBlocked = true
  · rw [if_pos hblocked]
    refine (verdict_locked_end [] (List.forall_mem_nil _)).congr (iff_of_true rfl ?_)
    rintro ⟨-, hfalse, -⟩
    exact absurd hblocked (by simp [hfalse])
  · rw [if_neg hblocked]
    refine (verdict_finishRecord _).congr ?_
    rw [shouldBlock_iff_reaches]

variable (env image p t) in
theorem verdict_recordSecondSection (s : DriverState) (newContext : RsProcessContext) :
    Lock.Verdict KernelStep.lockOp IsCall IsAccess
      (.acquireContextLock ::
        (finishSection env image (recordSecondSection s newContext p t).2).steps)
      (Reaches s.config ((rsLookupProcessContext s p).getD newContext) t → image = none) := by
  unfold recordSecondSection
  cases rsLookupProcessContext s p with
  | some ctx => exact verdict_recordInContext env image p t s ctx
  | none =>
    refine (verdict_finishRecord _).congr ?_
    rw [shouldBlock_iff_reaches, Option.getD_none]

/-- **`RsRecordOperation`** prints the image name under the lock when it blocks the process. -/
theorem verdict_rsRecordOperation (allocates : Bool) :
    HasVerdict (rsRecordOperation env p image t allocates)
      (Blocks env p image t allocates → image = none) := by
  unfold rsRecordOperation recordFirstSection Blocks
  cases rsLookupProcessContext env.recordFirst p with
  | some ctx =>
    have hfound : (recordInContext env.recordFirst p ctx t).2 ≠ .missing := by
      unfold recordInContext
      split_ifs <;> exact SectionResult.noConfusion
    have hsection := verdict_recordInContext env image p t env.recordFirst ctx
    dsimp only
    generalize (recordInContext env.recordFirst p ctx t).2 = r at hfound hsection
    cases r with
    | missing => exact absurd rfl hfound
    | alreadyBlocked => exact hsection
    | evaluated e => exact hsection
  | none =>
    have hfirst {y : Code (NtStatus × Bool)} {Q : Prop} (hy : HasVerdict y Q) :
        HasVerdict (acquire >>= fun _ => release >>= fun _ =>
          Traced.step KernelStep.exAllocatePool2 >>= fun _ => y) Q :=
      (verdict_locked [] (List.forall_mem_nil _) (hy.step_bind rfl)).congr (by simp)
    cases allocates with
    | false => exact (hfirst (verdict_pure _)).congr (by simp)
    | true =>
      have hsecond := verdict_recordSecondSection env image p t env.recordSecond
        (rsCreateProcessContext p image)
      refine HasVerdict.congr (P := Reaches env.recordSecond.config
        ((rsLookupProcessContext env.recordSecond p).getD (rsCreateProcessContext p image)) t →
          image = none) (hfirst ?_) (by simp)
      cases image with
      | none => exact hsecond
      | some name => exact HasVerdict.access_bind hsecond

end

/-! ### The callbacks -/

section

variable {upcase : UInt16 → UInt16} {env : Encounter}

/-- The callback does not look at the request, or it has no image name; or the name is not compared
under the lock, and the process is allowlisted or not blocked. -/
def SparesImageName (upcase : UInt16 → UInt16) (env : Encounter) (data : FltCallbackData) : Prop :=
  data.skipped = true ∨ ∀ name, data.processImageName = some name →
    ¬ ComparesUnderLock upcase env.isProcessAllowlisted name ∧
      (RansomShield.rsIsProcessAllowlisted upcase env.isProcessAllowlisted name = true ∨
        ¬ Blocks env data.requestorProcessId (some name) data.interruptTime.ticks data.allocates)

theorem verdict_locateImageName (data : FltCallbackData) :
    HasVerdict (locateImageName data) True := by
  unfold locateImageName
  split_ifs
  · exact (verdict_pure _).step_bind rfl
  · exact verdict_pure _
  · exact verdict_pure _

/-- **The callbacks.** -/
theorem verdict_preOperation (data : FltCallbackData) :
    HasVerdict (preOperation upcase env data) (SparesImageName upcase env data) := by
  rw [preOperation_eq]
  unfold SparesImageName
  by_cases hskipped : data.skipped = true
  · rw [if_pos hskipped]
    exact (verdict_pure _).congr (iff_of_true trivial (.inl hskipped))
  · rw [if_neg hskipped, or_iff_right hskipped]
    unfold monitored
    refine HasVerdict.congr ((verdict_locateImageName data).bind
      (Q := ∀ name, data.processImageName = some name → _) ?_) (iff_of_eq (true_and _))
    rw [result_locateImageName]
    cases data.processImageName with
    | none =>
      refine HasVerdict.congr ((verdict_pure false).bind
        ((verdict_rsRecordOperation data.allocates).bind (verdict_pure _))) ?_
      simp
    | some name =>
      have hcheck := verdict_rsIsProcessAllowlisted upcase env.isProcessAllowlisted name
      by_cases hallowlisted : RansomShield.rsIsProcessAllowlisted upcase env.isProcessAllowlisted
          name = true
      · refine HasVerdict.congr (hcheck.bind (Q := True) ?_) (by simp [hallowlisted])
        rw [result_rsIsProcessAllowlisted, if_pos hallowlisted]
        exact verdict_pure _
      · refine HasVerdict.congr (hcheck.bind (Q := ¬ Blocks env data.requestorProcessId (some name)
          data.interruptTime.ticks data.allocates) ?_) (by simp [hallowlisted])
        rw [result_rsIsProcessAllowlisted, if_neg hallowlisted]
        exact ((verdict_rsRecordOperation data.allocates).bind (verdict_pure _)).congr (by simp)

end

/-! ### The message handler -/

section

variable {env : Encounter} {input : Memory} {n : ℕ} {outputBuffer : Option Memory} {m : ℕ}

/-- The length of a request of a type. -/
def requestSize : RsMessageType → ℕ
  | .requestUnblockPid => sizeofRequestUnblockPid
  | .updateConfig => sizeofRequestUpdateConfig
  | .updateAllowlistChunk => sizeofRequestUpdateAllowlistChunk
  | .updateAllowlistFull => sizeofRequestUpdateAllowlistFull
  | _ => sizeofMessageHeader

/-- The length of the reply to a request of a type. -/
def replySize : RsMessageType → ℕ
  | .queryBlockedPids => sizeofReplyBlockedPids
  | .requestUnblockPid => sizeofReplyUnblockPid
  | .queryConfig => sizeofReplyConfig
  | .queryAllowlist => sizeofReplyAllowlist
  | _ => sizeofReplyGeneric

/-- The request has more allowlist entries than its type allows. -/
def TooManyEntries (input : Memory) : RsMessageType → Prop
  | .updateAllowlistChunk => rsMaxAllowlistChunk < (Buffered.ulong input 24).toNat
  | .updateAllowlistFull => rsMaxAllowlistEntries < (Buffered.ulong input 16).toNat
  | _ => False

/-- The case for the type refuses the request. -/
def RefusedAs (input : Memory) (n : ℕ) (outputBuffer : Option Memory) (m : ℕ)
    (t : RsMessageType) : Prop :=
  n < requestSize t ∨ (outputBuffer.isNone = true ∨ m < replySize t) ∨ TooManyEntries input t

/-- The request is refused: it has no complete header, it declares more than it has, its type is
none that the handler knows, or the case for its type refuses it. -/
def Refused (inputBuffer : Option Memory) (n : ℕ) (outputBuffer : Option Memory) (m : ℕ) : Prop :=
  ∀ input, inputBuffer = some input → sizeofMessageHeader ≤ n → (Buffered.ulong input 4).toNat ≤ n →
    ∀ t, requestTypes.find? (fun t => t.code = Buffered.ulong input 0) = some t →
      RefusedAs input n outputBuffer m t

/-- The sequence number goes straight into the reply. -/
theorem verdict_storeSequenceNumber : HasVerdict storeSequenceNumber False :=
  (verdict_locked_end [.access .outputBuffer]
    (List.forall_mem_singleton.2 (isAccess_access _))).congr (by simp)

theorem verdict_changeState : HasVerdict changeState True :=
  (verdict_locked_end [] (List.forall_mem_nil _)).congr (by simp)

theorem isAccess_of_mem_each {memory : PageableMemory} {l : List A} {t : KernelStep}
    (ht : t ∈ (Traced.each l fun _ => access memory).steps) : IsAccess t := by
  obtain ⟨_, -, ht⟩ := List.mem_flatMap.1 ht
  exact ⟨memory, List.mem_singleton.1 ht⟩

theorem verdict_rsGetBlockedPids (s : DriverState) : HasVerdict (rsGetBlockedPids s) False := by
  unfold rsGetBlockedPids
  generalize RansomShield.rsGetBlockedPids s rsMaxReportBlocked = entries
  refine HasVerdict.access_bind ?_
  have hsection := verdict_locked_end
    ((Traced.each entries fun _ => access .outputBuffer).steps ++ [.access .outputBuffer])
    (fun t ht => (List.mem_append.1 ht).elim isAccess_of_mem_each
      fun ht => ⟨_, List.mem_singleton.1 ht⟩)
  rw [List.append_assoc] at hsection
  exact HasVerdict.congr hsection (by simp)

theorem verdict_rsGetPidCounts : HasVerdict rsGetPidCounts False := verdict_storeSequenceNumber

theorem verdict_genericReply : HasVerdict genericReply False := by
  refine HasVerdict.access_bind ?_
  refine verdict_storeSequenceNumber.false_bind (Q := True) ?_
  refine HasVerdict.access_bind ?_
  exact verdict_pure _

theorem verdict_checkOutput_or {size : ℕ} {go : Code NtStatus} (h : HasVerdict go P) :
    HasVerdict (checkOutput outputBuffer m size go)
      ((outputBuffer.isNone = true ∨ m < size) ∨ P) := by
  unfold checkOutput
  split_ifs with hrefused
  · exact (verdict_pure _).congr (iff_of_true trivial (.inl hrefused))
  · exact h.congr (or_iff_right hrefused).symm

/-- A case that stores into the reply under the lock, unless the output buffer is too small. -/
theorem verdict_checkOutput {size : ℕ} {go : Code NtStatus} (h : HasVerdict go False) :
    HasVerdict (checkOutput outputBuffer m size go) (outputBuffer.isNone = true ∨ m < size) :=
  (verdict_checkOutput_or h).congr (iff_of_eq (or_false _))

theorem verdict_queryBlockedPids : HasVerdict (queryBlockedPids env outputBuffer m)
    (outputBuffer.isNone = true ∨ m < sizeofReplyBlockedPids) := by
  refine verdict_checkOutput ?_
  refine HasVerdict.access_bind ?_
  refine verdict_storeSequenceNumber.false_bind (Q := False) ?_
  refine HasVerdict.access_bind ?_
  refine (verdict_rsGetBlockedPids _).false_bind (Q := True) ?_
  refine HasVerdict.access_bind ?_
  exact verdict_pure _

theorem verdict_requestUnblockPid : HasVerdict (requestUnblockPid n outputBuffer m)
    (n < sizeofRequestUnblockPid ∨ outputBuffer.isNone = true ∨ m < sizeofReplyUnblockPid) := by
  unfold requestUnblockPid
  split_ifs with hsize
  · exact (verdict_pure _).congr (iff_of_true trivial (.inl hsize))
  · refine (verdict_checkOutput ?_).congr (or_iff_right hsize).symm
    refine HasVerdict.access_bind ?_
    refine verdict_storeSequenceNumber.false_bind (Q := True) ?_
    refine HasVerdict.access_bind ?_
    refine HasVerdict.access_bind ?_
    refine verdict_changeState.true_bind ?_
    refine HasVerdict.access_bind ?_
    refine HasVerdict.access_bind ?_
    exact verdict_pure _

theorem verdict_queryConfig : HasVerdict (queryConfig outputBuffer m)
    (outputBuffer.isNone = true ∨ m < sizeofReplyConfig) := by
  refine verdict_checkOutput ?_
  refine HasVerdict.access_bind ?_
  refine verdict_storeSequenceNumber.false_bind (Q := False) ?_
  refine HasVerdict.access_bind ?_
  refine verdict_rsGetPidCounts.false_bind (Q := True) ?_
  exact verdict_pure _

theorem verdict_queryAllowlist : HasVerdict (queryAllowlist env outputBuffer m)
    (outputBuffer.isNone = true ∨ m < sizeofReplyAllowlist) := by
  refine verdict_checkOutput ?_
  generalize dynamicEntries env.queryAllowlist = entries
  refine HasVerdict.access_bind ?_
  have hrest : HasVerdict (access .outputBuffer >>= fun _ => pure NtStatus.success) True :=
    HasVerdict.access_bind (verdict_pure _)
  have hsection := verdict_locked
    (KernelStep.access .outputBuffer :: (Traced.each entries fun _ => access .outputBuffer).steps)
    (List.forall_mem_cons.2 ⟨isAccess_access _, fun t ht => isAccess_of_mem_each ht⟩) hrest
  exact HasVerdict.congr hsection (by simp)

theorem verdict_changeAndReply : HasVerdict (changeAndReply outputBuffer m)
    (outputBuffer.isNone = true ∨ m < sizeofReplyGeneric) := by
  refine verdict_checkOutput ?_
  refine verdict_changeState.true_bind ?_
  exact verdict_genericReply

theorem verdict_updateConfig : HasVerdict (updateConfig n outputBuffer m)
    (n < sizeofRequestUpdateConfig ∨ outputBuffer.isNone = true ∨ m < sizeofReplyGeneric) := by
  unfold updateConfig
  split_ifs with hsize
  · exact (verdict_pure _).congr (iff_of_true trivial (.inl hsize))
  · refine (verdict_checkOutput ?_).congr (or_iff_right hsize).symm
    refine HasVerdict.access_bind ?_
    refine verdict_changeState.true_bind ?_
    exact verdict_genericReply

/-- `RsAddDynamicAllowlistEntry` copies from the request under the lock. -/
theorem verdict_rsAddDynamicAllowlistEntry (s : DriverState) (entry : List UInt16) :
    HasVerdict (rsAddDynamicAllowlistEntry s entry) (entry.length = 0 ∨
      ¬ s.dynamicAllowlistCount.1 < UInt32.ofNat rsMaxAllowlistEntries) := by
  unfold rsAddDynamicAllowlistEntry
  split_ifs with hentry hroom
  · refine HasVerdict.congr (verdict_locked_end [.access .inputBuffer]
      (List.forall_mem_singleton.2 (isAccess_access _))) ?_
    simp [hentry, hroom]
  · refine HasVerdict.congr (verdict_locked_end [] (List.forall_mem_nil _)) ?_
    exact iff_of_true rfl (.inr hroom)
  · exact (verdict_pure ()).congr (iff_of_true trivial (.inl (not_not.1 hentry)))

theorem verdict_allowlistRequest (size maxEntries countOffset : ℕ) :
    HasVerdict (allowlistRequest env input n outputBuffer m size maxEntries countOffset)
      (n < size ∨ (outputBuffer.isNone = true ∨ m < sizeofReplyGeneric) ∨
        maxEntries < (Buffered.ulong input countOffset).toNat) := by
  unfold allowlistRequest
  by_cases hsize : n < size
  · rw [if_pos hsize]
    exact (verdict_pure _).congr (iff_of_true trivial (.inl hsize))
  · rw [if_neg hsize]
    refine (verdict_checkOutput_or ?_).congr (or_iff_right hsize).symm
    refine HasVerdict.access_bind ?_
    split_ifs with hcount
    · exact (verdict_pure _).congr (iff_of_true trivial hcount)
    · -- the loop may or may not copy under the lock, but the reply is stored there
      have hloop : HasVerdict (.each (List.range (Buffered.ulong input countOffset).toNat)
          fun i => addEntry env input countOffset i) _ :=
        Lock.Verdict.flatMap fun i _ => HasVerdict.access_bind
          (HasVerdict.access_bind (verdict_rsAddDynamicAllowlistEntry _ _))
      refine (hloop.bind (Q := False) ?_).congr (iff_of_false And.right hcount)
      exact HasVerdict.access_bind verdict_genericReply

/-- **The switch over the types.** -/
theorem verdict_dispatch (hn : sizeofMessageHeader ≤ n) :
    HasVerdict (dispatch env input n outputBuffer m)
      (∀ t, requestTypes.find? (fun t => t.code = Buffered.ulong input 0) = some t →
        RefusedAs input n outputBuffer m t) := by
  have hheader : ¬ n < sizeofMessageHeader := Nat.not_lt.2 hn
  unfold dispatch
  cases htype : requestTypes.find? fun t => t.code = Buffered.ulong input 0 with
  | none =>
    refine (HasVerdict.access_bind (verdict_pure _)).congr (iff_of_true trivial ?_)
    intro t ht
    cases ht
  | some t =>
    have hmem : t ∈ requestTypes := List.mem_of_find?_eq_some htype
    simp only [Option.some.injEq, forall_eq']
    cases t with
    | queryBlockedPids =>
      exact verdict_queryBlockedPids.congr
        (by simp [RefusedAs, requestSize, replySize, TooManyEntries, hheader])
    | requestUnblockPid =>
      exact verdict_requestUnblockPid.congr
        (by simp [RefusedAs, requestSize, replySize, TooManyEntries])
    | queryConfig =>
      exact verdict_queryConfig.congr
        (by simp [RefusedAs, requestSize, replySize, TooManyEntries, hheader])
    | queryAllowlist =>
      exact verdict_queryAllowlist.congr
        (by simp [RefusedAs, requestSize, replySize, TooManyEntries, hheader])
    | requestPause =>
      exact verdict_changeAndReply.congr
        (by simp [RefusedAs, requestSize, replySize, TooManyEntries, hheader])
    | requestResume =>
      exact verdict_changeAndReply.congr
        (by simp [RefusedAs, requestSize, replySize, TooManyEntries, hheader])
    | updateConfig =>
      exact verdict_updateConfig.congr
        (by simp [RefusedAs, requestSize, replySize, TooManyEntries])
    | clearAllowlist =>
      exact verdict_changeAndReply.congr
        (by simp [RefusedAs, requestSize, replySize, TooManyEntries, hheader])
    | updateAllowlistChunk => exact verdict_allowlistRequest _ _ _
    | updateAllowlistFull => exact verdict_allowlistRequest _ _ _
    | _ => exact absurd hmem (by decide)

/-- **The message handler.** -/
theorem verdict_rsMessageNotifyCallback (inputBuffer : Option Memory) :
    HasVerdict (rsMessageNotifyCallback env inputBuffer n outputBuffer m)
      (Refused inputBuffer n outputBuffer m) := by
  unfold rsMessageNotifyCallback Refused
  cases inputBuffer with
  | none => exact (verdict_pure _).congr (by simp)
  | some input =>
    simp only [Option.some.injEq, forall_eq']
    by_cases hn : n < sizeofMessageHeader
    · rw [if_pos hn]
      exact (verdict_pure _).congr (iff_of_true trivial fun h => absurd h (Nat.not_le.2 hn))
    · rw [if_neg hn]
      refine HasVerdict.access_bind ?_
      by_cases hsize : n < (Buffered.ulong input 4).toNat
      · rw [if_pos hsize]
        exact (verdict_pure _).congr (iff_of_true trivial fun _ h => absurd h (Nat.not_le.2 hsize))
      · rw [if_neg hsize]
        refine HasVerdict.access_bind ?_
        refine (verdict_dispatch (Nat.not_lt.1 hn)).congr ?_
        simp only [Nat.not_lt.1 hn, Nat.not_lt.1 hsize, true_imp_iff]

end

/-! ### The entry points -/

/-- No pageable memory comes into a locked section: a callback spares the image name, or a request
is refused. -/
def EntryPoint.Spared (upcase : UInt16 → UInt16) (env : Encounter) : EntryPoint → Prop
  | .preOperation data => SparesImageName upcase env data
  | .messageNotify inputBuffer n outputBuffer m => Refused inputBuffer n outputBuffer m

/-- **The discipline of the spinlock.**  For every entry point, whatever the code finds under the
lock: the lock is never acquired while it is held and is free in the end, and no allocation, lookup
of an image name or `FltSendMessage` happens under it; the whole rule is kept if and only if no
pageable memory comes into a locked section. -/
theorem disciplined_iff (upcase : UInt16 → UInt16) (env : Encounter) (entry : EntryPoint) :
    (Lock.Balanced KernelStep.lockOp (entry.steps upcase env) ∧
      Lock.Avoids KernelStep.lockOp IsCall (entry.steps upcase env)) ∧
    (Disciplined (entry.steps upcase env) ↔ entry.Spared upcase env) := by
  have hverdict : Lock.Verdict KernelStep.lockOp IsCall IsAccess (entry.steps upcase env)
      (entry.Spared upcase env) := by
    cases entry with
    | preOperation data => exact verdict_preOperation data
    | messageNotify inputBuffer n outputBuffer m =>
      exact verdict_rsMessageNotifyCallback inputBuffer
  exact ⟨⟨hverdict.balanced, hverdict.never⟩, disciplined_of_verdict hverdict⟩

/-- The bytes of a request to pause the monitoring. -/
def pauseRequest : Memory := fun i => if i = 0 then 210 else if i = 4 then 16 else 0

/-- A driver that blocks a process with its first operation. -/
def strictDriver : DriverState :=
  { DriverState.init with config := { RsConfig.default with fileCountThreshold := 1 } }

/-- **Pageable memory under the lock**: the reply to a request that pauses the monitoring, and the
image name of a process that is blocked. -/
theorem touched_under_lock :
    ¬ Disciplined ((EntryPoint.messageNotify (some pauseRequest) 16 (some fun _ => 0) 24).steps id
      (.undisturbed DriverState.init)) ∧
    ¬ Disciplined ((EntryPoint.preOperation (writeRequest 8 .passiveLevel
      (rtlInitUnicodeString (wide "a.exe")) (.ofTicks 5) true)).steps id
        (.undisturbed strictDriver)) := by
  constructor
  · intro h
    have hrefused := (disciplined_of_verdict
      (verdict_rsMessageNotifyCallback (some pauseRequest))).1 h
    have hcase := hrefused pauseRequest rfl (by decide) (by decide) .requestPause (by decide)
    rcases hcase with hsize | (hnull | hsize) | hcount
    · exact absurd hsize (by decide)
    · cases hnull
    · exact absurd hsize (by decide)
    · exact hcount
  · intro h
    have hspares := (disciplined_of_verdict (verdict_preOperation _)).1 h
    rcases hspares with hskipped | hspares
    · exact absurd hskipped (by decide)
    · obtain ⟨-, hallowlisted | hblocks⟩ := hspares _ rfl
      · exact absurd hallowlisted (by decide +kernel)
      · exact hblocks ⟨rfl, by decide +kernel, rfl, by decide⟩

end Locking

end RansomShield
