import RansomShield.Driver.Context
import RansomShield.Ring.Basic
import RansomShield.Ring.Window

/-!
# The ring of operations of a context

What the ring buffer of a process context holds (`RsProcessContext.valid`, oldest first), and what
pruning, recording and counting do to it: pruning filters the valid entries by age
(`RsProcessContext.valid_prune`), recording appends an entry and drops the oldest one when the ring
is full (`RsProcessContext.valid_record`), and the loop of the threshold check counts the valid
entries within the window (`RsProcessContext.toNat_countRecent`).
-/

namespace RansomShield

/-! ### Indices -/

theorem toNat_add_of_lt {a b : UInt32} (h : a.toNat + b.toNat < 2 ^ 32) :
    (a + b).toNat = a.toNat + b.toNat := by
  rw [UInt32.toNat_add]
  exact Nat.mod_eq_of_lt h

/-- A loop that counts in a `ULONG`, which does not overflow. -/
theorem foldl_count_if {α : Type*} {p : α → Prop} [DecidablePred p] (l : List α)
    (n : UInt32) (h : n.toNat + l.length < 2 ^ 32) :
    (l.foldl (fun n x => if p x then n + 1 else n) n).toNat = n.toNat + l.countP (p ·) := by
  induction l generalizing n with
  | nil => rfl
  | cons x l ih =>
    rw [List.length_cons] at h
    rw [List.foldl_cons]
    by_cases hx : p x
    · have hsucc : (n + 1).toNat = n.toNat + 1 :=
        toNat_add_of_lt (by simp only [UInt32.reduceToNat]; omega)
      rw [if_pos hx, ih _ (by omega), hsucc, List.countP_cons_of_pos (by simpa using hx)]
      omega
    · rw [if_neg hx, ih _ (by omega), List.countP_cons_of_neg (by simpa using hx)]

theorem toNat_ofNat_maxOperations :
    (UInt32.ofNat rsMaxOperationsPerPid).toNat = rsMaxOperationsPerPid := by decide

theorem toNat_wrapIndex (i : UInt32) :
    (wrapIndex i).1.toNat = i.toNat % rsMaxOperationsPerPid := by
  rw [wrapIndex, UInt32.toNat_mod]
  rfl

theorem slot_eq_ofNat (i : OperationIndex) :
    i.slot = Fin.ofNat rsMaxOperationsPerPid i.1.toNat :=
  Fin.ext (Nat.mod_eq_of_lt i.2).symm

theorem toNat_succ_index (i : OperationIndex) : (i.1 + 1).toNat = i.1.toNat + 1 := by
  have hlt : i.1.toNat < 256 := i.2
  exact toNat_add_of_lt (by simp only [UInt32.reduceToNat]; omega)

theorem slot_wrapIndex_succ (i : OperationIndex) : (wrapIndex (i.1 + 1)).slot = i.slot + 1 := by
  apply Fin.ext
  rw [OperationIndex.slot, Fin.val_add]
  simp only [toNat_wrapIndex, toNat_succ_index]
  rfl

namespace RsProcessContext

variable {ctx : RsProcessContext}

/-- The index of the oldest entry is computed without underflow. -/
theorem toNat_oldest (ctx : RsProcessContext) :
    (ctx.operationHead.1 + UInt32.ofNat rsMaxOperationsPerPid - ctx.operationCount.1).toNat =
      ctx.operationHead.1.toNat + rsMaxOperationsPerPid - ctx.operationCount.1.toNat := by
  have hhead : ctx.operationHead.1.toNat < 256 := ctx.operationHead.2
  have hcount : ctx.operationCount.1.toNat ≤ rsMaxOperationsPerPid := ctx.operationCount.2
  have hsum : (ctx.operationHead.1 + UInt32.ofNat rsMaxOperationsPerPid).toNat =
      ctx.operationHead.1.toNat + rsMaxOperationsPerPid :=
    toNat_add_of_lt (by simp only [toNat_ofNat_maxOperations, rsMaxOperationsPerPid]; omega)
  rw [UInt32.toNat_sub_of_le _ _ (UInt32.le_iff_toNat_le.2 (by omega)), hsum]

theorem toNat_oldestIndex (ctx : RsProcessContext) :
    ctx.oldestIndex.1.toNat =
      (ctx.operationHead.1.toNat + rsMaxOperationsPerPid - ctx.operationCount.1.toNat) %
        rsMaxOperationsPerPid := by
  rw [oldestIndex, toNat_wrapIndex, toNat_oldest]

/-! ### The valid entries -/

/-- The valid entries of the ring, oldest first. -/
def valid (ctx : RsProcessContext) : List Int64 :=
  Ring.contents ctx.operations ctx.operationHead.1.toNat ctx.operationCount.1.toNat

@[simp] theorem length_valid (ctx : RsProcessContext) :
    ctx.valid.length = ctx.operationCount.1.toNat :=
  Ring.length_contents _ _ _

theorem length_valid_le (ctx : RsProcessContext) : ctx.valid.length ≤ rsMaxOperationsPerPid := by
  rw [length_valid]
  exact ctx.operationCount.2

theorem forOperations_eq_scan {σ : Type*} (operations : Fin rsMaxOperationsPerPid → Int64)
    (body : σ → Int64 → σ) (n : ℕ) (idx : OperationIndex) (st : σ) :
    forOperations operations body n idx st = Ring.scan operations body n idx.slot st := by
  induction n generalizing idx st with
  | zero => rfl
  | succ n ih => rw [forOperations, ih, slot_wrapIndex_succ, Ring.scan]

/-- The loops over the ring are folds over its valid entries. -/
theorem forOperations_eq_foldl {σ : Type*} (ctx : RsProcessContext) (body : σ → Int64 → σ)
    (st : σ) :
    forOperations ctx.operations body ctx.operationCount.1.toNat ctx.oldestIndex st =
      ctx.valid.foldl body st := by
  have hmod : ctx.oldestIndex.1.toNat % rsMaxOperationsPerPid =
      (ctx.operationHead.1.toNat + rsMaxOperationsPerPid - ctx.operationCount.1.toNat) %
        rsMaxOperationsPerPid := by
    rw [toNat_oldestIndex, Nat.mod_mod]
  rw [forOperations_eq_scan, slot_eq_ofNat, Ring.scan_eq_foldl, Ring.walk_mod _ hmod]
  rfl

/-! ### Pruning -/

theorem foldl_append_if {p : Int64 → Prop} [DecidablePred p] (l acc : List Int64) :
    l.foldl (fun acc x => if p x then acc ++ [x] else acc) acc = acc ++ l.filter (p ·) := by
  induction l generalizing acc with
  | nil => rw [List.foldl_nil, List.filter_nil, List.append_nil]
  | cons x l ih =>
    rw [List.foldl_cons, ih]
    by_cases hx : p x
    · rw [if_pos hx, List.filter_cons_of_pos (by simpa using hx), List.append_assoc,
        List.singleton_append]
    · rw [if_neg hx, List.filter_cons_of_neg (by simpa using hx)]

theorem pruneScan_eq_filter (w : Int64) (ctx : RsProcessContext) (t : Int64) :
    pruneScan w ctx t = ctx.valid.filter fun x => t - x ≤ w := by
  rw [pruneScan, forOperations_eq_foldl, foldl_append_if, List.nil_append]

theorem toNat_length_pruneScan (w : Int64) (ctx : RsProcessContext) (t : Int64) :
    (UInt32.ofNat (pruneScan w ctx t).length).toNat = (pruneScan w ctx t).length := by
  have hlen : (pruneScan w ctx t).length ≤ 256 := length_pruneScan_le w ctx t
  rw [UInt32.toNat_ofNat', Nat.mod_eq_of_lt (by omega)]

/-- **Pruning filters the valid entries by age**, in order. -/
theorem valid_prune (w : Int64) (ctx : RsProcessContext) (t : Int64) :
    (rsPruneOldOperations w ctx t).valid = ctx.valid.filter fun x => t - x ≤ w := by
  unfold rsPruneOldOperations
  split_ifs with h
  · have hnil : ctx.valid = [] := List.length_eq_zero_iff.1 (by rw [length_valid, h]; rfl)
    rw [hnil, List.filter_nil]
  · have hlen := length_pruneScan_le w ctx t
    rw [← pruneScan_eq_filter, valid]
    simp only [toNat_wrapIndex, toNat_length_pruneScan]
    refine Ring.contents_linear _ hlen ?_
    intro i hi
    rw [copyOperations, dif_pos hi]

/-! ### Recording -/

/-- **Recording appends an entry**; the oldest one is dropped when the ring is full. -/
theorem valid_record (ctx : RsProcessContext) (t : Int64) :
    (recordTimestamp ctx t).valid = (ctx.valid ++ [t]).rtake rsMaxOperationsPerPid := by
  have hcount := ctx.operationCount.2
  have hpush := Ring.contents_push ctx.operations ctx.operationHead.1.toNat hcount t
  rw [← slot_eq_ofNat] at hpush
  unfold recordTimestamp
  split_ifs with h
  · -- there is room behind the entries
    have hlt : ctx.operationCount.1.toNat < 256 := by
      rwa [UInt32.lt_iff_toNat_lt, toNat_ofNat_maxOperations] at h
    have hsucc : (ctx.operationCount.1 + 1).toNat = ctx.operationCount.1.toNat + 1 :=
      toNat_add_of_lt (by simp only [UInt32.reduceToNat]; omega)
    rw [if_pos hlt] at hpush
    simp only [valid, toNat_wrapIndex, toNat_succ_index, hsucc]
    exact hpush
  · -- the head is at the oldest entry
    have hge : ¬ ctx.operationCount.1.toNat < rsMaxOperationsPerPid := by
      rwa [UInt32.lt_iff_toNat_lt, toNat_ofNat_maxOperations] at h
    rw [if_neg hge] at hpush
    simp only [valid, toNat_wrapIndex, toNat_succ_index]
    exact hpush

/-! ### Counting -/

/-- **The threshold check counts the valid entries within the window.** -/
theorem toNat_countRecent (w : Int64) (ctx : RsProcessContext) (t : Int64) :
    (countRecent w ctx t).toNat = ctx.valid.countP fun x => t - x ≤ w := by
  have hlen : ctx.valid.length ≤ 256 := ctx.length_valid_le
  unfold countRecent
  split_ifs with h
  · rw [forOperations_eq_foldl, foldl_count_if _ _ (by simp only [UInt32.toNat_zero]; omega),
      UInt32.toNat_zero, Nat.zero_add]
  · have hzero : ctx.operationCount.1.toNat = 0 := by
      have := UInt32.lt_iff_toNat_lt.not.1 h
      simpa using this
    have hnil : ctx.valid = [] := List.length_eq_zero_iff.1 (by rw [length_valid, hzero])
    rw [hnil]
    rfl

/-! ### Prune, record, evaluate -/

/-- The window after an operation at time `t`: the old entries within the window, and `t`. -/
def slide (w : Int64) (entries : List Int64) (t : Int64) : List Int64 :=
  (entries.filter (fun x => t - x ≤ w) ++ [t]).rtake rsMaxOperationsPerPid

theorem age_le_of_mem_slide {w : Int64} (hw : 0 ≤ w) {entries : List Int64} {t x : Int64}
    (hx : x ∈ slide w entries t) : t - x ≤ w := by
  rcases List.mem_append.1 ((Window.rtake_suffix _ _).subset hx) with h | h
  · simpa using (List.mem_filter.1 h).2
  · rw [List.mem_singleton.1 h, Int64.sub_self]
    exact hw

theorem slide_sublist {w t : Int64} {entries log : List Int64} (h : entries.Sublist log) :
    (slide w entries t).Sublist (log ++ [t]) := by
  refine (Window.rtake_suffix _ _).sublist.trans ?_
  exact (List.filter_sublist.trans h).append (List.Sublist.refl [t])

theorem valid_rsCreateProcessContext (p : UInt32) (image : Option UnicodeString) :
    (rsCreateProcessContext p image).valid = [] :=
  List.length_eq_zero_iff.1 (length_valid _)

end RsProcessContext

open RsProcessContext

section

variable (cfg : RsConfig) (ctx : RsProcessContext) (t : Int64)

/-- The context with the operation recorded, before the threshold is checked. -/
def recordOperation : RsProcessContext :=
  { recordTimestamp (rsPruneOldOperations cfg.timeWindowTicks ctx t) t with lastActivityTime := t }

theorem valid_recordOperation :
    (recordOperation cfg ctx t).valid = slide cfg.timeWindowTicks ctx.valid t := by
  have h := valid_record (rsPruneOldOperations cfg.timeWindowTicks ctx t) t
  rw [valid_prune] at h
  exact h

theorem recordOperation_isBlocked : (recordOperation cfg ctx t).isBlocked = ctx.isBlocked := by
  unfold recordOperation recordTimestamp rsPruneOldOperations
  split_ifs <;> rfl

theorem recordOperation_processId : (recordOperation cfg ctx t).processId = ctx.processId := by
  unfold recordOperation recordTimestamp rsPruneOldOperations
  split_ifs <;> rfl

theorem recordOperation_imageName : (recordOperation cfg ctx t).imageName = ctx.imageName := by
  unfold recordOperation recordTimestamp rsPruneOldOperations
  split_ifs <;> rfl

theorem recordAndEvaluate_eq :
    recordAndEvaluate cfg ctx t =
      let recentCount := countRecent cfg.timeWindowTicks (recordOperation cfg ctx t) t
      if recentCount ≥ cfg.fileCountThreshold ∧ ctx.isBlocked = false ∧
          cfg.monitoringEnabled ≠ 0 then
        { context :=
            { recordOperation cfg ctx t with isBlocked := true, blockedTimestamp := t }
          recentCount := recentCount
          shouldBlock := true }
      else
        { context := recordOperation cfg ctx t
          recentCount := recentCount
          shouldBlock := false } := by
  rw [← recordOperation_isBlocked cfg ctx t]
  rfl

/-- The count compared with the threshold: the entries within the window. -/
theorem toNat_recentCount :
    (recordAndEvaluate cfg ctx t).recentCount.toNat =
      (slide cfg.timeWindowTicks ctx.valid t).countP fun x => t - x ≤ cfg.timeWindowTicks := by
  rw [← valid_recordOperation, ← toNat_countRecent, recordAndEvaluate_eq]
  simp only []
  split_ifs <;> rfl

theorem recentCount_le :
    (recordAndEvaluate cfg ctx t).recentCount.toNat ≤ rsMaxOperationsPerPid := by
  rw [toNat_recentCount, ← valid_recordOperation]
  exact List.countP_le_length.trans (length_valid_le _)

theorem shouldBlock_iff :
    (recordAndEvaluate cfg ctx t).shouldBlock = true ↔
      cfg.fileCountThreshold ≤ (recordAndEvaluate cfg ctx t).recentCount ∧
        ctx.isBlocked = false ∧ cfg.monitoringEnabled ≠ 0 := by
  rw [recordAndEvaluate_eq]
  simp only []
  split_ifs with h
  · exact ⟨fun _ => h, fun _ => rfl⟩
  · exact ⟨fun hf => absurd hf (by decide), fun hc => absurd hc h⟩

theorem valid_recordAndEvaluate :
    (recordAndEvaluate cfg ctx t).context.valid = slide cfg.timeWindowTicks ctx.valid t := by
  rw [← valid_recordOperation, recordAndEvaluate_eq]
  simp only []
  split_ifs <;> rfl

theorem recordAndEvaluate_isBlocked :
    (recordAndEvaluate cfg ctx t).context.isBlocked =
      (ctx.isBlocked || (recordAndEvaluate cfg ctx t).shouldBlock) := by
  rw [recordAndEvaluate_eq]
  simp only []
  split_ifs
  · rw [Bool.or_true]
  · rw [Bool.or_false]
    exact recordOperation_isBlocked cfg ctx t

theorem recordAndEvaluate_processId :
    (recordAndEvaluate cfg ctx t).context.processId = ctx.processId := by
  rw [recordAndEvaluate_eq]
  simp only []
  split_ifs <;> exact recordOperation_processId cfg ctx t

theorem recordAndEvaluate_imageName :
    (recordAndEvaluate cfg ctx t).context.imageName = ctx.imageName := by
  rw [recordAndEvaluate_eq]
  simp only []
  split_ifs <;> exact recordOperation_imageName cfg ctx t

end

end RansomShield
