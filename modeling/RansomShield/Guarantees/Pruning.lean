import RansomShield.Tracker.Ring

/-!
# Pruning is filtering

`RsPruneOldOperations` reads a ring that may wrap, compacts it through a temporary array and
recomputes the head and the count.  Whatever the head, the count, the timestamps and the stale
slots are, the abstract sequence of entries is filtered by age, and nothing else happens to it
(`pruning_is_filtering`); pruning twice at the same time is pruning once
(`rsPruneOldOperations_idem`).
-/

namespace RansomShield

/-- As long as the difference of two times is a 64-bit number, their age is that difference. -/
theorem age_le_iff_of_fits {w t x : Int64} (hlow : -2 ^ 63 ≤ t.toInt - x.toInt)
    (hhigh : t.toInt - x.toInt < 2 ^ 63) : t - x ≤ w ↔ t.toInt - x.toInt ≤ w.toInt := by
  have hage : (t - x).toInt = t.toInt - x.toInt := by
    rw [Int64.toInt_sub, Int.bmod_eq_of_le (by omega) (by omega)]
  rw [Int64.le_iff_toInt_le, hage]

namespace RsProcessContext

variable (w : Int64) (ctx : RsProcessContext) (t : Int64)

/-- The valid entries are read from slot `(Head + 256 - Count) % 256` on, with wrap-around. -/
theorem getElem?_valid {k : ℕ} (hk : k < ctx.operationCount.1.toNat) :
    ctx.valid[k]? = some (ctx.operations (Fin.ofNat rsMaxOperationsPerPid
      ((ctx.operationHead.1.toNat + rsMaxOperationsPerPid - ctx.operationCount.1.toNat) %
        rsMaxOperationsPerPid + k))) := by
  have hslot : Fin.ofNat rsMaxOperationsPerPid
      ((ctx.operationHead.1.toNat + rsMaxOperationsPerPid - ctx.operationCount.1.toNat) %
        rsMaxOperationsPerPid + k) =
      Fin.ofNat rsMaxOperationsPerPid
        (ctx.operationHead.1.toNat + rsMaxOperationsPerPid - ctx.operationCount.1.toNat + k) := by
    apply Fin.ext
    simp only [Fin.val_ofNat, Nat.mod_add_mod]
  rw [hslot]
  simp only [valid, Ring.contents, Ring.walk, List.getElem?_map, List.getElem?_range hk,
    Option.map_some]

theorem toNat_operationCount_prune :
    (rsPruneOldOperations w ctx t).operationCount.1.toNat =
      (ctx.valid.filter fun x => t - x ≤ w).length := by
  rw [← length_valid, valid_prune]

/-- **Pruning leaves a linear ring** when there was an entry: the head is behind the last one. -/
theorem toNat_operationHead_prune (h : ctx.operationCount.1 ≠ 0) :
    (rsPruneOldOperations w ctx t).operationHead.1.toNat =
      (ctx.valid.filter fun x => t - x ≤ w).length % rsMaxOperationsPerPid := by
  rw [← pruneScan_eq_filter, rsPruneOldOperations, if_neg h]
  simp only [toNat_wrapIndex, toNat_length_pruneScan]

end RsProcessContext

open RsProcessContext

theorem pruneScan_prune (w : Int64) (ctx : RsProcessContext) (t : Int64) :
    pruneScan w (rsPruneOldOperations w ctx t) t = pruneScan w ctx t := by
  rw [pruneScan_eq_filter, valid_prune, List.filter_filter, pruneScan_eq_filter]
  simp only [Bool.and_self]

theorem copyOperations_idem (operations : Fin rsMaxOperationsPerPid → Int64) (l : List Int64) :
    copyOperations (copyOperations operations l) l = copyOperations operations l := by
  funext i
  by_cases hi : i.val < l.length
  · rw [copyOperations, copyOperations, dif_pos hi, dif_pos hi]
  · rw [copyOperations, dif_neg hi]

theorem rsPruneOldOperations_of_ne_zero {w : Int64} {ctx : RsProcessContext} {t : Int64}
    (h : ctx.operationCount.1 ≠ 0) {l : List Int64} (hl : l = pruneScan w ctx t)
    (hlen : (UInt32.ofNat l.length).toNat ≤ rsMaxOperationsPerPid) :
    rsPruneOldOperations w ctx t =
      { ctx with
        operations := copyOperations ctx.operations l
        operationCount := ⟨UInt32.ofNat l.length, hlen⟩
        operationHead := wrapIndex (UInt32.ofNat l.length) } := by
  subst hl
  rw [rsPruneOldOperations, if_neg h]

/-- **Pruning twice at the same time is pruning once**, to the last slot. -/
theorem rsPruneOldOperations_idem (w : Int64) (ctx : RsProcessContext) (t : Int64) :
    rsPruneOldOperations w (rsPruneOldOperations w ctx t) t = rsPruneOldOperations w ctx t := by
  by_cases hctx : ctx.operationCount.1 = 0
  · have hsame : rsPruneOldOperations w ctx t = ctx := by rw [rsPruneOldOperations, if_pos hctx]
    rw [hsame, hsame]
  · by_cases hpruned : (rsPruneOldOperations w ctx t).operationCount.1 = 0
    · rw [rsPruneOldOperations, if_pos hpruned]
    · -- the entries are those of the first pruning, and so are the slots they are copied to
      have hlen : (UInt32.ofNat (pruneScan w ctx t).length).toNat ≤ rsMaxOperationsPerPid := by
        rw [toNat_length_pruneScan]
        exact length_pruneScan_le w ctx t
      rw [rsPruneOldOperations_of_ne_zero hpruned (pruneScan_prune w ctx t).symm hlen,
        rsPruneOldOperations_of_ne_zero hctx rfl hlen]
      simp only [copyOperations_idem]

/-- **Pruning is filtering.**  The valid entries, which are read from slot
`(Head + 256 - Count) % 256` on, become those of age at most the window, in their order; the age
is the exact difference wherever that is a `LONGLONG`.  The ring satisfies the index bounds
again, and pruning it once more at the same time changes nothing. -/
theorem pruning_is_filtering (w : Int64) (ctx : RsProcessContext) (t : Int64) :
    (∀ k < ctx.operationCount.1.toNat,
      ctx.valid[k]? = some (ctx.operations (Fin.ofNat 256
        ((ctx.operationHead.1.toNat + 256 - ctx.operationCount.1.toNat) % 256 + k)))) ∧
      (rsPruneOldOperations w ctx t).valid = ctx.valid.filter (fun x => t - x ≤ w) ∧
      (∀ x : Int64, -2 ^ 63 ≤ t.toInt - x.toInt → t.toInt - x.toInt < 2 ^ 63 →
        (t - x ≤ w ↔ t.toInt - x.toInt ≤ w.toInt)) ∧
      (rsPruneOldOperations w ctx t).operationHead.1.toNat < 256 ∧
      (ctx.operationCount.1 ≠ 0 → (rsPruneOldOperations w ctx t).operationHead.1.toNat =
        (ctx.valid.filter fun x => t - x ≤ w).length % 256) ∧
      (rsPruneOldOperations w ctx t).operationCount.1.toNat =
        (ctx.valid.filter fun x => t - x ≤ w).length ∧
      (rsPruneOldOperations w ctx t).operationCount.1.toNat ≤ 256 ∧
      rsPruneOldOperations w (rsPruneOldOperations w ctx t) t = rsPruneOldOperations w ctx t := by
  refine ⟨?_, valid_prune w ctx t, ?_, (rsPruneOldOperations w ctx t).operationHead.2,
    toNat_operationHead_prune w ctx t, toNat_operationCount_prune w ctx t,
    (rsPruneOldOperations w ctx t).operationCount.2, rsPruneOldOperations_idem w ctx t⟩
  · intro k hk
    exact ctx.getElem?_valid hk
  · intro x hlow hhigh
    exact age_le_iff_of_fits hlow hhigh

end RansomShield
