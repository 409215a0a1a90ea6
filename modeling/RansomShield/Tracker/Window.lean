import RansomShield.Tracker.Lookup

/-!
# The sliding window over a log of times

How the ring of a context relates to the log of the times it has recorded, as long as these times
do not decrease: it is a sublist of the log that ends with the recent times, up to the capacity
of the ring (`Retains`), and recording keeps it so (`Retains.slide`).  Counting the ring then counts
the log (`countP_slide`).

Everything here is about times in `[0, 2 ^ 63)`, so that no age overflows (`ExactLoop`).
-/

namespace RansomShield

/-- The time `x` is within the window at `t`. -/
def recent (w t x : Int64) : Bool := t - x ≤ w

theorem recent_iff {w t x : Int64} (ht : 0 ≤ t) (hx : 0 ≤ x) :
    recent w t x = true ↔ t.toInt - w.toInt ≤ x.toInt := by
  rw [recent, decide_eq_true_eq, age_le_iff ht hx]

theorem recent_self {w : Int64} (hw : 0 ≤ w) (t : Int64) : recent w t t = true := by
  rw [recent, Int64.sub_self, decide_eq_true_eq]
  exact hw

theorem recent_mono {w t x y : Int64} (ht : 0 ≤ t) (hxy : 0 ≤ x ∧ x ≤ y)
    (h : recent w t x = true) : recent w t y = true := by
  have hle : x.toInt ≤ y.toInt := Int64.le_iff_toInt_le.1 hxy.2
  rw [recent_iff ht hxy.1] at h
  rw [recent_iff ht (Int64.le_trans hxy.1 hxy.2)]
  omega

theorem recent_anti {w t t' x : Int64} (ht : 0 ≤ t) (htt' : t ≤ t') (hx : 0 ≤ x)
    (h : recent w t' x = true) : recent w t x = true := by
  have hle : t.toInt ≤ t'.toInt := Int64.le_iff_toInt_le.1 htt'
  rw [recent_iff (Int64.le_trans ht htt') hx] at h
  rw [recent_iff ht hx]
  omega

/-- The entries end with the last 256 of the recent times. -/
def Retains (w t : Int64) (times entries : List Int64) : Prop :=
  (times.filter (recent w t)).rtake rsMaxOperationsPerPid <:+ entries

theorem retains_nil (w t : Int64) (entries : List Int64) : Retains w t [] entries := by
  rw [Retains, List.filter_nil, List.rtake_nil]
  exact List.nil_suffix

namespace RsProcessContext

theorem slide_eq (w : Int64) (entries : List Int64) (t : Int64) :
    slide w entries t = (entries.filter (recent w t) ++ [t]).rtake rsMaxOperationsPerPid :=
  rfl

end RsProcessContext

open RsProcessContext

variable {w t t' : Int64} {times entries : List Int64}

/-- The times do not decrease, and none is negative. -/
def Ordered (times : List Int64) : Prop := times.Pairwise (· ≤ ·) ∧ ∀ x ∈ times, 0 ≤ x

theorem Ordered.pairwise (h : Ordered times) : times.Pairwise fun x y => 0 ≤ x ∧ x ≤ y :=
  h.1.imp_of_mem fun hx _ hxy => ⟨h.2 _ hx, hxy⟩

/-- **Recording keeps the recent times**: if the ring retains the times within the window at `t`,
it retains those within the window at a later `t'`, and `t'`. -/
theorem Retains.slide (h : Retains w t times entries) (hw : 0 ≤ w) (ht : 0 ≤ t) (htt' : t ≤ t')
    (htimes : Ordered times) : Retains w t' (times ++ [t']) (slide w entries t') := by
  have ht' : 0 ≤ t' := Int64.le_trans ht htt'
  -- the times within the new window are the recent end of those within the old one
  have hfilter : ((times.filter (recent w t)).rtake rsMaxOperationsPerPid).filter (recent w t') =
      (times.filter (recent w t')).rtake rsMaxOperationsPerPid :=
    Window.filter_rtake_filter htimes.pairwise (fun _ _ => recent_mono ht')
      (fun x hx => recent_anti ht htt' (htimes.2 x hx)) _
  have hsuffix : (times.filter (recent w t')).rtake rsMaxOperationsPerPid <:+
      entries.filter (recent w t') := by
    rw [← hfilter]
    exact h.filter _
  have hself : (times ++ [t']).filter (recent w t') = times.filter (recent w t') ++ [t'] := by
    rw [List.filter_append, List.filter_cons_of_pos (recent_self hw t'), List.filter_nil]
  obtain ⟨front, hfront⟩ := hsuffix
  rw [Retains, hself, slide_eq, ← Window.rtake_rtake_concat]
  refine Window.rtake_suffix_rtake ⟨front, ?_⟩ _
  rw [← hfront, List.append_assoc]

/-- **The count compared with the threshold is exact up to the capacity of the ring**, when the
ring holds logged times only and retains the recent ones. -/
theorem countP_slide (hup : (slide w entries t).Sublist times)
    (hlow : Retains w t times (slide w entries t)) :
    (slide w entries t).countP (recent w t) =
      min rsMaxOperationsPerPid (times.countP (recent w t)) := by
  refine Window.countP_eq_min_of_window ?_ hlow hup
  rw [RsProcessContext.slide, Window.length_rtake]
  exact Nat.min_le_left _ _

/-! ### Arithmetic -/

/-- The arithmetic of a loop over the ring of `ctx` at time `t` is exact: the index of the oldest
entry, the next indices, the next number of entries, and the ages of the entries neither overflow
nor underflow. -/
structure ExactLoop (ctx : RsProcessContext) (t : Int64) : Prop where
  oldest :
    (ctx.operationHead.1 + UInt32.ofNat rsMaxOperationsPerPid - ctx.operationCount.1).toNat =
      ctx.operationHead.1.toNat + rsMaxOperationsPerPid - ctx.operationCount.1.toNat
  next : ∀ i : OperationIndex, (i.1 + 1).toNat = i.1.toNat + 1
  grow : (ctx.operationCount.1 + 1).toNat = ctx.operationCount.1.toNat + 1
  age : ∀ x ∈ ctx.valid, (t - x).toInt = t.toInt - x.toInt

theorem exactLoop {ctx : RsProcessContext} {t : Int64} (ht : 0 ≤ t) (h : ∀ x ∈ ctx.valid, 0 ≤ x) :
    ExactLoop ctx t where
  oldest := toNat_oldest ctx
  next := toNat_succ_index
  grow := by
    have hcount : ctx.operationCount.1.toNat ≤ 256 := ctx.operationCount.2
    exact toNat_add_of_lt (by simp only [UInt32.reduceToNat]; omega)
  age x hx := toInt_sub_of_nonneg ht (h x hx)

end RansomShield
