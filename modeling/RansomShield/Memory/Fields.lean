import Mathlib.Data.List.OfFn
import RansomShield.Memory.Stores

/-!
# Fields that do not overlap

A record is stored field by field.  As long as the fields do not overlap (`Store.Disjoint`), each of
them is in the memory afterwards, in whatever order they were stored (`holds_stores`).  A store that
a later one covers can be left out (`stores_of_covered`), and the elements of an array are separate
because their slots are (`pairwise_disjoint_flatMap`).

`Store.Holds` says that the memory holds what a store writes; a record is held field by field
(`Store.holds_append`), and an array element by element (`Store.Holds.element`).
-/

namespace RansomShield

variable {α ι : Type*} {w w' : Store α} {ws ws' : List (Store α)} {m : ℕ → α} {lo hi lo' hi' i : ℕ}

namespace Store

/-- The memory holds what the store writes. -/
def Holds (w : Store α) (m : ℕ → α) : Prop :=
  ∀ k (hk : k < w.cells.length), m (w.offset + k) = w.cells[k]

/-- The stores do not overlap. -/
def Disjoint (w w' : Store α) : Prop :=
  w.offset + w.cells.length ≤ w'.offset ∨ w'.offset + w'.cells.length ≤ w.offset

/-- The store stays between two offsets. -/
def Within (lo hi : ℕ) (w : Store α) : Prop := lo ≤ w.offset ∧ w.offset + w.cells.length ≤ hi

instance (w w' : Store α) : Decidable (w.Disjoint w') := inferInstanceAs (Decidable (_ ∨ _))

instance (lo hi : ℕ) (w : Store α) : Decidable (w.Within lo hi) :=
  inferInstanceAs (Decidable (_ ∧ _))

theorem Disjoint.symm (h : w.Disjoint w') : w'.Disjoint w := Or.symm h

theorem Disjoint.not_covers (h : w.Disjoint w') (hi : w.covers i) : ¬ w'.covers i := by
  intro hi'
  have := hi.1; have := hi.2; have := hi'.1; have := hi'.2
  rcases h with h | h <;> omega

theorem Within.disjoint (h : w.Within lo hi) (h' : w'.Within lo' hi')
    (hsep : hi ≤ lo' ∨ hi' ≤ lo) : w.Disjoint w' := by
  have := h.1; have := h.2; have := h'.1; have := h'.2
  unfold Disjoint
  omega

theorem holds_apply (w : Store α) (m : ℕ → α) : w.Holds (w.apply m) := by
  intro k hk
  rw [apply, if_pos (Nat.le_add_right _ _), Nat.add_sub_cancel_left, List.getD_eq_getElem _ _ hk]

theorem Holds.congr {m' : ℕ → α} (h : w.Holds m) (hw : w.Within lo hi)
    (hm : ∀ i, lo ≤ i → i < hi → m' i = m i) : w.Holds m' := by
  intro k hk
  have := hw.1; have := hw.2
  rw [hm _ (by omega) (by omega)]
  exact h k hk

theorem holds_append {offset : ℕ} {cells cells' : List α} :
    Holds ⟨offset, cells ++ cells'⟩ m ↔
      Holds ⟨offset, cells⟩ m ∧ Holds ⟨offset + cells.length, cells'⟩ m := by
  constructor
  · intro h
    refine ⟨fun k hk => ?_, fun k hk => ?_⟩
    · have hk' : k < cells.length := hk
      have hcell := h k (by rw [List.length_append]; omega)
      rwa [List.getElem_append_left hk'] at hcell
    · have hk' : k < cells'.length := hk
      have hcell := h (cells.length + k) (by rw [List.length_append]; omega)
      rw [List.getElem_append_right (Nat.le_add_right _ _)] at hcell
      simpa only [Nat.add_assoc, Nat.add_sub_cancel_left] using hcell
  · rintro ⟨h, h'⟩ k hk
    have hlen : k < (cells ++ cells').length := hk
    rw [List.length_append] at hlen
    rcases Nat.lt_or_ge k cells.length with hlt | hge
    · rw [List.getElem_append_left hlt]
      exact h k hlt
    · have hk' : k - cells.length < cells'.length := by omega
      have hoffset : offset + k = offset + cells.length + (k - cells.length) := by omega
      rw [List.getElem_append_right hge, ← h' (k - cells.length) hk', ← hoffset]

theorem Holds.element {offset size : ℕ} {f : ι → List α} (hf : ∀ a, (f a).length = size)
    {l : List ι} (h : Holds ⟨offset, l.flatMap f⟩ m) {i : ℕ} (hi : i < l.length) :
    Holds ⟨offset + size * i, f l[i]⟩ m := by
  induction l generalizing offset i with
  | nil => cases hi
  | cons a l ih =>
    rw [List.flatMap_cons, holds_append, hf] at h
    cases i with
    | zero => exact h.1
    | succ i =>
      have hlt : i < l.length := Nat.lt_of_succ_lt_succ hi
      have hoffset : offset + size * (i + 1) = offset + size + size * i := by
        rw [Nat.mul_succ]
        omega
      rw [hoffset]
      exact ih h.2 hlt

theorem Holds.stores (h : w.Holds m) (hws : ∀ w' ∈ ws, w.Disjoint w') :
    w.Holds (stores ws m) := by
  intro k hk
  rw [stores_of_not_covers, h k hk]
  intro w' hw'
  exact (hws w' hw').not_covers ⟨Nat.le_add_right _ _, by omega⟩

end Store

/-- **Of stores that do not overlap, the memory holds each.** -/
theorem holds_stores (h : ws.Pairwise Store.Disjoint) (hw : w ∈ ws) (m : ℕ → α) :
    w.Holds (stores ws m) := by
  induction ws generalizing m with
  | nil => cases hw
  | cons w' ws ih =>
    rw [List.pairwise_cons] at h
    rcases List.mem_cons.1 hw with rfl | hw
    · exact (Store.holds_apply w m).stores h.1
    · exact ih h.2 hw _

/-- **A store that a later one covers does not matter.** -/
theorem stores_of_covered (hw' : w' ∈ ws') (hcovers : ∀ i, w.covers i → w'.covers i)
    (ws : List (Store α)) (m : ℕ → α) : stores (ws ++ w :: ws') m = stores (ws ++ ws') m := by
  rw [stores_append, stores_append, stores_cons]
  funext i
  by_cases hi : w.covers i
  · exact stores_congr ⟨w', hw', hcovers i hi⟩ _ _
  · -- outside the store the memories agree, so that they do after the later stores
    have hagree : ∀ (l : List (Store α)) (m m' : ℕ → α), m i = m' i →
        stores l m i = stores l m' i := by
      intro l m m' h
      by_cases hl : ∃ v ∈ l, v.covers i
      · exact stores_congr hl _ _
      · push Not at hl
        rw [stores_of_not_covers hl, stores_of_not_covers hl, h]
    exact hagree ws' _ _ (Store.apply_of_not_covers hi)

/-- **Records in separate slots do not overlap.** -/
theorem pairwise_disjoint_flatMap (slot : ι → ℕ × ℕ) {l : List ι} {f : ι → List (Store α)}
    (hslot : l.Pairwise fun a b => (slot a).2 ≤ (slot b).1 ∨ (slot b).2 ≤ (slot a).1)
    (hwithin : ∀ a ∈ l, ∀ w ∈ f a, w.Within (slot a).1 (slot a).2)
    (hrecord : ∀ a ∈ l, (f a).Pairwise Store.Disjoint) :
    (l.flatMap f).Pairwise Store.Disjoint := by
  rw [List.pairwise_flatMap]
  refine ⟨hrecord, ?_⟩
  refine hslot.imp_of_mem ?_
  intro a b ha hb hab w hw w' hw'
  exact (hwithin a ha w hw).disjoint (hwithin b hb w' hw') hab

end RansomShield
