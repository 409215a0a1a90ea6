import Mathlib.Data.List.GetD
import Mathlib.Tactic.Common

/-!
# Stores into a memory

A computation that fills a buffer is described by its *stores*, in order: each writes a run of
cells from an offset on.  What is in a cell afterwards is decided by the last store that covers it
(`stores_last`), and does not depend on the previous content if there is one (`stores_congr`).
Cells that no store covers are left alone (`stores_of_not_covers`).
-/

namespace RansomShield

/-- Cells written from an offset on. -/
structure Store (α : Type*) where
  offset : ℕ
  cells : List α

variable {α : Type*}

/-- The store writes the cell. -/
def Store.covers (w : Store α) (i : ℕ) : Prop := w.offset ≤ i ∧ i < w.offset + w.cells.length

instance (w : Store α) (i : ℕ) : Decidable (w.covers i) :=
  inferInstanceAs (Decidable (_ ∧ _))

/-- The memory after a store. -/
def Store.apply (w : Store α) (m : ℕ → α) : ℕ → α := fun i =>
  if w.offset ≤ i then w.cells.getD (i - w.offset) (m i) else m i

/-- The memory after some stores. -/
def stores (ws : List (Store α)) (m : ℕ → α) : ℕ → α := ws.foldl (fun m w => w.apply m) m

variable {w : Store α} {ws ws' : List (Store α)} {m m' : ℕ → α} {i : ℕ}

theorem Store.apply_of_not_covers (h : ¬ w.covers i) : w.apply m i = m i := by
  unfold Store.apply
  split_ifs with hi
  · have hlen := Nat.not_lt.1 fun hlt => h ⟨hi, hlt⟩
    exact List.getD_eq_default _ _ (by omega)
  · rfl

theorem Store.apply_of_covers (h : w.covers i) (m m' : ℕ → α) : w.apply m i = w.apply m' i := by
  unfold Store.apply
  rw [if_pos h.1, if_pos h.1]
  have hlt : i - w.offset < w.cells.length := by have := h.1; have := h.2; omega
  rw [List.getD_eq_getElem _ _ hlt, List.getD_eq_getElem _ _ hlt]

@[simp] theorem stores_cons (w : Store α) (ws : List (Store α)) (m : ℕ → α) :
    stores (w :: ws) m = stores ws (w.apply m) := rfl

theorem stores_append (ws ws' : List (Store α)) (m : ℕ → α) :
    stores (ws ++ ws') m = stores ws' (stores ws m) := List.foldl_append

theorem stores_of_not_covers (h : ∀ w ∈ ws, ¬ w.covers i) (m : ℕ → α) : stores ws m i = m i := by
  induction ws generalizing m with
  | nil => rfl
  | cons w ws ih =>
    rw [stores_cons, ih fun w' hw' => h w' (List.mem_cons_of_mem w hw')]
    exact Store.apply_of_not_covers (h w List.mem_cons_self)

/-- **The last store that covers a cell decides it.** -/
theorem stores_last (h : ∀ w ∈ ws', ¬ w.covers i) (m : ℕ → α) :
    stores (ws ++ w :: ws') m i = w.apply (stores ws m) i := by
  rw [stores_append, stores_cons, stores_of_not_covers h]

/-- **A covered cell does not depend on the previous content.** -/
theorem stores_congr (h : ∃ w ∈ ws, w.covers i) (m m' : ℕ → α) :
    stores ws m i = stores ws m' i := by
  induction ws generalizing m m' with
  | nil => obtain ⟨_, hw, _⟩ := h; cases hw
  | cons w ws ih =>
    rw [stores_cons, stores_cons]
    by_cases hrest : ∃ w' ∈ ws, w'.covers i
    · exact ih hrest _ _
    · -- no later store covers the cell, so that the first one does
      push Not at hrest
      rw [stores_of_not_covers hrest, stores_of_not_covers hrest]
      obtain ⟨w', hw', hcovers⟩ := h
      rcases List.mem_cons.1 hw' with rfl | hw'
      · exact Store.apply_of_covers hcovers _ _
      · exact absurd hcovers (hrest w' hw')

end RansomShield
