import Mathlib.Data.Fin.Basic
import Mathlib.Data.List.DropRight
import Mathlib.Data.Nat.ModEq
import Mathlib.Logic.Function.Basic
import Mathlib.Data.List.OfFn

/-!
# Ring buffers

A ring buffer is an array of `n` slots, the position `head` of the next write, and the number
`count ≤ n` of valid entries, which precede `head` cyclically.  This file relates the array to
the list of its valid entries, oldest first (`Ring.contents`): writing at `head` appends an entry,
and drops the oldest one when the buffer is full (`Ring.contents_push`), and a ring whose first
slots were overwritten by a list holds that list (`Ring.contents_linear`).

A loop that reads `k` slots from a position on, with wrap-around, is a fold over `Ring.walk`
(`Ring.scan_eq_foldl`).
-/

namespace RansomShield

namespace Ring

variable {α β : Type*} {n : ℕ} [NeZero n]

/-- The `k` entries read from position `i` on, with wrap-around. -/
def walk (slots : Fin n → α) (i k : ℕ) : List α :=
  (List.range k).map fun j => slots (Fin.ofNat n (i + j))

/-- The valid entries of a ring, oldest first. -/
def contents (slots : Fin n → α) (head count : ℕ) : List α :=
  walk slots (head + n - count) count

/-- Read `k` slots from `i` on, with wrap-around, and combine them by `f`. -/
def scan (slots : Fin n → α) (f : β → α → β) : ℕ → Fin n → β → β
  | 0, _, b => b
  | k + 1, i, b => scan slots f k (i + 1) (f b (slots i))

@[simp] theorem length_walk (slots : Fin n → α) (i k : ℕ) : (walk slots i k).length = k := by
  simp [walk]

@[simp] theorem length_contents (slots : Fin n → α) (head count : ℕ) :
    (contents slots head count).length = count :=
  length_walk _ _ _

theorem walk_succ (slots : Fin n → α) (i k : ℕ) :
    walk slots i (k + 1) = slots (Fin.ofNat n i) :: walk slots (i + 1) k := by
  simp only [walk, List.range_succ_eq_map, List.map_cons, List.map_map, Nat.add_zero]
  congr 1
  refine List.map_congr_left ?_
  intro j _
  simp only [Function.comp_apply]
  congr 2
  omega

theorem walk_concat (slots : Fin n → α) (i k : ℕ) :
    walk slots i (k + 1) = walk slots i k ++ [slots (Fin.ofNat n (i + k))] := by
  simp [walk, List.range_succ]

/-- Positions count modulo the size of the array. -/
theorem walk_mod (slots : Fin n → α) {i j : ℕ} (h : i % n = j % n) (k : ℕ) :
    walk slots i k = walk slots j k := by
  refine List.map_congr_left ?_
  intro m _
  congr 1
  apply Fin.ext
  simp only [Fin.val_ofNat, Nat.add_mod i m n, h, ← Nat.add_mod]

/-- A write outside the positions read does not change what is read. -/
theorem walk_update_of_ne (slots : Fin n → α) {i k p : ℕ} (x : α)
    (h : ∀ j < k, (i + j) % n ≠ p % n) :
    walk (Function.update slots (Fin.ofNat n p) x) i k = walk slots i k := by
  refine List.map_congr_left ?_
  intro j hj
  refine Function.update_of_ne (fun he => h j (List.mem_range.1 hj) ?_) _ _
  simpa using congrArg Fin.val he

/-- **The scanning loop is a fold over the entries it walks.** -/
theorem scan_eq_foldl (slots : Fin n → α) (f : β → α → β) (k i : ℕ) (b : β) :
    scan slots f k (Fin.ofNat n i) b = (walk slots i k).foldl f b := by
  induction k generalizing i b with
  | zero => rfl
  | succ k ih =>
    have hi : Fin.ofNat n i + 1 = Fin.ofNat n (i + 1) := by
      apply Fin.ext
      simp [Fin.val_add]
    rw [scan, walk_succ, List.foldl_cons, hi, ih]

/-! ### Writing at the head -/

omit [NeZero n] in
theorem add_mod_ne_of_lt {i j k : ℕ} (hj : j < k) (hk : k < n) : (i + j) % n ≠ (i + k) % n := by
  intro h
  have hjk : j ≡ k [MOD n] := Nat.ModEq.add_left_cancel' i h
  rw [Nat.ModEq, Nat.mod_eq_of_lt (hj.trans hk), Nat.mod_eq_of_lt hk] at hjk
  exact hj.ne hjk

theorem walk_update_concat (slots : Fin n → α) (i : ℕ) {k : ℕ} (hk : k < n) (x : α) :
    walk (Function.update slots (Fin.ofNat n (i + k)) x) i (k + 1) = walk slots i k ++ [x] := by
  rw [walk_concat, walk_update_of_ne _ _ fun j hj => add_mod_ne_of_lt hj hk,
    Function.update_self]

/-- **Writing at the head of a ring** appends an entry; when the ring is full the oldest entry is
overwritten. -/
theorem contents_push (slots : Fin n → α) (head : ℕ) {count : ℕ} (hc : count ≤ n) (x : α) :
    contents (Function.update slots (Fin.ofNat n head) x) ((head + 1) % n)
      (if count < n then count + 1 else count) = (contents slots head count ++ [x]).rtake n := by
  have hpos : 0 < n := Nat.pos_of_ne_zero (NeZero.ne n)
  have hlen : (contents slots head count ++ [x]).length = count + 1 := by simp
  by_cases h : count < n
  · -- the entries start where they did, and the head is behind them
    have hhead : (head + n - count + count) % n = head % n := by
      rw [Nat.sub_add_cancel (by omega), Nat.add_mod_right]
    have hstart : ((head + 1) % n + n - (count + 1)) % n = (head + n - count) % n := by
      rw [Nat.add_sub_assoc (by omega), Nat.add_sub_assoc (by omega), Nat.mod_add_mod]
      congr 1
      omega
    have hslot : Fin.ofNat n head = Fin.ofNat n (head + n - count + count) := by
      apply Fin.ext; simpa using hhead.symm
    rw [List.rtake, hlen, Nat.sub_eq_zero_of_le (by omega), List.drop_zero, if_pos h, contents,
      walk_mod _ hstart, hslot, walk_update_concat _ _ h, contents]
  · obtain rfl : count = n := by omega
    obtain ⟨k, rfl⟩ : ∃ k, count = k + 1 := ⟨count - 1, by omega⟩
    -- the entries before the one overwritten start one slot after the head
    have hstart : ((head + 1) % (k + 1) + (k + 1) - (k + 1)) % (k + 1) = (head + 1) % (k + 1) := by
      rw [Nat.add_sub_cancel, Nat.mod_mod]
    have hhead : (head + 1 + k) % (k + 1) = head % (k + 1) := by
      rw [show head + 1 + k = head + (k + 1) by omega, Nat.add_mod_right]
    have hslot : Fin.ofNat (k + 1) head = Fin.ofNat (k + 1) (head + 1 + k) := by
      apply Fin.ext; simpa using hhead.symm
    rw [if_neg h, List.rtake, hlen, Nat.add_sub_cancel_left, contents, walk_mod _ hstart, hslot,
      walk_update_concat _ _ (Nat.lt_succ_self k), contents, Nat.add_sub_cancel, walk_succ,
      List.cons_append, List.drop_one, List.tail_cons]

/-! ### Compaction -/

/-- **A ring compacted to the front of its array**: when the first slots hold the list `l`, the
ring with `l.length` entries and its head behind them holds `l`. -/
theorem contents_linear (slots : Fin n → α) {l : List α} (hl : l.length ≤ n)
    (h : ∀ (i : Fin n) (hi : i.val < l.length), slots i = l[i.val]) :
    contents slots (l.length % n) l.length = l := by
  -- when the list fills the array, the head is back at the first slot
  have hstart : (l.length % n + n - l.length) % n = 0 % n := by
    rcases Nat.lt_or_eq_of_le hl with hlt | heq
    · rw [Nat.mod_eq_of_lt hlt, Nat.add_sub_cancel_left, Nat.mod_self, Nat.zero_mod]
    · rw [heq, Nat.mod_self, Nat.zero_add, Nat.sub_self]
  rw [contents, walk_mod _ hstart]
  refine List.ext_getElem (by simp) ?_
  intro i hi hi'
  have hin : i < n := hi'.trans_le hl
  have hs : Fin.ofNat n i = ⟨i, hin⟩ := Fin.ext (Nat.mod_eq_of_lt hin)
  simp only [walk, List.getElem_map, List.getElem_range, Nat.zero_add, hs]
  exact h ⟨i, hin⟩ hi'

end Ring

end RansomShield
