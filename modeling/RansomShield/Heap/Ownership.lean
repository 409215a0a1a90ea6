import Mathlib.Data.List.Nodup
import Mathlib.Data.Set.Insert
import Mathlib.Logic.Function.Basic
import Mathlib.Tactic.Common

/-!
# Ownership of heap blocks

Blocks are numbered in the order of their allocation, so that a number stands for one allocation
even if an allocator returns an address again.  Every block has one owner (`Heap.Owner`): it is not
yet allocated, in a shared structure, privately held by a holder, or freed.  A block may be any
resource that is acquired and released, such as a handle.

`Heap.Accounts` says that the owners agree with the number of allocations, the shared structure, the
private pointers of the holders, and the calls that freed blocks.  Each move of a block keeps the
accounts: it is allocated, published and shared, or taken back, discarded or withdrawn.  Under them
every allocated block is shared, held by exactly one holder, or freed exactly once, and only one of
these (`Heap.Accounts.exactly_one`).
-/

namespace RansomShield

namespace Heap

/-- Where a block is. -/
inductive Owner (H : Type*)
  | unallocated
  | shared
  | held (h : H)
  | freed

/-- The owners account for the blocks below `next`, which have been allocated: the ones in
`shared`, the private pointers `holds`, and the list `frees` of the blocks freed so far. -/
structure Accounts {H : Type*} (owner : ℕ → Owner H) (next : ℕ) (shared : Set ℕ)
    (holds : H → Option ℕ) (frees : List ℕ) : Prop where
  unallocated : ∀ b, owner b = .unallocated ↔ next ≤ b
  shared : ∀ b, owner b = .shared ↔ b ∈ shared
  held : ∀ b h, owner b = .held h ↔ holds h = some b
  freed : ∀ b, owner b = .freed → frees.count b = 1
  not_freed : ∀ b, owner b ≠ .freed → frees.count b = 0

namespace Accounts

variable {H : Type*} {owner : ℕ → Owner H} {next : ℕ} {shared : Set ℕ} {holds : H → Option ℕ}
  {frees : List ℕ}

theorem init : Accounts (fun _ : ℕ => (Owner.unallocated : Owner H)) 0 ∅ (fun _ => none) [] where
  unallocated b := by simp
  shared b := by simp
  held b h := by simp
  freed b hb := by cases hb
  not_freed b _ := rfl

/-- **Where the allocated blocks are.** -/
theorem exactly_one (hA : Accounts owner next shared holds frees) {b : ℕ} (hb : b < next) :
    (b ∈ shared ∧ (∀ h, holds h ≠ some b) ∧ frees.count b = 0) ∨
    (b ∉ shared ∧ (∃! h, holds h = some b) ∧ frees.count b = 0) ∨
    (b ∉ shared ∧ (∀ h, holds h ≠ some b) ∧ frees.count b = 1) := by
  have hheld (h : H) (hne : owner b ≠ .held h) : holds h ≠ some b := mt (hA.held b h).2 hne
  have hshared (hne : owner b ≠ .shared) : b ∉ shared := mt (hA.shared b).2 hne
  cases ho : owner b with
  | unallocated =>
    have := (hA.unallocated b).1 ho
    omega
  | shared =>
    refine .inl ⟨(hA.shared b).1 ho, fun h => hheld h ?_, hA.not_freed b ?_⟩ <;> simp [ho]
  | held h =>
    refine .inr (.inl ⟨hshared (by simp [ho]), ⟨h, (hA.held b h).1 ho, ?_⟩,
      hA.not_freed b (by simp [ho])⟩)
    intro h' hh'
    have ho' := (hA.held b h').2 hh'
    rw [ho] at ho'
    exact (Owner.held.inj ho').symm
  | freed =>
    exact .inr (.inr ⟨hshared (by simp [ho]), fun h => hheld h (by simp [ho]), hA.freed b ho⟩)

theorem not_mem_of_holds (hA : Accounts owner next shared holds frees) {h : H} {b : ℕ}
    (hb : holds h = some b) : b ∉ shared := by
  rw [← hA.shared, (hA.held b h).2 hb]
  simp

theorem lt_of_mem (hA : Accounts owner next shared holds frees) {b : ℕ} (hb : b ∈ shared) :
    b < next := by
  rw [← Nat.not_le, ← hA.unallocated, (hA.shared b).2 hb]
  simp

theorem lt_of_holds (hA : Accounts owner next shared holds frees) {h : H} {b : ℕ}
    (hb : holds h = some b) : b < next := by
  rw [← Nat.not_le, ← hA.unallocated, (hA.held b h).2 hb]
  simp

variable [DecidableEq H]

/-- A holder with no private block allocates one. -/
theorem allocate (hA : Accounts owner next shared holds frees) {h : H} (hh : holds h = none) :
    Accounts (Function.update owner next (.held h)) (next + 1) shared
      (Function.update holds h (some next)) frees where
  unallocated b := by have := hA.unallocated b; grind
  shared b := by have := hA.shared b; have := hA.unallocated b; grind
  held b h' := by
    have := hA.held b h'
    have := hA.unallocated b
    have := hA.held b h
    grind
  freed b hb := by have := hA.freed b; grind
  not_freed b hb := by have := hA.not_freed b; have := hA.unallocated b; grind

/-- A holder moves its block into the shared structure. -/
theorem share (hA : Accounts owner next shared holds frees) {h : H} {b : ℕ}
    (hb : holds h = some b) :
    Accounts (Function.update owner b .shared) next (insert b shared)
      (Function.update holds h none) frees where
  unallocated b' := by have := hA.unallocated b'; have := hA.held b h; grind
  shared b' := by have := hA.shared b'; grind
  held b' h' := by have := hA.held b' h'; have := hA.held b h; grind
  freed b' hb' := by have := hA.freed b'; grind
  not_freed b' hb' := by have := hA.not_freed b'; have := hA.held b h; grind

/-- A holder frees its block. -/
theorem discard (hA : Accounts owner next shared holds frees) {h : H} {b : ℕ}
    (hb : holds h = some b) :
    Accounts (Function.update owner b .freed) next shared (Function.update holds h none)
      (frees ++ [b]) where
  unallocated b' := by have := hA.unallocated b'; have := hA.held b h; grind
  shared b' := by have := hA.shared b'; have := hA.held b h; grind
  held b' h' := by have := hA.held b' h'; have := hA.held b h; grind
  freed b' hb' := by
    have := hA.freed b'; have := hA.not_freed b'; have := hA.held b h; grind
  not_freed b' hb' := by have := hA.not_freed b'; grind

/-- A block is moved from the shared structure to a holder with no private block. -/
theorem take (hA : Accounts owner next shared holds frees) {h : H} {b : ℕ} (hb : b ∈ shared)
    (hh : holds h = none) :
    Accounts (Function.update owner b (.held h)) next (shared \ {b})
      (Function.update holds h (some b)) frees where
  unallocated b' := by have := hA.unallocated b'; have := hA.shared b; grind
  shared b' := by have := hA.shared b'; have := hA.shared b; grind
  held b' h' := by
    have := hA.held b' h'
    have := hA.held b' h
    have := hA.shared b
    grind
  freed b' hb' := by have := hA.freed b'; grind
  not_freed b' hb' := by have := hA.not_freed b'; have := hA.shared b; grind

omit [DecidableEq H] in
/-- A block is allocated in the shared structure. -/
theorem publish (hA : Accounts owner next shared holds frees) :
    Accounts (Function.update owner next .shared) (next + 1) (insert next shared) holds frees where
  unallocated b := by have := hA.unallocated b; grind
  shared b := by have := hA.shared b; have := hA.unallocated b; grind
  held b h' := by have := hA.held b h'; have := hA.unallocated b; grind
  freed b hb := by have := hA.freed b; grind
  not_freed b hb := by have := hA.not_freed b; have := hA.unallocated b; grind

omit [DecidableEq H] in
/-- No block is freed twice. -/
theorem nodup_frees (hA : Accounts owner next shared holds frees) : frees.Nodup := by
  refine List.nodup_iff_count_le_one.2 fun b => ?_
  have hfreed := hA.freed b
  have hnot := hA.not_freed b
  cases ho : owner b with
  | freed => exact (hfreed ho).le
  | _ =>
    rw [hnot (by simp [ho])]
    exact Nat.zero_le _

omit [DecidableEq H] in
/-- A block is unlinked from the shared structure and freed. -/
theorem withdraw (hA : Accounts owner next shared holds frees) {b : ℕ} (hb : b ∈ shared) :
    Accounts (Function.update owner b .freed) next (shared \ {b}) holds (frees ++ [b]) where
  unallocated b' := by have := hA.unallocated b'; have := hA.shared b; grind
  shared b' := by have := hA.shared b'; grind
  held b' h' := by have := hA.held b' h'; have := hA.shared b; grind
  freed b' hb' := by
    have := hA.freed b'; have := hA.not_freed b'; have := hA.shared b; grind
  not_freed b' hb' := by have := hA.not_freed b'; grind

end Accounts

end Heap

end RansomShield
