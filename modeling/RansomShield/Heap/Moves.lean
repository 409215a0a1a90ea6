import Mathlib.Data.List.Count
import Mathlib.Data.List.Induction

/-!
# Acquiring and releasing

A program acquires resources and releases them.  It is sound if it releases only what it holds and
acquires only what it does not hold, and `Heap.held` is what a sound program holds.  Then the
resources that it holds are the balance of what it has done (`Heap.count_of_held`), and none is
released twice.
-/

namespace RansomShield

namespace Heap

/-- What a program does to a resource. -/
inductive Move (R : Type*)
  | acquire (r : R)
  | release (r : R)
  deriving DecidableEq

variable {R : Type*} [DecidableEq R]

/-- What is held after a move. -/
def Move.apply (rs : List R) : Move R → Option (List R)
  | .acquire r => if r ∈ rs then none else some (r :: rs)
  | .release r => if r ∈ rs then some (rs.erase r) else none

/-- What is held after some moves, the last acquired first. -/
def held (moves : List (Move R)) : Option (List R) := moves.foldlM Move.apply []

variable {rs : List R} {moves : List (Move R)} {r : R}

theorem held_concat (moves : List (Move R)) (m : Move R) :
    held (moves ++ [m]) = (held moves).bind fun rs => m.apply rs := by
  rw [held, List.foldlM_append]
  refine congrArg (Option.bind (held moves)) (funext fun rs => ?_)
  exact Option.bind_fun_some (m.apply rs)

theorem held_acquire (h : held moves = some rs) (hr : r ∉ rs) :
    held (moves ++ [.acquire r]) = some (r :: rs) := by
  rw [held_concat, h]
  exact if_neg hr

theorem held_release (h : held moves = some rs) (hr : r ∈ rs) :
    held (moves ++ [.release r]) = some (rs.erase r) := by
  rw [held_concat, h]
  exact if_pos hr

/-- **The balance of a resource.** -/
theorem count_of_held (h : held moves = some rs) (r : R) :
    moves.count (.acquire r) = moves.count (.release r) + rs.count r := by
  induction moves using List.reverseRecOn generalizing rs with
  | nil =>
    cases h
    rfl
  | append_singleton moves m ih =>
    rw [held_concat] at h
    obtain ⟨rs', hrs', happly⟩ := Option.bind_eq_some_iff.1 h
    have hbalance := ih hrs'
    rw [List.count_append, List.count_append]
    cases m with
    | acquire q =>
      simp only [Move.apply, Option.ite_none_left_eq_some, Option.some.injEq] at happly
      obtain ⟨-, rfl⟩ := happly
      by_cases hq : q = r
      · subst hq
        simp
        omega
      · simp [hq]
        omega
    | release q =>
      simp only [Move.apply, Option.ite_none_right_eq_some, Option.some.injEq] at happly
      obtain ⟨hmem, rfl⟩ := happly
      by_cases hq : q = r
      · subst hq
        have hpos : 0 < rs'.count q := List.count_pos_iff.2 hmem
        simp [List.count_erase_self]
        omega
      · have hne : r ≠ q := Ne.symm hq
        simp [hq, List.count_erase_of_ne hne]
        omega

end Heap

end RansomShield
