import Mathlib.Data.List.Forall2
import RansomShield.Table.Chained

/-!
# Related tables

Two tables with the same chains, up to a relation between their elements (`Chained.Related`): the
chains have the same lengths, and the elements at the same places are related.  Operations that
treat related elements alike keep two tables related, and lookups find related elements.
-/

namespace RansomShield

namespace Chained

variable {α β κ : Type*} [DecidableEq κ] {m : ℕ} {key : α → κ} {key' : β → κ} {hash : κ → Fin m}

/-- The elements at the same places are related. -/
def Related (R : α → β → Prop) (T : Fin m → List α) (T' : Fin m → List β) : Prop :=
  ∀ i, List.Forall₂ R (T i) (T' i)

variable {R : α → β → Prop} {T : Fin m → List α} {T' : Fin m → List β}

theorem related_empty : Related R (fun _ : Fin m => []) fun _ => [] := fun _ => .nil

theorem Related.update (h : Related R T T') (i : Fin m) {l : List α} {l' : List β}
    (hl : List.Forall₂ R l l') : Related R (Function.update T i l) (Function.update T' i l') := by
  intro j
  by_cases hj : j = i
  · subst hj
    simpa using hl
  · rw [Function.update_of_ne hj, Function.update_of_ne hj]
    exact h j

theorem forall₂_find? {p : α → Bool} {q : β → Bool} (hpq : ∀ a b, R a b → p a = q b) {l : List α}
    {l' : List β} (h : List.Forall₂ R l l') : Option.Rel R (l.find? p) (l'.find? q) := by
  induction h with
  | nil => exact .none
  | @cons a b l l' hab _ ih =>
    rw [List.find?_cons, List.find?_cons, ← hpq a b hab]
    cases p a with
    | true => exact .some hab
    | false => exact ih

theorem forall₂_modifyFirst {p : α → Bool} {q : β → Bool} {f : α → α} {g : β → β}
    (hpq : ∀ a b, R a b → p a = q b) (hfg : ∀ a b, R a b → R (f a) (g b)) {l : List α} {l' : List β}
    (h : List.Forall₂ R l l') : List.Forall₂ R (modifyFirst p f l) (modifyFirst q g l') := by
  induction h with
  | nil => exact .nil
  | @cons a b l l' hab hrest ih =>
    rw [modifyFirst, modifyFirst, ← hpq a b hab]
    split_ifs
    · exact .cons (hfg a b hab) hrest
    · exact .cons hab ih

theorem forall₂_eraseP {p : α → Bool} {q : β → Bool} (hpq : ∀ a b, R a b → p a = q b) {l : List α}
    {l' : List β} (h : List.Forall₂ R l l') : List.Forall₂ R (l.eraseP p) (l'.eraseP q) := by
  induction h with
  | nil => exact .nil
  | @cons a b l l' hab hrest ih =>
    rw [List.eraseP_cons, List.eraseP_cons, ← hpq a b hab]
    cases p a with
    | true => exact hrest
    | false => exact .cons hab ih

variable (hkey : ∀ a b, R a b → key a = key' b)
include hkey

theorem decide_key_eq (k : κ) (a : α) (b : β) (hab : R a b) :
    decide (key a = k) = decide (key' b = k) := by
  rw [hkey a b hab]

/-- **Lookups find related elements**, or none. -/
theorem Related.lookup (h : Related R T T') (k : κ) :
    (lookup key hash T k = none ∧ lookup key' hash T' k = none) ∨
      ∃ a b, lookup key hash T k = some a ∧ lookup key' hash T' k = some b ∧ R a b := by
  have hrel := forall₂_find? (decide_key_eq hkey k) (h (hash k))
  unfold Chained.lookup
  revert hrel
  generalize (T (hash k)).find? _ = x
  generalize (T' (hash k)).find? _ = y
  rintro (hab | -)
  · exact .inr ⟨_, _, rfl, rfl, hab⟩
  · exact .inl ⟨rfl, rfl⟩

omit [DecidableEq κ] in
theorem Related.insert (h : Related R T T') {a : α} {b : β} (hab : R a b) :
    Related R (insert key hash T a) (insert key' hash T' b) := by
  unfold Chained.insert
  rw [← hkey a b hab]
  exact h.update _ (.cons hab (h _))

theorem Related.modify (h : Related R T T') (k : κ) {f : α → α} {g : β → β}
    (hfg : ∀ a b, R a b → R (f a) (g b)) :
    Related R (modify key hash T k f) (modify key' hash T' k g) :=
  h.update _ (forall₂_modifyFirst (decide_key_eq hkey k) hfg (h _))

theorem Related.erase (h : Related R T T') (k : κ) :
    Related R (erase key hash T k) (erase key' hash T' k) :=
  h.update _ (forall₂_eraseP (decide_key_eq hkey k) (h _))

omit hkey

/-- **The elements of related tables** are related one by one. -/
theorem Related.entries (h : Related R T T') : List.Forall₂ R (entries T) (entries T') := by
  unfold Chained.entries
  induction List.finRange m with
  | nil => exact .nil
  | cons i is ih =>
    rw [List.flatMap_cons, List.flatMap_cons]
    exact List.rel_append (h i) ih

end Chained

end RansomShield
