import Mathlib.Algebra.BigOperators.Fin
import Mathlib.Algebra.Order.BigOperators.Group.Finset
import Mathlib.Data.Fintype.Card
import Mathlib.Data.List.FinRange
import Mathlib.Data.List.Nodup
import Mathlib.Logic.Function.Basic

/-!
# Hash tables with separate chaining

A table of `m` chains over elements `α` with keys `κ`: the element with key `k`, if there is one,
is in the chain `hash k`, and no key occurs twice (`Chained.Valid`).  Lookups walk one chain;
insertion is at the head of a chain.  An element is modified in place and unlinked from its chain.
The operations keep a valid table valid.

The table is a finite map (`Chained.lookup_insert`, `Chained.lookup_modify`,
`Chained.lookup_erase`); in particular an operation on one key does not affect another one, in
whichever chains they are.  `Chained.entries` are all the elements, chain by chain.
-/

namespace RansomShield

namespace Chained

variable {α κ : Type*} [DecidableEq κ] {m : ℕ} (key : α → κ) (hash : κ → Fin m)

/-- Walk the chain of `k` to the first element with that key. -/
def lookup (T : Fin m → List α) (k : κ) : Option α := (T (hash k)).find? fun a => key a = k

/-- Link an element at the head of the chain of its key. -/
def insert (T : Fin m → List α) (a : α) : Fin m → List α :=
  Function.update T (hash (key a)) (a :: T (hash (key a)))

/-- Modify the first element of a list that satisfies `p`. -/
def modifyFirst (p : α → Bool) (f : α → α) : List α → List α
  | [] => []
  | a :: l => if p a then f a :: l else a :: modifyFirst p f l

/-- Modify the element with key `k` in place. -/
def modify (T : Fin m → List α) (k : κ) (f : α → α) : Fin m → List α :=
  Function.update T (hash k) (modifyFirst (fun a => key a = k) f (T (hash k)))

/-- Unlink the element with key `k` from its chain. -/
def erase (T : Fin m → List α) (k : κ) : Fin m → List α :=
  Function.update T (hash k) ((T (hash k)).eraseP fun a => key a = k)

/-- All the elements of the table, chain by chain. -/
def entries (T : Fin m → List α) : List α := (List.finRange m).flatMap T

/-- Every element is in the chain of its key, and no key occurs twice. -/
structure Valid (T : Fin m → List α) : Prop where
  home : ∀ i, ∀ a ∈ T i, hash (key a) = i
  nodup : ∀ i, ((T i).map key).Nodup

variable {key hash} {T : Fin m → List α}

theorem key_of_lookup {k : κ} {a : α} (h : lookup key hash T k = some a) : key a = k := by
  simpa using List.find?_some h

theorem mem_of_lookup {k : κ} {a : α} (h : lookup key hash T k = some a) : a ∈ T (hash k) :=
  List.mem_of_find?_eq_some h

theorem mem_entries {a : α} : a ∈ entries T ↔ ∃ i, a ∈ T i := by simp [entries]

@[simp] theorem entries_empty : entries (fun _ : Fin m => ([] : List α)) = [] := by simp [entries]

theorem mem_entries_of_lookup {k : κ} {a : α} (h : lookup key hash T k = some a) :
    a ∈ entries T :=
  mem_entries.2 ⟨_, mem_of_lookup h⟩

theorem lookup_eq_none {k : κ} :
    lookup key hash T k = none ↔ ∀ a ∈ T (hash k), key a ≠ k := by
  simp [lookup]

/-! ### Lookups after an operation -/

theorem lookup_insert (a : α) (k : κ) :
    lookup key hash (insert key hash T a) k =
      if key a = k then some a else lookup key hash T k := by
  unfold lookup insert
  split_ifs with h
  · rw [← h, Function.update_self, List.find?_cons_of_pos (by simp)]
  · by_cases hk : hash k = hash (key a)
    · rw [hk, Function.update_self, List.find?_cons_of_neg (by simpa using h)]
    · rw [Function.update_of_ne hk]

theorem find?_modifyFirst_self {k : κ} {f : α → α} (hf : ∀ a, key a = k → key (f a) = k)
    (l : List α) : (modifyFirst (fun a => key a = k) f l).find? (fun a => key a = k) =
      (l.find? fun a => key a = k).map f := by
  induction l with
  | nil => rfl
  | cons a l ih =>
    simp only [modifyFirst, decide_eq_true_eq]
    split_ifs with ha
    · rw [List.find?_cons_of_pos (by simpa using hf a ha),
        List.find?_cons_of_pos (by simpa using ha)]
      rfl
    · rw [List.find?_cons_of_neg (by simpa using ha), List.find?_cons_of_neg (by simpa using ha),
        ih]

theorem find?_modifyFirst_of_ne {k k' : κ} (hk : k' ≠ k) {f : α → α}
    (hf : ∀ a, key a = k → key (f a) = k) (l : List α) :
    (modifyFirst (fun a => key a = k) f l).find? (fun a => key a = k') =
      l.find? fun a => key a = k' := by
  induction l with
  | nil => rfl
  | cons a l ih =>
    simp only [modifyFirst, decide_eq_true_eq]
    split_ifs with ha
    · have hne : key (f a) ≠ k' := (hf a ha).trans_ne hk.symm
      rw [List.find?_cons_of_neg (by simpa using hne),
        List.find?_cons_of_neg (by simpa using ha.trans_ne hk.symm)]
    · rw [List.find?_cons, List.find?_cons, ih]

theorem lookup_modify {k : κ} {f : α → α} (hf : ∀ a, key a = k → key (f a) = k) (k' : κ) :
    lookup key hash (modify key hash T k f) k' =
      if k' = k then (lookup key hash T k).map f else lookup key hash T k' := by
  unfold lookup modify
  split_ifs with h
  · rw [h, Function.update_self, find?_modifyFirst_self hf]
  · by_cases hh : hash k' = hash k
    · rw [hh, Function.update_self, find?_modifyFirst_of_ne h hf]
    · rw [Function.update_of_ne hh]

theorem find?_eraseP_of_ne {k k' : κ} (hk : k' ≠ k) (l : List α) :
    (l.eraseP fun a => key a = k).find? (fun a => key a = k') = l.find? fun a => key a = k' := by
  induction l with
  | nil => rfl
  | cons a l ih =>
    by_cases ha : key a = k
    · rw [List.eraseP_cons_of_pos (by simpa using ha),
        List.find?_cons_of_neg (by simpa using ha.trans_ne hk.symm)]
    · rw [List.eraseP_cons_of_neg (by simpa using ha), List.find?_cons, List.find?_cons, ih]

theorem find?_eraseP_self {l : List α} (hl : (l.map key).Nodup) (k : κ) :
    (l.eraseP fun a => key a = k).find? (fun a => key a = k) = none := by
  induction l with
  | nil => rfl
  | cons a l ih =>
    rw [List.map_cons, List.nodup_cons] at hl
    by_cases ha : key a = k
    · rw [List.eraseP_cons_of_pos (by simpa using ha)]
      refine List.find?_eq_none.2 fun b hb => ?_
      simp only [decide_eq_true_eq]
      exact fun hbk => hl.1 (List.mem_map.2 ⟨b, hb, hbk.trans ha.symm⟩)
    · rw [List.eraseP_cons_of_neg (by simpa using ha), List.find?_cons_of_neg (by simpa using ha),
        ih hl.2]

theorem lookup_erase (hT : Valid key hash T) (k k' : κ) :
    lookup key hash (erase key hash T k) k' =
      if k' = k then none else lookup key hash T k' := by
  unfold lookup erase
  split_ifs with h
  · rw [h, Function.update_self, find?_eraseP_self (hT.nodup _)]
  · by_cases hh : hash k' = hash k
    · rw [hh, Function.update_self, find?_eraseP_of_ne h]
    · rw [Function.update_of_ne hh]

/-! ### Valid tables -/

omit [DecidableEq κ] in
theorem valid_empty : Valid key hash (fun _ => ([] : List α)) :=
  ⟨by simp, by simp⟩

omit [DecidableEq κ] in
/-- A valid table stays valid when a chain is replaced by a chain of elements that belong there
and have distinct keys. -/
theorem Valid.update (hT : Valid key hash T) {i : Fin m} {l : List α}
    (hhome : ∀ a ∈ l, hash (key a) = i) (hl : (l.map key).Nodup) :
    Valid key hash (Function.update T i l) where
  home j a ha := by
    by_cases hj : j = i
    · subst hj; rw [Function.update_self] at ha; exact hhome a ha
    · rw [Function.update_of_ne hj] at ha; exact hT.home j a ha
  nodup j := by
    by_cases hj : j = i
    · subst hj; rwa [Function.update_self]
    · rw [Function.update_of_ne hj]; exact hT.nodup j

theorem Valid.insert (hT : Valid key hash T) {a : α} (ha : lookup key hash T (key a) = none) :
    Valid key hash (insert key hash T a) := by
  refine hT.update ?_ ?_
  · intro b hb
    rcases List.mem_cons.1 hb with rfl | hb
    · rfl
    · exact hT.home _ b hb
  · rw [List.map_cons, List.nodup_cons]
    refine ⟨?_, hT.nodup _⟩
    intro hmem
    obtain ⟨b, hb, hkey⟩ := List.mem_map.1 hmem
    exact lookup_eq_none.1 ha b hb hkey

theorem map_key_modifyFirst {k : κ} {f : α → α} (hf : ∀ a, key a = k → key (f a) = k)
    (l : List α) : (modifyFirst (fun a => key a = k) f l).map key = l.map key := by
  induction l with
  | nil => rfl
  | cons a l ih =>
    simp only [modifyFirst, decide_eq_true_eq]
    split_ifs with ha
    · rw [List.map_cons, List.map_cons, hf a ha, ha]
    · rw [List.map_cons, List.map_cons, ih]

theorem Valid.modify (hT : Valid key hash T) {k : κ} {f : α → α}
    (hf : ∀ a, key a = k → key (f a) = k) : Valid key hash (modify key hash T k f) := by
  have hkeys := map_key_modifyFirst hf (T (hash k))
  refine hT.update ?_ (hkeys.symm ▸ hT.nodup _)
  intro b hb
  have hmem : key b ∈ (T (hash k)).map key := hkeys ▸ List.mem_map_of_mem hb
  obtain ⟨a, ha, hab⟩ := List.mem_map.1 hmem
  rw [← hab]
  exact hT.home _ a ha

theorem Valid.erase (hT : Valid key hash T) (k : κ) : Valid key hash (erase key hash T k) :=
  hT.update (fun a ha => hT.home _ a (List.mem_of_mem_eraseP ha))
    ((hT.nodup _).sublist (List.eraseP_sublist.map key))

omit [DecidableEq κ] in
/-- Keys may be read elsewhere, if they are the same. -/
theorem Valid.congr {key' : α → κ} (hT : Valid key hash T)
    (h : ∀ a ∈ entries T, key' a = key a) : Valid key' hash T where
  home i a ha := (congrArg hash (h a (mem_entries.2 ⟨i, ha⟩))).trans (hT.home i a ha)
  nodup i := by
    have hmap : (T i).map key' = (T i).map key :=
      List.map_congr_left fun a ha => h a (mem_entries.2 ⟨i, ha⟩)
    rw [hmap]
    exact hT.nodup i

omit [DecidableEq κ] in
/-- Elements may be unlinked. -/
theorem Valid.sublist {T' : Fin m → List α} (hT : Valid key hash T)
    (h : ∀ i, (T' i).Sublist (T i)) : Valid key hash T' where
  home i a ha := hT.home i a ((h i).subset ha)
  nodup i := (hT.nodup i).sublist ((h i).map key)

omit [DecidableEq κ] in
theorem Valid.not_mem_of_ne (hT : Valid key hash T) {a : α} {i : Fin m} (hi : hash (key a) ≠ i) :
    a ∉ T i :=
  fun ha => hi (hT.home i a ha)

omit [DecidableEq κ] in
theorem Valid.nodup_chain (hT : Valid key hash T) (i : Fin m) : (T i).Nodup :=
  (hT.nodup i).of_map key

omit [DecidableEq κ] in
/-- **No key occurs twice in a valid table.** -/
theorem Valid.nodup_keys (hT : Valid key hash T) : ((entries T).map key).Nodup := by
  rw [entries, List.map_flatMap]
  refine List.nodup_flatMap.2 ⟨fun i _ => hT.nodup i, ?_⟩
  refine (List.nodup_finRange m).imp_of_mem ?_
  intro i j _ _ hij k hki hkj
  obtain ⟨a, ha, rfl⟩ := List.mem_map.1 hki
  obtain ⟨b, hb, hba⟩ := List.mem_map.1 hkj
  exact hij ((hT.home i a ha).symm.trans (hba ▸ hT.home j b hb))

theorem Valid.lookup_of_mem (hT : Valid key hash T) {a : α} (ha : a ∈ entries T) :
    lookup key hash T (key a) = some a := by
  obtain ⟨i, hi⟩ := mem_entries.1 ha
  obtain rfl := hT.home i a hi
  obtain ⟨b, hb⟩ : ∃ b, lookup key hash T (key a) = some b := by
    by_contra hnone
    rw [← Option.ne_none_iff_exists', not_not, lookup_eq_none] at hnone
    exact hnone a hi rfl
  rw [hb, List.inj_on_of_nodup_map (hT.nodup _) (mem_of_lookup hb) hi (key_of_lookup hb)]

omit [DecidableEq κ] in
theorem mem_entries_insert {a b : α} :
    b ∈ entries (insert key hash T a) ↔ b = a ∨ b ∈ entries T := by
  simp only [mem_entries, insert]
  constructor
  · rintro ⟨i, hi⟩
    by_cases hh : i = hash (key a)
    · subst hh
      rw [Function.update_self, List.mem_cons] at hi
      exact hi.imp id fun hb => ⟨_, hb⟩
    · rw [Function.update_of_ne hh] at hi
      exact .inr ⟨i, hi⟩
  · rintro (rfl | ⟨i, hi⟩)
    · exact ⟨hash (key b), by rw [Function.update_self]; exact List.mem_cons_self⟩
    · by_cases hh : i = hash (key a)
      · subst hh
        exact ⟨_, by rw [Function.update_self]; exact List.mem_cons_of_mem a hi⟩
      · exact ⟨i, by rwa [Function.update_of_ne hh]⟩

/-! ### The number of elements -/

omit [DecidableEq κ] in
theorem length_entries (T : Fin m → List α) : (entries T).length = ∑ i, (T i).length := by
  rw [entries, List.length_flatMap, ← List.ofFn_eq_map, List.sum_ofFn]

theorem length_entries_update (T : Fin m → List α) (i : Fin m) (l : List α) :
    (entries (Function.update T i l)).length + (T i).length = (entries T).length + l.length := by
  have hrest : ∑ j ∈ Finset.univ.erase i, (Function.update T i l j).length =
      ∑ j ∈ Finset.univ.erase i, (T j).length :=
    Finset.sum_congr rfl fun j hj => by rw [Function.update_of_ne (Finset.ne_of_mem_erase hj)]
  have hnew := Finset.add_sum_erase _ (fun j => (Function.update T i l j).length)
    (Finset.mem_univ i)
  have hold := Finset.add_sum_erase _ (fun j => (T j).length) (Finset.mem_univ i)
  simp only [Function.update_self] at hnew
  rw [length_entries, length_entries]
  omega

omit [DecidableEq κ] in
theorem length_entries_insert (T : Fin m → List α) (a : α) :
    (entries (insert key hash T a)).length = (entries T).length + 1 := by
  have := length_entries_update T (hash (key a)) (a :: T (hash (key a)))
  rw [List.length_cons] at this
  unfold insert
  omega

/-! ### Unlinking an element that is at hand -/

section Unlink

variable [DecidableEq α]

/-- Unlink an element from the chain it is in. -/
def unlink (T : Fin m → List α) (a : α) : Fin m → List α := fun i => (T i).erase a

variable {a : α}

omit [DecidableEq κ] in
theorem Valid.unlink (hT : Valid key hash T) (a : α) : Valid key hash (unlink T a) :=
  hT.sublist fun _ => List.erase_sublist

omit [DecidableEq κ] in
theorem Valid.mem_entries_unlink (hT : Valid key hash T) {b : α} :
    b ∈ entries (Chained.unlink T a) ↔ b ∈ entries T ∧ b ≠ a := by
  simp only [mem_entries, Chained.unlink, (hT.nodup_chain _).mem_erase_iff]
  exact ⟨fun ⟨i, hne, hi⟩ => ⟨⟨i, hi⟩, hne⟩, fun ⟨⟨i, hi⟩, hne⟩ => ⟨i, hne, hi⟩⟩

omit [DecidableEq κ] in
theorem Valid.unlink_eq_update (hT : Valid key hash T) {i : Fin m} (ha : a ∈ T i) :
    Chained.unlink T a = Function.update T i ((T i).erase a) := by
  funext j
  by_cases hj : j = i
  · subst hj
    rw [Function.update_self, Chained.unlink]
  · rw [Function.update_of_ne hj, Chained.unlink]
    exact List.erase_of_not_mem (hT.not_mem_of_ne (hT.home i a ha ▸ Ne.symm hj))

omit [DecidableEq κ] in
theorem Valid.length_entries_unlink (hT : Valid key hash T) (ha : a ∈ entries T) :
    (entries (Chained.unlink T a)).length + 1 = (entries T).length := by
  obtain ⟨i, hi⟩ := mem_entries.1 ha
  have hlen := List.length_erase_of_mem hi
  have hpos := List.length_pos_of_mem hi
  have := length_entries_update T i ((T i).erase a)
  rw [hT.unlink_eq_update hi]
  omega

end Unlink

end Chained

end RansomShield
