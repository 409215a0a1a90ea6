import RansomShield.Table.Chained

/-!
# Tables of pointers

A chained table whose chains link pointers, and a heap that says what the pointers point to.  The
table of the values (`Chained.deref`) is what the operations on pointers are about: a lookup finds
the pointer of the value (`Chained.lookup_deref`), a write through it modifies the value in place
(`Chained.Valid.deref_update`), linking and unlinking a pointer inserts and erases its value
(`Chained.deref_insert`, `Chained.Valid.deref_unlink`).
-/

namespace RansomShield

namespace Chained

variable {α β κ : Type*} [DecidableEq κ] {m : ℕ} {key : α → κ} {hash : κ → Fin m}
  {heap : β → α} {T : Fin m → List β}

/-- The table of the values that a table of pointers stands for. -/
def deref (heap : β → α) (T : Fin m → List β) : Fin m → List α := fun i => (T i).map heap

omit [DecidableEq κ] in
theorem entries_deref (heap : β → α) (T : Fin m → List β) :
    entries (deref heap T) = (entries T).map heap := by
  rw [entries, entries, List.map_flatMap]
  rfl

theorem lookup_deref (k : κ) :
    lookup key hash (deref heap T) k =
      (lookup (fun b => key (heap b)) hash T k).map heap := by
  rw [lookup, deref, List.find?_map]
  rfl

omit [DecidableEq κ] in
theorem deref_insert (key : α → κ) (heap : β → α) (b : β) :
    deref heap (insert (fun b => key (heap b)) hash T b) =
      insert key hash (deref heap T) (heap b) := by
  funext i
  unfold deref insert
  by_cases hi : i = hash (key (heap b))
  · subst hi
    rw [Function.update_self, Function.update_self, List.map_cons]
  · rw [Function.update_of_ne hi, Function.update_of_ne hi]

omit [DecidableEq κ] in
theorem valid_deref (h : Valid (fun b => key (heap b)) hash T) :
    Valid key hash (deref heap T) where
  home i a ha := by
    obtain ⟨b, hb, rfl⟩ := List.mem_map.1 ha
    exact h.home i b hb
  nodup i := by
    rw [Chained.deref, List.map_map]
    exact h.nodup i

variable [DecidableEq β] {b : β} {k : κ}

omit [DecidableEq κ] in
theorem deref_update_of_not_mem (hb : b ∉ entries T) (a : α) :
    deref (Function.update heap b a) T = deref heap T := by
  funext i
  refine List.map_congr_left fun b' hb' => Function.update_of_ne (fun h => hb ?_) a heap
  exact mem_entries.2 ⟨i, h ▸ hb'⟩

theorem map_update_eq_modifyFirst {l : List β} (hl : (l.map fun b => key (heap b)).Nodup)
    (hb : b ∈ l) (hk : key (heap b) = k) (a : α) :
    l.map (Function.update heap b a) =
      modifyFirst (fun a => key a = k) (fun _ => a) (l.map heap) := by
  induction l with
  | nil => cases hb
  | cons b' l ih =>
    rw [List.map_cons, List.nodup_cons] at hl
    rw [List.map_cons, List.map_cons, modifyFirst]
    by_cases hbb : b = b'
    · subst hbb
      rw [if_pos (by simpa using hk), Function.update_self]
      congr 1
      refine List.map_congr_left fun b' hb' => Function.update_of_ne (fun h => hl.1 ?_) a heap
      exact List.mem_map.2 ⟨b', hb', by rw [h]⟩
    · have hmem : b ∈ l := (List.mem_cons.1 hb).resolve_left hbb
      have hne : key (heap b') ≠ k := fun h =>
        hl.1 (List.mem_map.2 ⟨b, hmem, hk.trans h.symm⟩)
      rw [if_neg (by simpa using hne), Function.update_of_ne (Ne.symm hbb), ih hl.2 hmem]

/-- **A write through the pointer that a lookup found** modifies the value in place. -/
theorem Valid.deref_update (key : α → κ) (heap : β → α)
    (hT : Valid (fun b => key (heap b)) hash T)
    (hb : lookup (fun b => key (heap b)) hash T k = some b) (a : α) :
    deref (Function.update heap b a) T = Chained.modify key hash (deref heap T) k fun _ => a := by
  have hmem := mem_of_lookup hb
  have hk := key_of_lookup hb
  funext i
  unfold deref Chained.modify
  by_cases hi : i = hash k
  · subst hi
    rw [Function.update_self]
    exact map_update_eq_modifyFirst (hT.nodup _) hmem hk a
  · rw [Function.update_of_ne hi]
    refine List.map_congr_left fun b' hb' => Function.update_of_ne (fun h => hi ?_) a heap
    rw [← hT.home i b' hb', ← hT.home (hash k) b hmem, h]

theorem map_erase_eq_eraseP {l : List β} (hl : (l.map fun b => key (heap b)).Nodup)
    (hb : b ∈ l) (hk : key (heap b) = k) :
    (l.erase b).map heap = (l.map heap).eraseP fun a => key a = k := by
  induction l with
  | nil => cases hb
  | cons b' l ih =>
    rw [List.map_cons, List.nodup_cons] at hl
    by_cases hbb : b = b'
    · subst hbb
      rw [List.erase_cons_head, List.map_cons, List.eraseP_cons_of_pos (by simpa using hk)]
    · have hmem : b ∈ l := (List.mem_cons.1 hb).resolve_left hbb
      have hne : key (heap b') ≠ k := fun h =>
        hl.1 (List.mem_map.2 ⟨b, hmem, hk.trans h.symm⟩)
      rw [List.erase_cons_tail (by simpa using Ne.symm hbb), List.map_cons, List.map_cons,
        List.eraseP_cons_of_neg (by simpa using hne), ih hl.2 hmem]

/-- **Unlinking the pointer that a lookup found** erases its value. -/
theorem Valid.deref_unlink (key : α → κ) (heap : β → α)
    (hT : Valid (fun b => key (heap b)) hash T)
    (hb : lookup (fun b => key (heap b)) hash T k = some b) :
    deref heap (Chained.unlink T b) = Chained.erase key hash (deref heap T) k := by
  have hmem := mem_of_lookup hb
  have hk := key_of_lookup hb
  rw [hT.unlink_eq_update hmem]
  funext i
  unfold deref Chained.erase
  by_cases hi : i = hash k
  · subst hi
    rw [Function.update_self, Function.update_self]
    exact map_erase_eq_eraseP (hT.nodup _) hmem hk
  · rw [Function.update_of_ne hi, Function.update_of_ne hi]

end Chained

end RansomShield
