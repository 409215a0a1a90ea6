import RansomShield.Buffers.Rewritten

/-!
# The count that is used

The handler compares `EntryCount` with the size of the array once, and the loop reads it again at
each turn, so that a count may be made larger behind the check (`rewritten_count_read`).  The array
is left if and only if every value that the loop reads, up to the test with the first index outside
the array, exceeds its index (`validated_count_iff`).  The characters of an entry are counted by the
driver itself, and stay within the entry whatever is read.
-/

namespace RansomShield

namespace RewrittenRequest

variable {r : RewrittenRequest}

/-! ### One entry -/

theorem mem_scan {i n len : ℕ} {accesses : List (ℕ × ℕ)} {a : ℕ × ℕ}
    (h : a ∈ (r.scan i n len accesses).2) : a ∈ accesses ∨ a.1 = i ∧ a.2 < len + n := by
  induction n generalizing len accesses with
  | zero => exact .inl h
  | succ n ih =>
    have hadded : a ∈ accesses ++ [(i, len)] → a ∈ accesses ∨ a.1 = i ∧ a.2 < len + (n + 1) := by
      intro hmem
      rcases List.mem_append.1 hmem with hmem | hmem
      · exact .inl hmem
      · rw [List.mem_singleton.1 hmem]
        exact .inr ⟨rfl, by simp⟩
    rw [scan] at h
    split_ifs at h with hzero
    · exact hadded h
    · rcases ih h with hmem | ⟨hentry, hlt⟩
      · exact hadded hmem
      · exact .inr ⟨hentry, by omega⟩

theorem mem_scan_of_mem {i n len : ℕ} {accesses : List (ℕ × ℕ)} {a : ℕ × ℕ}
    (h : a ∈ accesses) : a ∈ (r.scan i n len accesses).2 := by
  induction n generalizing len accesses with
  | zero => exact h
  | succ n ih =>
    rw [scan]
    split_ifs
    · exact List.mem_append_left _ h
    · exact ih (List.mem_append_left _ h)

theorem mem_addDynamicAllowlistEntry {i len : ℕ} {p : EntryProgress} {a : ℕ × ℕ}
    (h : a ∈ (r.addDynamicAllowlistEntry i len p).accesses) :
    a ∈ p.accesses ∨ a.1 = i ∧ a.2 < rsMaxAllowlistNameLen - 1 := by
  unfold addDynamicAllowlistEntry at h
  split_ifs at h
  · exact .inl h
  · rcases List.mem_append.1 h with hmem | hmem
    · exact .inl hmem
    · obtain ⟨j, hj, rfl⟩ := List.mem_map.1 hmem
      exact .inr ⟨rfl, (List.mem_range.1 hj).trans_le (Nat.min_le_right _ _)⟩
  · exact .inl h

theorem mem_addDynamicAllowlistEntry_of_mem {i len : ℕ} {p : EntryProgress} {a : ℕ × ℕ}
    (h : a ∈ p.accesses) : a ∈ (r.addDynamicAllowlistEntry i len p).accesses := by
  unfold addDynamicAllowlistEntry
  split_ifs
  · exact h
  · exact List.mem_append_left _ h
  · exact h

/-- **The body of the loop reads characters of one entry**, fewer than there are. -/
theorem mem_addEntry {i : ℕ} {p : EntryProgress} {a : ℕ × ℕ}
    (h : a ∈ (r.addEntry i p).accesses) :
    a ∈ p.accesses ∨ a.1 = i ∧ a.2 < rsMaxAllowlistNameLen := by
  rcases mem_addDynamicAllowlistEntry h with hscan | ⟨hentry, hlt⟩
  · have hmem : a ∈ (r.scan i (rsMaxAllowlistNameLen - 1) 0 p.accesses).2 := hscan
    rcases mem_scan hmem with hmem | ⟨hentry, hlt⟩
    · exact .inl hmem
    · rw [Nat.zero_add] at hlt
      exact .inr ⟨hentry, hlt.trans (by decide)⟩
  · exact .inr ⟨hentry, hlt.trans (by decide)⟩

theorem mem_addEntry_of_mem {i : ℕ} {p : EntryProgress} {a : ℕ × ℕ} (h : a ∈ p.accesses) :
    a ∈ (r.addEntry i p).accesses := by
  refine mem_addDynamicAllowlistEntry_of_mem ?_
  show a ∈ (r.scan i (rsMaxAllowlistNameLen - 1) 0 p.accesses).2
  exact mem_scan_of_mem h

theorem first_mem_addEntry (r : RewrittenRequest) (i : ℕ) (p : EntryProgress) :
    (i, 0) ∈ (r.addEntry i p).accesses := by
  refine mem_addDynamicAllowlistEntry_of_mem ?_
  have hbound : rsMaxAllowlistNameLen - 1 = 258 + 1 := rfl
  show (i, 0) ∈ (r.scan i (rsMaxAllowlistNameLen - 1) 0 p.accesses).2
  rw [hbound, scan]
  have hmem : (i, 0) ∈ p.accesses ++ [(i, 0)] :=
    List.mem_append_right _ (List.mem_singleton_self _)
  split_ifs
  · exact hmem
  · exact mem_scan_of_mem hmem

/-! ### The loop -/

/-- A character within the array, whose entries are fewer than the bound. -/
def InArray (maxEntries : ℕ) (a : ℕ × ℕ) : Prop := a.1 < maxEntries ∧ a.2 < rsMaxAllowlistNameLen

theorem mem_addEntries_of_mem {i : ℕ} {p : EntryProgress} {a : ℕ × ℕ} (h : a ∈ p.accesses) :
    a ∈ (r.addEntries i p).accesses := by
  fun_induction addEntries r i p with
  | case1 i p _ ih => exact ih (mem_addEntry_of_mem h)
  | case2 => exact h

/-- The characters that are read lie within their entries. -/
theorem snd_lt_of_mem_addEntries {i : ℕ} {p : EntryProgress} {a : ℕ × ℕ}
    (hp : ∀ a ∈ p.accesses, a.2 < rsMaxAllowlistNameLen)
    (h : a ∈ (r.addEntries i p).accesses) : a.2 < rsMaxAllowlistNameLen := by
  fun_induction addEntries r i p with
  | case1 i p _ ih =>
    refine ih (fun a ha => ?_) h
    rcases mem_addEntry ha with hmem | ⟨-, hlt⟩
    · exact hp a hmem
    · exact hlt
  | case2 => exact hp a h

/-- **Which entries the loop reads**: it stays within the array if and only if it ends at an index
within it or at the first one outside. -/
theorem forall_mem_addEntries_iff {maxEntries i : ℕ} (hi : i ≤ maxEntries) (p : EntryProgress) :
    (∀ a ∈ (r.addEntries i p).accesses, InArray maxEntries a) ↔
      (∀ a ∈ p.accesses, InArray maxEntries a) ∧
        ∃ k, i ≤ k ∧ k ≤ maxEntries ∧ (r.entryCount (k + 1)).toNat ≤ k := by
  fun_induction addEntries r i p with
  | case1 i p hlt ih =>
    have hgo : ∀ k, (r.entryCount (k + 1)).toNat ≤ k → k ≠ i := by
      rintro k hstop rfl
      exact absurd hlt (not_lt.2 hstop)
    by_cases hend : i = maxEntries
    · -- the next turn reads the first character outside
      subst hend
      refine iff_of_false (fun h => ?_) ?_
      · have hfirst := h _ (mem_addEntries_of_mem (first_mem_addEntry r i p))
        exact absurd hfirst.1 (lt_irrefl i)
      · rintro ⟨-, k, hik, hki, hstop⟩
        exact hgo k hstop (le_antisymm hki hik)
    · have hone : (∀ a ∈ (r.addEntry i p).accesses, InArray maxEntries a) ↔
          ∀ a ∈ p.accesses, InArray maxEntries a := by
        refine ⟨fun h a ha => h a (mem_addEntry_of_mem ha), fun h a ha => ?_⟩
        rcases mem_addEntry ha with hmem | ⟨hentry, hchar⟩
        · exact h a hmem
        · exact ⟨by omega, hchar⟩
      rw [ih (by omega), hone]
      refine and_congr_right fun _ => exists_congr fun k => ?_
      constructor
      · rintro ⟨hik, hrest⟩
        exact ⟨by omega, hrest⟩
      · rintro ⟨hik, hki, hstop⟩
        have := hgo k hstop
        exact ⟨by omega, hki, hstop⟩
  | case2 i p hstop => exact ⟨fun h => ⟨h, i, le_rfl, hi, not_lt.1 hstop⟩, fun h => h.1⟩

/-! ### The two cases -/

variable (r) in
/-- The request is refused before an entry is read. -/
def Refused (inputBufferLength : ℕ) (output : Option ℕ) (size maxEntries : ℕ) : Prop :=
  inputBufferLength < size ∨ (∀ length ∈ output, length < sizeofReplyGeneric) ∨
    maxEntries < (r.entryCount 0).toNat

variable (r) in
/-- One of the values of `EntryCount` that the loop reads, up to the test with the first index
outside the array, does not exceed its index. -/
def Ends (maxEntries : ℕ) : Prop := ∃ k ≤ maxEntries, (r.entryCount (k + 1)).toNat ≤ k

/-- **When a case stays within the array.** -/
theorem forall_mem_allowlistRequest_iff (s : DriverState) (n : ℕ) (output : Option ℕ)
    (size maxEntries : ℕ) :
    (∀ a ∈ (r.allowlistRequest s n output size maxEntries).accesses, InArray maxEntries a) ↔
      r.Refused n output size maxEntries ∨ r.Ends maxEntries := by
  have hrefused : ∀ status length,
      ∀ a ∈ (refused s status length).accesses, InArray maxEntries a :=
    fun _ _ _ ha => absurd ha List.not_mem_nil
  unfold allowlistRequest Refused
  by_cases hsize : n < size
  · rw [if_pos hsize]
    exact iff_of_true (hrefused _ _) (.inl (.inl hsize))
  rw [if_neg hsize]
  cases output with
  | none => exact iff_of_true (hrefused _ _) (.inl (.inr (.inl fun _ h => by cases h)))
  | some length =>
    dsimp only
    split_ifs with hlength hcount
    · refine iff_of_true (hrefused _ _) (.inl (.inr (.inl fun _ h => ?_)))
      cases h
      exact hlength
    · exact iff_of_true (hrefused _ _) (.inl (.inr (.inr hcount)))
    · rw [forall_mem_addEntries_iff (Nat.zero_le _)]
      simp only [Ends, hsize, hcount, Option.mem_def, Option.some.injEq, forall_eq', hlength,
        or_false, false_or, List.not_mem_nil, false_implies, implies_true, true_and, Nat.zero_le]

/-- **No character outside an entry** is read, whatever the reads return. -/
theorem snd_lt_of_mem_allowlistRequest {s : DriverState} {n : ℕ} {output : Option ℕ}
    {size maxEntries : ℕ} {a : ℕ × ℕ}
    (h : a ∈ (r.allowlistRequest s n output size maxEntries).accesses) :
    a.2 < rsMaxAllowlistNameLen := by
  unfold allowlistRequest at h
  by_cases hsize : n < size
  · rw [if_pos hsize] at h
    exact absurd h List.not_mem_nil
  rw [if_neg hsize] at h
  cases output with
  | none => cases h
  | some length =>
    dsimp only at h
    split_ifs at h
    · cases h
    · cases h
    · exact snd_lt_of_mem_addEntries (fun _ ha => absurd ha List.not_mem_nil) h

/-- **When the validated count is the count that is used.**  For every driver state, and whatever
the reads of `EntryCount` and of the entries return: the chunk and the full update read no entry
outside their arrays, and no character outside an entry, if and only if the request is refused
before an entry is read, or the loop reads a count that does not exceed its index before it has gone
through the array. -/
theorem validated_count_iff (r : RewrittenRequest) (s : DriverState) (inputBufferLength : ℕ)
    (output : Option ℕ) :
    ((∀ a ∈ (r.updateAllowlistChunk s inputBufferLength output).accesses,
        a.1 < 32 ∧ a.2 < 260) ↔
      r.Refused inputBufferLength output sizeofRequestUpdateAllowlistChunk rsMaxAllowlistChunk ∨
        r.Ends rsMaxAllowlistChunk) ∧
    ((∀ a ∈ (r.updateAllowlistFull s inputBufferLength output).accesses,
        a.1 < 128 ∧ a.2 < 260) ↔
      r.Refused inputBufferLength output sizeofRequestUpdateAllowlistFull rsMaxAllowlistEntries ∨
        r.Ends rsMaxAllowlistEntries) :=
  ⟨forall_mem_allowlistRequest_iff s inputBufferLength output _ rsMaxAllowlistChunk,
    forall_mem_allowlistRequest_iff s inputBufferLength output _ rsMaxAllowlistEntries⟩

/-! ### A count that grows -/

/-- One entry when it is checked, and 33 of them from then on. -/
def growing : RewrittenRequest where
  entryCount k := if k = 0 then 1 else 33
  entries _ _ _ := 0

/-- **The count is made larger behind the check**: the loop reads the entry behind the last one of
the array. -/
theorem rewritten_count_read :
    (growing.entryCount 0).toNat ≤ rsMaxAllowlistChunk ∧
      ∃ a ∈ (growing.updateAllowlistChunk DriverState.init sizeofRequestUpdateAllowlistChunk
        (some sizeofReplyGeneric)).accesses, ¬ a.1 < 32 := by
  refine ⟨by decide, ?_⟩
  by_contra hnone
  push Not at hnone
  have hin : ∀ a ∈ (growing.updateAllowlistChunk DriverState.init sizeofRequestUpdateAllowlistChunk
      (some sizeofReplyGeneric)).accesses, InArray rsMaxAllowlistChunk a :=
    fun a ha => ⟨hnone a ha, snd_lt_of_mem_allowlistRequest ha⟩
  rcases (forall_mem_allowlistRequest_iff _ _ _ _ _).1 hin with hrefused | ⟨k, hk, hstop⟩
  · rcases hrefused with h | h | h
    · exact absurd h (lt_irrefl _)
    · exact absurd (h _ rfl) (lt_irrefl _)
    · exact absurd h (by decide)
  · have h33 : (growing.entryCount (k + 1)).toNat = 33 := rfl
    have hk' : k ≤ 32 := hk
    omega

end RewrittenRequest

end RansomShield
