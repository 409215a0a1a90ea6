import RansomShield.Driver.Context

/-!
# The allowlist

What `RsIsProcessAllowlisted` decides (`rsIsProcessAllowlisted_iff`): the part of the image path
behind the last backslash, `lastComponent`, equals an entry of one of the two allowlists, up to
case.  Adding entries keeps the matches (`Allowlisted.of_subset`).
-/

namespace RansomShield

/-- The part of a path behind the last backslash. -/
def lastComponent (chars : List UInt16) : List UInt16 :=
  (chars.reverse.takeWhile (· ≠ backslash)).reverse

theorem drop_lastComponentStart (chars : List UInt16) :
    chars.drop (lastComponentStart chars) = lastComponent chars := by
  induction chars using List.reverseRecOn with
  | nil => rfl
  | append_singleton l c ih =>
    have hstart : lastComponentStart (l ++ [c]) =
        if c = backslash then l.length + 1 else lastComponentStart l := by
      rw [lastComponentStart, List.zipIdx_append, List.foldl_append]
      simp only [Nat.zero_add, List.zipIdx_singleton, List.foldl_cons, List.foldl_nil]
      rfl
    rw [hstart, lastComponent, List.reverse_append, List.reverse_singleton,
      List.singleton_append]
    split_ifs with hc
    · rw [List.takeWhile_cons_of_neg (by simpa using hc), List.reverse_nil,
        List.drop_eq_nil_of_le (by rw [List.length_append, List.length_singleton])]
    · rw [List.takeWhile_cons_of_pos (by simpa using hc), List.reverse_cons,
        List.drop_append_of_le_length (lastComponentStart_le l), ih]
      rfl

/-- The names of the dynamic allowlist. -/
def dynamicNames (s : DriverState) : List (List UInt16) :=
  ((List.finRange rsMaxAllowlistEntries).filter
    fun i => i.val < s.dynamicAllowlistCount.1.toNat).map fun i => wcs (s.dynamicAllowlist i)

/-- The names of both allowlists. -/
def allowlistEntries (s : DriverState) : List (List UInt16) := allowListNames ++ dynamicNames s

/-- The image file name matches an entry of an allowlist. -/
def Allowlisted (upcase : UInt16 → UInt16) (s : DriverState) (processImageName : UnicodeString) :
    Prop :=
  processImageName.chars ≠ [] ∧
    ∃ entry ∈ allowlistEntries s, (lastComponent processImageName.chars).map upcase =
      entry.map upcase

/-! ### The code decides it -/

variable {upcase : UInt16 → UInt16} {s : DriverState} {name : UnicodeString}

/-- No entry is cut off by `RtlInitUnicodeString`. -/
theorem length_le_of_mem_entries {entry : List UInt16} (h : entry ∈ allowlistEntries s) :
    entry.length ≤ rsMaxAllowlistNameLen := by
  rcases List.mem_append.1 h with h | h
  · have hall : ∀ entry ∈ allowListNames, entry.length ≤ rsMaxAllowlistNameLen := by
      decide +kernel
    exact hall entry h
  · obtain ⟨i, -, rfl⟩ := List.mem_map.1 h
    rw [wcs]
    refine (List.takeWhile_sublist _).length_le.trans ?_
    rw [List.length_ofFn]

theorem rtlEqualUnicodeString_iff {a : UnicodeString} {chars entry : List UInt16}
    (ha : a.buffer = some chars) (hentry : entry.length ≤ 32766) :
    rtlEqualUnicodeString upcase a (rtlInitUnicodeString entry) = true ↔
      chars.map upcase = entry.map upcase := by
  have hb : (rtlInitUnicodeString entry).buffer = some entry :=
    congrArg some (List.take_of_length_le hentry)
  have hlena := a.length_eq chars ha
  have hlenb := (rtlInitUnicodeString entry).length_eq entry hb
  rw [rtlEqualUnicodeString, UnicodeString.chars, UnicodeString.chars, ha, hb,
    Bool.and_eq_true, beq_iff_eq, beq_iff_eq]
  refine ⟨fun h => h.2, fun h => ⟨?_, h⟩⟩
  have hlen : chars.length = entry.length := by
    rw [← List.length_map upcase, h, List.length_map]
  exact UInt16.toNat_inj.1 (by omega)

theorem mem_dynamicNames {entry : List UInt16} :
    entry ∈ dynamicNames s ↔ ∃ i : Fin rsMaxAllowlistEntries,
      i.val < s.dynamicAllowlistCount.1.toNat ∧ wcs (s.dynamicAllowlist i) = entry := by
  simp only [dynamicNames, List.mem_map, List.mem_filter, List.mem_finRange, true_and,
    decide_eq_true_eq]

theorem any_entries_iff {fileName : UnicodeString} {chars : List UInt16}
    (hchars : fileName.buffer = some chars) :
    ((allowListNames.any fun name =>
        rtlEqualUnicodeString upcase fileName (rtlInitUnicodeString name)) ||
      (List.finRange rsMaxAllowlistEntries).any fun i =>
        decide (i.val < s.dynamicAllowlistCount.1.toNat) &&
          rtlEqualUnicodeString upcase fileName
            (rtlInitUnicodeString (wcs (s.dynamicAllowlist i)))) = true ↔
      ∃ entry ∈ allowlistEntries s, chars.map upcase = entry.map upcase := by
  have hequal : ∀ entry ∈ allowlistEntries s,
      (rtlEqualUnicodeString upcase fileName (rtlInitUnicodeString entry) = true ↔
        chars.map upcase = entry.map upcase) := fun entry hentry =>
    rtlEqualUnicodeString_iff hchars ((length_le_of_mem_entries hentry).trans (by decide))
  rw [Bool.or_eq_true, List.any_eq_true, List.any_eq_true]
  constructor
  · rintro (⟨entry, hmem, h⟩ | ⟨i, -, h⟩)
    · have hentry := List.mem_append_left (dynamicNames s) hmem
      exact ⟨entry, hentry, (hequal entry hentry).1 h⟩
    · rw [Bool.and_eq_true, decide_eq_true_eq] at h
      have hentry := List.mem_append_right allowListNames (mem_dynamicNames.2 ⟨i, h.1, rfl⟩)
      exact ⟨_, hentry, (hequal _ hentry).1 h.2⟩
  · rintro ⟨entry, hentry, h⟩
    have hcode := (hequal entry hentry).2 h
    rcases List.mem_append.1 hentry with hmem | hmem
    · exact .inl ⟨entry, hmem, hcode⟩
    · obtain ⟨i, hi, rfl⟩ := mem_dynamicNames.1 hmem
      exact .inr ⟨i, List.mem_finRange i, Bool.and_eq_true_iff.2 ⟨decide_eq_true hi, hcode⟩⟩

theorem rsIsProcessAllowlisted_of_none (h : name.buffer = none) :
    rsIsProcessAllowlisted upcase s name = false := by
  unfold rsIsProcessAllowlisted
  split
  · rfl
  · next hbuffer =>
    rw [h] at hbuffer
    cases hbuffer

theorem rsIsProcessAllowlisted_of_some {chars : List UInt16} (h : name.buffer = some chars) :
    rsIsProcessAllowlisted upcase s name =
      if name.length = 0 then false
      else
        (allowListNames.any fun entry => rtlEqualUnicodeString upcase
          (processFileName name chars h) (rtlInitUnicodeString entry)) ||
        (List.finRange rsMaxAllowlistEntries).any fun i =>
          decide (i.val < s.dynamicAllowlistCount.1.toNat) && rtlEqualUnicodeString upcase
            (processFileName name chars h) (rtlInitUnicodeString (wcs (s.dynamicAllowlist i))) := by
  unfold rsIsProcessAllowlisted
  split
  · next hbuffer =>
    rw [h] at hbuffer
    cases hbuffer
  · next chars' hbuffer =>
    rw [h] at hbuffer
    cases hbuffer
    rfl

/-- **What `RsIsProcessAllowlisted` decides.** -/
theorem rsIsProcessAllowlisted_iff :
    rsIsProcessAllowlisted upcase s name = true ↔ Allowlisted upcase s name := by
  cases hbuffer : name.buffer with
  | none =>
    have hchars : name.chars = [] := by rw [UnicodeString.chars, hbuffer, Option.getD_none]
    rw [rsIsProcessAllowlisted_of_none hbuffer]
    exact ⟨fun h => (by cases h), fun h => absurd hchars h.1⟩
  | some chars =>
    have hlength := name.length_eq chars hbuffer
    have hchars : name.chars = chars := by rw [UnicodeString.chars, hbuffer, Option.getD_some]
    rw [rsIsProcessAllowlisted_of_some hbuffer, Allowlisted, hchars]
    split_ifs with hzero
    · have hnil : chars = [] := List.length_eq_zero_iff.1 (by
        rw [hzero, UInt16.toNat_zero] at hlength
        omega)
      exact ⟨fun h => (by cases h), fun h => absurd hnil h.1⟩
    · -- both sides ask for an entry that equals the last component
      have hne : chars ≠ [] := by
        rintro rfl
        exact hzero (UInt16.toNat_inj.1 hlength)
      rw [and_iff_right hne, ← drop_lastComponentStart]
      exact any_entries_iff rfl

/-! ### What keeps a match -/

/-- A match with a built-in entry does not depend on the state. -/
theorem Allowlisted.of_builtin (h : name.chars ≠ []) {entry : List UInt16}
    (hentry : entry ∈ allowListNames)
    (hequal : (lastComponent name.chars).map upcase = entry.map upcase) :
    Allowlisted upcase s name :=
  ⟨h, entry, List.mem_append_left _ hentry, hequal⟩

theorem Allowlisted.of_subset {s' : DriverState} (h : Allowlisted upcase s name)
    (hsub : dynamicNames s ⊆ dynamicNames s') : Allowlisted upcase s' name := by
  obtain ⟨hne, entry, hentry, hequal⟩ := h
  refine ⟨hne, entry, ?_, hequal⟩
  rcases List.mem_append.1 hentry with hmem | hmem
  · exact List.mem_append_left _ hmem
  · exact List.mem_append_right _ (hsub hmem)

/-- **Adding an entry keeps the others.** -/
theorem dynamicNames_subset_add (s : DriverState) (entry : List UInt16) :
    dynamicNames s ⊆ dynamicNames (rsAddDynamicAllowlistEntry s entry) := by
  unfold rsAddDynamicAllowlistEntry
  split_ifs with hnil hroom
  · exact List.Subset.refl _
  · intro old hold
    obtain ⟨i, hi, rfl⟩ := mem_dynamicNames.1 hold
    have hlt : s.dynamicAllowlistCount.1.toNat < 128 := UInt32.lt_iff_toNat_lt.1 hroom
    have hsucc : (s.dynamicAllowlistCount.1 + 1).toNat = s.dynamicAllowlistCount.1.toNat + 1 := by
      rw [UInt32.toNat_add, UInt32.toNat_one]
      exact Nat.mod_eq_of_lt (by omega)
    refine mem_dynamicNames.2 ⟨i, ?_, ?_⟩
    · simp only [hsucc]
      omega
    · -- the new entry is behind the old ones
      have hne : i ≠ ⟨s.dynamicAllowlistCount.1.toNat, UInt32.lt_iff_toNat_lt.1 hroom⟩ := by
        rintro rfl
        exact absurd hi (lt_irrefl _)
      simp only [Function.update_of_ne hne]
  · exact List.Subset.refl _

end RansomShield
