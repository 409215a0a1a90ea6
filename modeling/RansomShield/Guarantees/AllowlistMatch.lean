import RansomShield.Buffers.ImagePath
import RansomShield.Guarantees.AllowlistHistory

/-!
# The allowlist is matched by the last path component

The substring that `RsIsProcessAllowlisted` compares is built by pointer arithmetic: a scan for the
last backslash, and a length cast to `USHORT`.  It is the part of the path behind the last
backslash, for every path; so the pointers compute what the function does on the list of the
characters (`PathInMemory.rsIsProcessAllowlisted_eq`), and they stay within the path
(`PathInMemory.lt_of_mem_accesses`).

`allowlist_by_last_component` says what the answer is, for slots that hold non-empty strings, as
they do after every history of messages (`slotsTerminated_history`).
-/

namespace RansomShield

namespace PathInMemory

variable {path : PathInMemory} {memory : ℕ → UInt16} {upcase : UInt16 → UInt16} {s : DriverState}

@[simp] theorem length_chars (path : PathInMemory) (memory : ℕ → UInt16) :
    (path.chars memory).length = path.length.toNat / 2 := by
  rw [chars, List.length_map, List.length_range]

theorem lastBackslash_eq (path : PathInMemory) (memory : ℕ → UInt16) :
    path.lastBackslash memory =
      (lastComponentStart (path.chars memory), List.range (path.length.toNat / 2)) :=
  scanBackslash_zero _

theorem lastBackslash_le (path : PathInMemory) (memory : ℕ → UInt16) :
    2 * (path.lastBackslash memory).1 ≤ path.length.toNat := by
  have hle := lastComponentStart_le (path.chars memory)
  rw [length_chars] at hle
  rw [lastBackslash_eq]
  omega

/-- **The length never wraps**: the cast to `USHORT` keeps the difference of the pointers. -/
theorem toNat_processFileName (path : PathInMemory) (memory : ℕ → UInt16) :
    (path.processFileName memory).2.toNat =
      path.length.toNat - 2 * (path.lastBackslash memory).1 := by
  have hle := path.lastBackslash_le memory
  have hlt := path.length.toNat_lt
  rw [processFileName, UInt16.ofInt, UInt16.toNat_ofNat']
  omega

theorem chars_processFileName (path : PathInMemory) (memory : ℕ → UInt16) :
    ((List.range ((path.processFileName memory).2.toNat / 2)).map fun j =>
        memory ((path.processFileName memory).1 + j)) = lastComponent (path.chars memory) := by
  have hle := path.lastBackslash_le memory
  have hnumber : (path.processFileName memory).2.toNat / 2 =
      path.length.toNat / 2 - (path.lastBackslash memory).1 := by
    rw [toNat_processFileName]
    omega
  rw [← drop_lastComponentStart, hnumber]
  have hstart : lastComponentStart (path.chars memory) = (path.lastBackslash memory).1 := by
    rw [lastBackslash_eq]
  rw [hstart]
  refine List.ext_getElem ?_ ?_
  · rw [List.length_map, List.length_range, List.length_drop, length_chars]
  · intro j hj hj'
    simp only [chars, List.getElem_map, List.getElem_range, List.getElem_drop]
    rfl

theorem rtlEqualAt_eq {start : ℕ} {fileName : UnicodeString}
    (hfile : fileName.buffer = some ((List.range (fileName.length.toNat / 2)).map fun j =>
      memory (start + j))) (name : List UInt16) :
    (rtlEqualAt memory upcase start fileName.length (rtlInitUnicodeString name)).1 =
      rtlEqualUnicodeString upcase fileName (rtlInitUnicodeString name) := by
  have hchars : fileName.chars =
      (List.range (fileName.length.toNat / 2)).map fun j => memory (start + j) := by
    rw [UnicodeString.chars, hfile, Option.getD_some]
  have hentry := (rtlInitUnicodeString name).length_eq _ rfl
  rw [Bool.eq_iff_iff, rtlEqualAt, rtlEqualUnicodeString, hchars, Bool.and_eq_true, beq_iff_eq,
    beq_iff_eq]
  split_ifs with hlength
  · have hnumber : fileName.length.toNat / 2 = (rtlInitUnicodeString name).chars.length := by
      rw [hlength, hentry, Nat.mul_div_cancel_left _ (by decide)]
      rfl
    rw [equalChars_eq_true_iff, and_iff_right hlength, hnumber]
  · exact ⟨fun h => absurd h (by decide), fun h => absurd h.1 hlength⟩

theorem processFileName_eq {name : UnicodeString} (hlength : name.length = path.length)
    (hbuffer : name.buffer = some (path.chars memory)) :
    (RansomShield.processFileName name (path.chars memory) hbuffer).length =
        (path.processFileName memory).2 ∧
      (RansomShield.processFileName name (path.chars memory) hbuffer).buffer =
        some ((List.range ((path.processFileName memory).2.toNat / 2)).map fun j =>
          memory ((path.processFileName memory).1 + j)) := by
  have hstart : (path.lastBackslash memory).1 = lastComponentStart (path.chars memory) := by
    rw [lastBackslash_eq]
  constructor
  · have hlt := path.length.toNat_lt
    apply UInt16.toNat_inj.1
    rw [toNat_processFileName, RansomShield.processFileName, UInt16.toNat_ofNat', hlength, hstart,
      Nat.mod_eq_of_lt (by omega)]
  · rw [chars_processFileName, ← drop_lastComponentStart]
    rfl

theorem any_static_eq {start : ℕ} {fileName : UnicodeString}
    (hfile : fileName.buffer = some ((List.range (fileName.length.toNat / 2)).map fun j =>
      memory (start + j))) :
    (findEntry memory upcase start fileName.length
      (allowListNames.map rtlInitUnicodeString)).1 =
      allowListNames.any fun name =>
        rtlEqualUnicodeString upcase fileName (rtlInitUnicodeString name) := by
  rw [findEntry_eq_any, List.any_map]
  congr 1
  funext name
  exact rtlEqualAt_eq hfile name

theorem any_dynamic_eq (hs : s.SlotsTerminated) {start : ℕ} {fileName : UnicodeString}
    (hfile : fileName.buffer = some ((List.range (fileName.length.toNat / 2)).map fun j =>
      memory (start + j))) :
    (findEntry memory upcase start fileName.length
      ((List.range s.dynamicAllowlistCount.1.toNat).map s.dynEntry)).1 =
      (List.finRange rsMaxAllowlistEntries).any fun i =>
        decide (i.val < s.dynamicAllowlistCount.1.toNat) && rtlEqualUnicodeString upcase fileName
          (rtlInitUnicodeString (wcs (s.dynamicAllowlist i))) := by
  have hcount := s.dynamicAllowlistCount.2
  rw [findEntry_eq_any, Bool.eq_iff_iff, List.any_eq_true, List.any_eq_true]
  constructor
  · rintro ⟨entry, hentry, hequal⟩
    obtain ⟨i, hi, rfl⟩ := List.mem_map.1 hentry
    have hlt := List.mem_range.1 hi
    have hslot := hs.dynEntry_eq (i := ⟨i, hlt.trans_le hcount⟩) hlt
    rw [hslot, rtlEqualAt_eq hfile] at hequal
    exact ⟨⟨i, hlt.trans_le hcount⟩, List.mem_finRange _,
      Bool.and_eq_true_iff.2 ⟨decide_eq_true hlt, hequal⟩⟩
  · rintro ⟨i, -, hmatch⟩
    obtain ⟨hlt, hequal⟩ := Bool.and_eq_true_iff.1 hmatch
    have hlt := of_decide_eq_true hlt
    refine ⟨s.dynEntry i, List.mem_map_of_mem (List.mem_range.2 hlt), ?_⟩
    rw [hs.dynEntry_eq hlt, rtlEqualAt_eq hfile]
    exact hequal

/-- **The pointers compute what the characters say.** -/
theorem rsIsProcessAllowlisted_eq {name : UnicodeString} (hlength : name.length = path.length)
    (hbuffer : name.buffer = path.memory.map path.chars) (hs : s.SlotsTerminated) :
    (path.rsIsProcessAllowlisted upcase s).1 =
      RansomShield.rsIsProcessAllowlisted upcase s name := by
  rw [rsIsProcessAllowlisted]
  cases hmemory : path.memory with
  | none =>
    rw [hmemory, Option.map_none] at hbuffer
    rw [rsIsProcessAllowlisted_of_none hbuffer]
  | some memory =>
    rw [hmemory, Option.map_some] at hbuffer
    obtain ⟨hfileLength, hfileBuffer⟩ := processFileName_eq hlength hbuffer
    rw [← hfileLength] at hfileBuffer
    rw [rsIsProcessAllowlisted_of_some hbuffer, hlength, ← any_static_eq hfileBuffer,
      ← any_dynamic_eq hs hfileBuffer, hfileLength]
    simp only []
    by_cases hzero : path.length = 0
    · rw [if_pos hzero, if_pos hzero]
    · rw [if_neg hzero, if_neg hzero]
      split_ifs with hfound
      · rw [hfound, Bool.true_or]
      · rw [Bool.eq_false_of_not_eq_true hfound, Bool.false_or]

/-- **Only characters of the path are read.** -/
theorem lt_of_mem_accesses {j : ℕ} (hj : j ∈ (path.rsIsProcessAllowlisted upcase s).2) :
    2 * j < path.length.toNat := by
  rw [rsIsProcessAllowlisted] at hj
  cases hmemory : path.memory with
  | none =>
    rw [hmemory] at hj
    cases hj
  | some memory =>
    have hle := path.lastBackslash_le memory
    have hlength := path.toNat_processFileName memory
    -- the scan reads below the length, the comparisons below the end of the last component
    have hscan : j ∈ (path.lastBackslash memory).2 → 2 * j < path.length.toNat := by
      rw [lastBackslash_eq, List.mem_range]
      omega
    have hfind : ∀ {entries : List UnicodeString}, j ∈ (findEntry memory upcase
        (path.processFileName memory).1 (path.processFileName memory).2 entries).2 →
        2 * j < path.length.toNat := by
      intro entries hmem
      have hlt := mem_findEntry hmem
      rw [hlength] at hlt
      have hstart : (path.processFileName memory).1 = (path.lastBackslash memory).1 := rfl
      omega
    rw [hmemory] at hj
    simp only [] at hj
    split_ifs at hj with hzero hstatic
    · cases hj
    · rcases List.mem_append.1 hj with hj | hj
      · exact hscan hj
      · exact hfind hj
    · rcases List.mem_append.1 hj with hj | hj
      · rcases List.mem_append.1 hj with hj | hj
        · exact hscan hj
        · exact hfind hj
      · exact hfind hj

end PathInMemory

/-- **The slots hold non-empty strings** after every history of accepted allowlist messages. -/
theorem slotsTerminated_history (messages : List AllowlistMessage) :
    (afterMessages messages).SlotsTerminated := by
  refine (holds_history messages).slotsTerminated ?_
  intro hmem
  simpa using (List.mem_filter.1 (List.mem_of_mem_take hmem)).2

theorem ne_nil_of_allowlisted {s : DriverState} (hs : s.SlotsTerminated) {name : List UInt16}
    (h : name ∈ allowListNames ∨ ∃ i : Fin 128,
      i.val < s.dynamicAllowlistCount.1.toNat ∧ name = wcs (s.dynamicAllowlist i)) : name ≠ [] := by
  rcases h with h | ⟨i, hi, rfl⟩
  · have hall : ∀ name ∈ allowListNames, name ≠ [] := by decide
    exact hall name h
  · exact hs.wcs_ne_nil hi

/-- **The allowlist is matched by the last path component.**  For every path in memory, whatever is
behind its end, and every dynamic allowlist whose slots hold non-empty strings: the answer is yes if
and only if the part behind the last backslash equals a built-in name or one in a slot in use, up to
case; the length of that part is the exact difference of the pointers; and only characters of the
path are read. -/
theorem allowlist_by_last_component (upcase : UInt16 → UInt16) {s : DriverState}
    (hs : s.SlotsTerminated) {length : UInt16} (heven : length.toNat % 2 = 0)
    (memory : ℕ → UInt16) :
    let path : PathInMemory := ⟨length, some memory⟩
    let chars := (List.range (length.toNat / 2)).map memory
    ((path.rsIsProcessAllowlisted upcase s).1 = true ↔
      ∃ name, (name ∈ allowListNames ∨ ∃ i : Fin 128,
          i.val < s.dynamicAllowlistCount.1.toNat ∧ name = wcs (s.dynamicAllowlist i)) ∧
        (lastComponent chars).map upcase = name.map upcase) ∧
    ((path.processFileName memory).2.toNat : ℤ) =
      length.toNat - 2 * (path.processFileName memory).1 ∧
    (path.processFileName memory).2.toNat = 2 * (lastComponent chars).length ∧
    ∀ j ∈ (path.rsIsProcessAllowlisted upcase s).2, j < length.toNat / 2 := by
  intro path chars
  have hlength : (path.processFileName memory).2.toNat =
      length.toNat - 2 * (path.processFileName memory).1 := path.toNat_processFileName memory
  have hle : 2 * (path.processFileName memory).1 ≤ length.toNat := path.lastBackslash_le memory
  have hchars : path.chars memory = chars := rfl
  let name : UnicodeString :=
    { length := length
      buffer := some chars
      length_eq := by
        intro b hb
        cases hb
        rw [List.length_map, List.length_range]
        omega }
  have heq : (path.rsIsProcessAllowlisted upcase s).1 =
      RansomShield.rsIsProcessAllowlisted upcase s name :=
    PathInMemory.rsIsProcessAllowlisted_eq rfl rfl hs
  rw [heq, rsIsProcessAllowlisted_iff]
  refine ⟨?_, by omega, ?_, ?_⟩
  · constructor
    · rintro ⟨-, entry, hentry, hequal⟩
      refine ⟨entry, (List.mem_append.1 hentry).imp_right fun hmem => ?_, hequal⟩
      obtain ⟨i, hi, rfl⟩ := mem_dynamicNames.1 hmem
      exact ⟨i, hi, rfl⟩
    · rintro ⟨entry, hentry, hequal⟩
      refine ⟨?_, entry, ?_, hequal⟩
      · -- the last component of the empty path would be an empty name
        intro hnil
        have hempty : chars = [] := hnil
        rw [hempty] at hequal
        exact ne_nil_of_allowlisted hs hentry (List.map_eq_nil_iff.1 hequal.symm)
      · refine List.mem_append.2 (hentry.imp_right ?_)
        rintro ⟨i, hi, rfl⟩
        exact mem_dynamicNames.2 ⟨i, hi, rfl⟩
  · have hnumber := congrArg List.length (path.chars_processFileName memory)
    rw [List.length_map, List.length_range, hchars] at hnumber
    omega
  · intro j hj
    have hlt : 2 * j < length.toNat := PathInMemory.lt_of_mem_accesses hj
    omega

/-- A path that ends in a dynamic name, followed by other characters in memory. -/
theorem allowlist_by_last_component_dynamic :
    ((⟨16, some fun i => (wide "C:\\a.exeX").getD i 7⟩ : PathInMemory).rsIsProcessAllowlisted id
      (rsAddDynamicAllowlistEntry DriverState.init (wide "a.exe"))).1 = true := by
  have hname : IsName (wide "a.exe") := by unfold IsName; decide
  have hholds := holds_init.add hname
  have hs := hholds.slotsTerminated (by decide)
  have heven : (16 : UInt16).toNat % 2 = 0 := by decide
  refine (allowlist_by_last_component id hs heven _).1.2
    ⟨wide "a.exe", .inr ⟨0, by decide, ?_⟩, by decide⟩
  rw [hholds.slots]
  exact (wcs_padded hname).symm

end RansomShield
