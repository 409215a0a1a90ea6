import RansomShield.Tracker.Slots

/-!
# The image path, with pointers

`RsIsProcessAllowlisted` once more, at the level of pointers.  The path is a `UNICODE_STRING` with
the memory behind its `Buffer` (`PathInMemory`), its last component is a pointer into it and a
length computed as a difference of pointers, and the names of the dynamic allowlist are read from
their slots up to a NUL.  Every read of the path is noted with its index.

What the loops compute is stated without pointers (`PathInMemory.scanBackslash_eq`,
`equalChars_eq_true_iff`), a slot that holds a string is read up to its own NUL
(`DriverState.dynEntry_eq`), and only characters of the path are read (`mem_findEntry`).
-/

namespace RansomShield

/-- A `UNICODE_STRING` in memory: `memory i` is `Buffer[i]`, also behind the end of the string. -/
structure PathInMemory where
  /-- Length in bytes. -/
  length : UInt16
  /-- `none` for a `NULL` buffer. -/
  memory : Option (ℕ → UInt16)

/-! ### The loops -/

section

variable (memory : ℕ → UInt16) (upcase : UInt16 → UInt16)

/-- The loop that looks for the last backslash, with `n` turns left from `i` on: the index that
`lastBackslash` points to at the end, and the indices read. -/
def scanBackslash : ℕ → ℕ → ℕ → ℕ × List ℕ
  | 0, _, lastBackslash => (lastBackslash, [])
  | n + 1, i, lastBackslash =>
    let r := scanBackslash n (i + 1) (if memory i = backslash then i + 1 else lastBackslash)
    (r.1, i :: r.2)

/-- The loop of `RtlEqualUnicodeString`, which ends at the first difference. -/
def equalChars : ℕ → List UInt16 → Bool × List ℕ
  | _, [] => (true, [])
  | i, c :: chars =>
    if upcase (memory i) = upcase c then
      let r := equalChars (i + 1) chars
      (r.1, i :: r.2)
    else (false, [i])

/-- `RtlEqualUnicodeString` on the string at an index, with a length in bytes. -/
def rtlEqualAt (start : ℕ) (length : UInt16) (entry : UnicodeString) : Bool × List ℕ :=
  if length = entry.length then equalChars memory upcase start entry.chars else (false, [])

/-- A loop over the entries of an allowlist, which ends at the first match. -/
def findEntry (start : ℕ) (length : UInt16) : List UnicodeString → Bool × List ℕ
  | [] => (false, [])
  | entry :: entries =>
    let r := rtlEqualAt memory upcase start length entry
    if r.1 then (true, r.2)
    else
      let r' := findEntry start length entries
      (r'.1, r.2 ++ r'.2)

end

/-- The characters of `g_DynamicAllowlist` from slot `i` on. -/
def DriverState.slotsFrom (s : DriverState) (i : ℕ) : List UInt16 :=
  ((List.finRange rsMaxAllowlistEntries).drop i).flatMap fun j => List.ofFn (s.dynamicAllowlist j)

/-- `RtlInitUnicodeString(&dynEntry, g_DynamicAllowlist[i])`, which goes on to the next slot where
one has no NUL. -/
def DriverState.dynEntry (s : DriverState) (i : ℕ) : UnicodeString :=
  rtlInitUnicodeString ((s.slotsFrom i).takeWhile (· ≠ 0))

namespace PathInMemory

variable (path : PathInMemory) (memory : ℕ → UInt16) (upcase : UInt16 → UInt16) (s : DriverState)

/-- The characters of the path. -/
def chars : List UInt16 := (List.range (path.length.toNat / 2)).map memory

/-- `lastBackslash` after the loop, and the indices read. -/
def lastBackslash : ℕ × List ℕ := scanBackslash memory (path.length.toNat / 2) 0 0

/-- `processFileName`: the index its `Buffer` points to, and its `Length`, a difference of pointers
cast to `USHORT`. -/
def processFileName : ℕ × UInt16 :=
  ((path.lastBackslash memory).1,
    UInt16.ofInt ((path.length.toNat : ℤ) - 2 * (path.lastBackslash memory).1))

/-- `RsIsProcessAllowlisted`: the answer, and the indices of the path that were read. -/
def rsIsProcessAllowlisted : Bool × List ℕ :=
  match path.memory with
  | none => (false, [])
  | some memory =>
    if path.length = 0 then (false, [])
    else
      let fileName := path.processFileName memory
      let static := findEntry memory upcase fileName.1 fileName.2
        (allowListNames.map rtlInitUnicodeString)
      if static.1 then (true, (path.lastBackslash memory).2 ++ static.2)
      else
        let dynamic := findEntry memory upcase fileName.1 fileName.2
          ((List.range s.dynamicAllowlistCount.1.toNat).map s.dynEntry)
        (dynamic.1, (path.lastBackslash memory).2 ++ static.2 ++ dynamic.2)

end PathInMemory

/-! ### What the loops compute -/

section

variable {memory : ℕ → UInt16} {upcase : UInt16 → UInt16}

theorem map_range_shift {α : Type*} (f : ℕ → α) (n i : ℕ) :
    (List.range n).map ((fun j => f (i + j)) ∘ Nat.succ) =
      (List.range n).map fun j => f (i + 1 + j) := by
  congr 1
  funext j
  rw [Function.comp_apply, Nat.succ_eq_add_one, Nat.add_right_comm, Nat.add_assoc]

theorem scanBackslash_eq (n i lastBackslash : ℕ) :
    scanBackslash memory n i lastBackslash =
      ((((List.range n).map fun j => memory (i + j)).zipIdx i).foldl
        (fun start ci => if ci.1 = backslash then ci.2 + 1 else start) lastBackslash,
        (List.range n).map fun j => i + j) := by
  induction n generalizing i lastBackslash with
  | zero => rfl
  | succ n ih =>
    rw [scanBackslash, ih, List.range_succ_eq_map, List.map_cons, List.map_cons, List.map_map,
      List.map_map, map_range_shift, map_range_shift (fun j => j), List.zipIdx_cons,
      List.foldl_cons]
    rfl

theorem scanBackslash_zero (n : ℕ) :
    scanBackslash memory n 0 0 =
      (lastComponentStart ((List.range n).map memory), List.range n) := by
  rw [scanBackslash_eq]
  simp only [Nat.zero_add, List.map_id']
  rfl

/-- **The comparison**: the characters agree up to case, and only as many are read as the entry
has. -/
theorem equalChars_eq_true_iff (i : ℕ) (chars : List UInt16) :
    (equalChars memory upcase i chars).1 = true ↔
      ((List.range chars.length).map fun j => memory (i + j)).map upcase = chars.map upcase := by
  induction chars generalizing i with
  | nil => exact ⟨fun _ => rfl, fun _ => rfl⟩
  | cons c chars ih =>
    rw [equalChars, List.length_cons, List.range_succ_eq_map, List.map_cons, List.map_map,
      map_range_shift, List.map_cons, List.map_cons, List.cons.injEq]
    simp only [Nat.add_zero]
    split_ifs with hc
    · rw [and_iff_right hc]
      exact ih (i + 1)
    · exact ⟨fun h => absurd h (by decide), fun h => absurd h.1 hc⟩

theorem mem_equalChars {i j : ℕ} {chars : List UInt16}
    (hj : j ∈ (equalChars memory upcase i chars).2) : j < i + chars.length := by
  induction chars generalizing i with
  | nil => cases hj
  | cons c chars ih =>
    rw [equalChars] at hj
    rw [List.length_cons]
    split_ifs at hj
    · rcases List.mem_cons.1 hj with rfl | hj
      · omega
      · have := ih hj
        omega
    · rw [List.mem_singleton.1 hj]
      omega

theorem mem_rtlEqualAt {start j : ℕ} {length : UInt16} {entry : UnicodeString}
    (hj : j ∈ (rtlEqualAt memory upcase start length entry).2) :
    2 * j < 2 * start + length.toNat := by
  rw [rtlEqualAt] at hj
  split_ifs at hj with hlength
  · have hlt := mem_equalChars hj
    rw [UnicodeString.chars] at hlt hj
    rw [hlength]
    -- an entry without a buffer has no characters
    cases hbuffer : entry.buffer with
    | none =>
      rw [hbuffer] at hj
      cases hj
    | some chars =>
      rw [hbuffer, Option.getD_some] at hlt
      have := entry.length_eq chars hbuffer
      omega
  · cases hj

/-- A loop over an allowlist finds a match if there is one. -/
theorem findEntry_eq_any (start : ℕ) (length : UInt16) (entries : List UnicodeString) :
    (findEntry memory upcase start length entries).1 =
      entries.any fun entry => (rtlEqualAt memory upcase start length entry).1 := by
  induction entries with
  | nil => rfl
  | cons entry entries ih =>
    rw [findEntry, List.any_cons]
    cases h : (rtlEqualAt memory upcase start length entry).1 with
    | true => rw [if_pos rfl, Bool.true_or]
    | false => rw [if_neg (by decide), ih, Bool.false_or]

theorem mem_findEntry {start j : ℕ} {length : UInt16} {entries : List UnicodeString}
    (hj : j ∈ (findEntry memory upcase start length entries).2) :
    2 * j < 2 * start + length.toNat := by
  induction entries with
  | nil => cases hj
  | cons entry entries ih =>
    rw [findEntry] at hj
    split_ifs at hj
    · exact mem_rtlEqualAt hj
    · rcases List.mem_append.1 hj with hj | hj
      · exact mem_rtlEqualAt hj
      · exact ih hj

end

/-! ### The names in the slots -/

/-- The slots in use hold non-empty strings: a terminator, and not at the front. -/
def DriverState.SlotsTerminated (s : DriverState) : Prop :=
  ∀ i : Fin rsMaxAllowlistEntries, i.val < s.dynamicAllowlistCount.1.toNat →
    s.dynamicAllowlist i 0 ≠ 0 ∧ ∃ j, s.dynamicAllowlist i j = 0

theorem takeWhile_append_of_mem_zero {l : List UInt16} (h : 0 ∈ l) (l' : List UInt16) :
    (l ++ l').takeWhile (· ≠ 0) = l.takeWhile (· ≠ 0) := by
  induction l with
  | nil => cases h
  | cons c l ih =>
    rw [List.cons_append, List.takeWhile_cons, List.takeWhile_cons]
    by_cases hc : c = 0
    · simp [hc]
    · rw [ih ((List.mem_cons.1 h).resolve_left (Ne.symm hc))]

/-- **A slot in use is read up to its own NUL.** -/
theorem DriverState.SlotsTerminated.dynEntry_eq {s : DriverState} (h : s.SlotsTerminated)
    {i : Fin rsMaxAllowlistEntries} (hi : i.val < s.dynamicAllowlistCount.1.toNat) :
    s.dynEntry i = rtlInitUnicodeString (wcs (s.dynamicAllowlist i)) := by
  obtain ⟨-, j, hj⟩ := h i hi
  have hlen : i.val < (List.finRange rsMaxAllowlistEntries).length := by
    rw [List.length_finRange]
    exact i.isLt
  have hslots : s.slotsFrom i =
      List.ofFn (s.dynamicAllowlist i) ++ s.slotsFrom (i.val + 1) := by
    rw [DriverState.slotsFrom, List.drop_eq_getElem_cons hlen, List.flatMap_cons,
      List.getElem_finRange]
    rfl
  rw [DriverState.dynEntry, hslots, takeWhile_append_of_mem_zero, wcs]
  rw [← hj]
  exact List.mem_ofFn.2 ⟨j, rfl⟩

theorem DriverState.SlotsTerminated.wcs_ne_nil {s : DriverState} (h : s.SlotsTerminated)
    {i : Fin rsMaxAllowlistEntries} (hi : i.val < s.dynamicAllowlistCount.1.toNat) :
    wcs (s.dynamicAllowlist i) ≠ [] := by
  have hfirst := (h i hi).1
  rw [wcs, List.ofFn_succ, List.takeWhile_cons_of_pos (by simpa using hfirst)]
  exact List.cons_ne_nil _ _

theorem DriverState.Holds.slotsTerminated {s : DriverState} {names : List (List UInt16)}
    (h : s.Holds names) (hne : [] ∉ names) : s.SlotsTerminated := by
  intro i hi
  rw [h.count] at hi
  have hmem : names.getD i.val [] ∈ names := by
    rw [List.getD_eq_getElem _ _ hi]
    exact List.getElem_mem hi
  have hname := h.isName _ hmem
  have hlen : (names.getD i.val []).length ≤ 259 := hname.1
  rw [h.slots]
  constructor
  · cases hcase : names.getD i.val [] with
    | nil => exact absurd (hcase ▸ hmem) hne
    | cons c name =>
      rintro rfl
      exact hname.2 (hcase ▸ List.mem_cons_self)
  · refine ⟨⟨(names.getD i.val []).length, by show _ < 260; omega⟩, ?_⟩
    exact List.getD_eq_default _ _ le_rfl

end RansomShield
