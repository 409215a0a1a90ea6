import RansomShield.Client.StoredEntries
import RansomShield.Guarantees.RegistryRoundTrip

/-!
# Loading from any registry

The header of `ConfigManager.cpp` promises that the application can always start, even with a
corrupt registry.  The reader constructs each entry from a buffer of 260 characters (`constructed`),
without checking for a terminator, and `RegQueryValueExW` does not add one.  So loading is defined
if and only if no value that the reader reaches fills the buffer without a zero character
(`loading_tolerates_iff`), as a string of 520 bytes may (`unterminated_entry`).
-/

namespace RansomShield

/-- The buffers that the loop constructs strings from, for `n` indices from `i` on. -/
def constructed (opened : Bool) (key : RegKey) : ℕ → ℕ → List (List UInt16)
  | 0, _ => []
  | n + 1, i =>
    match regQueryValueEx opened key (entryName i) (2 * rsMaxAllowlistNameLen) with
    | .success value =>
      if value.type = .regSz then
        bufferChars rsMaxAllowlistNameLen value.data :: constructed opened key n (i + 1)
      else []
    | _ => []

/-- Every entry is constructed from a buffer with a terminator, and the list has at most 128 entries
of at most 259 characters. -/
def LoadsSafely (opened : Bool) (reg : Registry) (loaded : Option ConfigManager) : Prop :=
  (∀ buffer ∈ constructed opened reg.allowlist rsMaxAllowlistEntries 0,
    buffer.length = rsMaxAllowlistNameLen ∧ 0 ∈ buffer) ∧
  ∃ m, loaded = some m ∧ m.allowlist.length ≤ 128 ∧ ∀ e ∈ m.allowlist, e.chars.length ≤ 259

/-- As long as the values from `Entry00` on are strings of at most 520 bytes, each of them has less
than 519 bytes or contains a zero character. -/
def EntriesTerminated (key : RegKey) : Prop :=
  ∀ i < rsMaxAllowlistEntries,
    (∀ j ≤ i, ∃ value, key (entryName j) = some value ∧ value.FitsBuffer) →
    ∀ value, key (entryName i) = some value → value.Terminated

/-! ### The buffers -/

theorem constructed_succ (key : RegKey) (n i : ℕ) :
    (∃ value, key (entryName i) = some value ∧ value.FitsBuffer ∧
        constructed true key (n + 1) i =
          bufferChars rsMaxAllowlistNameLen value.data :: constructed true key n (i + 1)) ∨
      (¬ ∃ value, key (entryName i) = some value ∧ value.FitsBuffer) ∧
        constructed true key (n + 1) i = [] := by
  rw [constructed, regQueryValueEx, if_pos rfl]
  cases hvalue : key (entryName i) with
  | none =>
    refine .inr ⟨?_, rfl⟩
    rintro ⟨_, h, _⟩
    cases h
  | some value =>
    by_cases hfits : value.FitsBuffer
    · refine .inl ⟨value, rfl, hfits, ?_⟩
      simp only [if_pos hfits.2, if_pos hfits.1]
    · refine .inr ⟨?_, ?_⟩
      · rintro ⟨_, h, hfits'⟩
        cases h
        exact hfits hfits'
      · simp only []
        by_cases hsize : value.data.length ≤ 2 * rsMaxAllowlistNameLen
        · simp only [if_pos hsize, if_neg fun htype => hfits ⟨htype, hsize⟩]
        · simp only [if_neg hsize]

/-- **When every buffer is terminated**, for `n` indices from `i` on. -/
theorem constructed_terminated_iff {key : RegKey} {n i : ℕ} :
    (∀ buffer ∈ constructed true key n i, 0 ∈ buffer) ↔
      ∀ k < n, (∀ j ≤ k, ∃ value, key (entryName (i + j)) = some value ∧ value.FitsBuffer) →
        ∀ value, key (entryName (i + k)) = some value → value.Terminated := by
  induction n generalizing i with
  | zero => simp [constructed]
  | succ n ih =>
    have hshift : ∀ j, i + (j + 1) = i + 1 + j := fun j => by omega
    rcases constructed_succ key n i with ⟨value, hvalue, hfits, heq⟩ | ⟨hnone, heq⟩
    · rw [heq, List.forall_mem_cons, ih, zero_mem_bufferChars_iff]
      constructor
      · rintro ⟨hfirst, hrest⟩ k hk hreach v hv
        cases k with
        | zero =>
          rw [Nat.add_zero, hvalue] at hv
          cases hv
          exact hfirst
        | succ k =>
          rw [hshift] at hv
          refine hrest k (by omega) ?_ v hv
          intro j hj
          rw [← hshift]
          exact hreach (j + 1) (by omega)
      · intro h
        refine ⟨h 0 (by omega) ?_ value hvalue, ?_⟩
        · intro j hj
          rw [Nat.le_zero.1 hj]
          exact ⟨value, hvalue, hfits⟩
        · intro k hk hreach v hv
          refine h (k + 1) (by omega) ?_ v (by rwa [hshift])
          intro j hj
          cases j with
          | zero => exact ⟨value, hvalue, hfits⟩
          | succ j =>
            rw [hshift]
            exact hreach j (by omega)
    · -- the loop ends at the first index
      rw [heq]
      refine iff_of_true (List.forall_mem_nil _) ?_
      intro k _ hreach
      exact absurd (hreach 0 (Nat.zero_le k)) hnone

theorem length_of_mem_constructed {opened : Bool} {key : RegKey} {n i : ℕ} {buffer : List UInt16}
    (h : buffer ∈ constructed opened key n i) : buffer.length = rsMaxAllowlistNameLen := by
  induction n generalizing i with
  | zero => cases h
  | succ n ih =>
    rw [constructed] at h
    cases hquery : regQueryValueEx opened key (entryName i) (2 * rsMaxAllowlistNameLen) with
    | success value =>
      rw [hquery] at h
      simp only [] at h
      split_ifs at h
      · rcases List.mem_cons.1 h with rfl | h
        · exact length_bufferChars _ _
        · exact ih h
      · cases h
    | fileNotFound | moreData | invalidHandle =>
      rw [hquery] at h
      cases h

/-- **Loading is defined** when every buffer is terminated. -/
theorem exists_loadEntries {opened : Bool} {key : RegKey} {n i : ℕ}
    (h : ∀ buffer ∈ constructed opened key n i, 0 ∈ buffer) :
    ∃ l, loadEntries opened key n i = some l := by
  induction n generalizing i with
  | zero => exact ⟨[], rfl⟩
  | succ n ih =>
    rw [constructed] at h
    rw [loadEntries, readEntry]
    cases hquery : regQueryValueEx opened key (entryName i) (2 * rsMaxAllowlistNameLen) with
    | success value =>
      rw [hquery] at h
      simp only [] at h ⊢
      split_ifs at h ⊢
      · obtain ⟨hfirst, hrest⟩ := List.forall_mem_cons.1 h
        obtain ⟨l, hl⟩ := ih hrest
        rw [bufferString, if_pos hfirst]
        simp only [hl, Option.map_some]
        exact ⟨_, rfl⟩
      · exact ⟨[], rfl⟩
    | fileNotFound | moreData | invalidHandle => exact ⟨[], rfl⟩

/-! ### Loading -/

theorem loadsSafely_iff {opened : Bool} {reg : Registry} {loaded : Option ConfigManager}
    (h : loaded.map ConfigManager.allowlist =
      loadEntries opened reg.allowlist rsMaxAllowlistEntries 0) :
    LoadsSafely opened reg loaded ↔
      ∀ buffer ∈ constructed opened reg.allowlist rsMaxAllowlistEntries 0, 0 ∈ buffer := by
  constructor
  · intro hsafe buffer hbuffer
    exact (hsafe.1 buffer hbuffer).2
  · intro hterminated
    obtain ⟨l, hl⟩ := exists_loadEntries hterminated
    rw [hl] at h
    obtain ⟨m, hm, rfl⟩ := Option.map_eq_some_iff.1 h
    refine ⟨?_, m, hm, m.length_le,
      fun e he => Nat.le_of_lt_succ (length_lt_of_loadEntries hl e he)⟩
    intro buffer hbuffer
    exact ⟨length_of_mem_constructed hbuffer, hterminated buffer hbuffer⟩

theorem constructed_start_iff {key : RegKey} :
    (∀ buffer ∈ constructed true key rsMaxAllowlistEntries 0, 0 ∈ buffer) ↔
      EntriesTerminated key := by
  simp only [constructed_terminated_iff, Nat.zero_add, EntriesTerminated]

/-- **When loading is safe.**  For every content of the keys: `LoadFromRegistry` with its keys open,
and `Initialize` that opens them, construct every entry from a terminated buffer and end with at
most 128 entries of at most 259 characters if and only if, as long as the values from `Entry00` on
are strings of at most 520 bytes, each of them has less than 519 bytes or contains a zero character.
Without the key of the list nothing is constructed, and an `Initialize` that does not load leaves
the list alone. -/
theorem loading_tolerates_iff (reg : Registry) :
    (∀ m : ConfigManager, m.hAllowlistKey = true →
      (LoadsSafely true reg (m.loadFromRegistry reg) ↔ EntriesTerminated reg.allowlist)) ∧
    (∀ m : ConfigManager, m.initialized = false →
      (LoadsSafely true reg ((m.runInitialize true true reg).map Prod.fst) ↔
        EntriesTerminated reg.allowlist)) ∧
    (∀ m : ConfigManager, m.hAllowlistKey = false →
      LoadsSafely false reg (m.loadFromRegistry reg)) ∧
    ∀ (m : ConfigManager) (configOpens allowlistOpens : Bool),
      m.initialized = true ∨ configOpens = false ∨ allowlistOpens = false →
      ∃ r, m.runInitialize configOpens allowlistOpens reg = some r ∧
        r.1.allowlist = m.allowlist := by
  refine ⟨?_, ?_, ?_, fun m configOpens allowlistOpens h => runInitialize_not_loaded h reg⟩
  · intro m hm
    have hload := readValues_allowlist m reg
    rw [hm] at hload
    rw [ConfigManager.loadFromRegistry, loadsSafely_iff hload, constructed_start_iff]
  · intro m hm
    rw [loadsSafely_iff (runInitialize_allowlist hm reg), constructed_start_iff]
  · intro m hm
    have hload := readValues_allowlist m reg
    rw [hm] at hload
    rw [ConfigManager.loadFromRegistry, loadsSafely_iff hload]
    exact List.forall_mem_nil _

/-- The bytes of 260 characters, without a terminator. -/
def unterminatedBytes : List UInt8 := (List.replicate 260 97).flatMap wcharBytes

/-- A registry whose first entry is a string of 520 bytes without a zero character. -/
def unterminatedRegistry : Registry where
  config _ := none
  allowlist name := if name = entryName 0 then some ⟨.regSz, unterminatedBytes⟩ else none

theorem zero_not_mem_unterminated : 0 ∉ bufferChars rsMaxAllowlistNameLen unterminatedBytes := by
  intro hmem
  obtain ⟨i, hi, hchar⟩ := List.mem_map.1 hmem
  have hlt : i < 260 := List.mem_range.1 hi
  have hindex : i < (List.replicate 260 (97 : UInt16)).length := by rwa [List.length_replicate]
  rw [unterminatedBytes, readWchar_flatMap, List.getD_eq_getElem _ _ hindex,
    List.getElem_replicate] at hchar
  exact absurd hchar (by decide)

/-- **A string that fills the buffer**: neither `Initialize` nor `LoadFromRegistry` is safe. -/
theorem unterminated_entry :
    ¬ LoadsSafely true unterminatedRegistry
        ((ConfigManager.new.runInitialize true true unterminatedRegistry).map Prod.fst) ∧
      ¬ LoadsSafely true unterminatedRegistry
        ((firstStart [] (Nat.zero_le _)).loadFromRegistry unterminatedRegistry) := by
  have hbuffer : bufferChars rsMaxAllowlistNameLen unterminatedBytes ∈
      constructed true unterminatedRegistry.allowlist rsMaxAllowlistEntries 0 := by
    have hvalue : unterminatedRegistry.allowlist (entryName 0) =
        some ⟨.regSz, unterminatedBytes⟩ := by
      simp only [unterminatedRegistry, if_true]
    have hfits : RegValue.FitsBuffer ⟨.regSz, unterminatedBytes⟩ := ⟨rfl, by
      rw [unterminatedBytes, length_flatMap_of_length length_wcharBytes, List.length_replicate]⟩
    rcases constructed_succ unterminatedRegistry.allowlist 127 0 with ⟨value, h, -, heq⟩ | ⟨h, -⟩
    · rw [hvalue] at h
      cases h
      rw [heq]
      exact List.mem_cons_self
    · exact absurd ⟨_, hvalue, hfits⟩ h
  refine ⟨?_, ?_⟩
  · intro h
    exact zero_not_mem_unterminated (h.1 _ hbuffer).2
  · intro h
    exact zero_not_mem_unterminated (h.1 _ hbuffer).2

end RansomShield
