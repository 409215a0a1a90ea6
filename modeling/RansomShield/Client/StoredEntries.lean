import RansomShield.Client.ConfigManager

/-!
# The stored entries

What the reader of the allowlist makes of a single value, whatever is stored there (`readValue`): a
string of at most 520 bytes becomes an entry, up to its terminator, and everything else ends the
list.  The buffer has 260 characters and is zeroed, so that only a string that fills it can be
unterminated (`zero_mem_bufferChars_iff`).  The list that is loaded is given value by value
(`loadEntries_eq_some_iff_readValue`), and its entries are shorter than the buffer
(`length_lt_of_loadEntries`).
-/

namespace RansomShield

/-- A turn of the loop that reads the entries, for the value that it finds. -/
def readValue : Option RegValue → EntryRead
  | none => .stop
  | some value =>
    if value.type = .regSz ∧ value.data.length ≤ 2 * rsMaxAllowlistNameLen then
      match bufferString rsMaxAllowlistNameLen value.data with
      | some e => .entry e
      | none => .undefined
    else .stop

namespace RegValue

/-- A string that `RegQueryValueExW` copies to the buffer: a `REG_SZ` of at most 520 bytes. -/
def FitsBuffer (value : RegValue) : Prop :=
  value.type = .regSz ∧ value.data.length ≤ 2 * rsMaxAllowlistNameLen

/-- The value leaves the last character of the buffer alone, or it contains a zero character. -/
def Terminated (value : RegValue) : Prop :=
  value.data.length < 519 ∨ ∃ k < rsMaxAllowlistNameLen,
    value.data.getD (2 * k) 0 = 0 ∧ value.data.getD (2 * k + 1) 0 = 0

end RegValue

/-- A registry with some strings. -/
def storedRegistry (names : List WString) : Registry where
  config _ := none
  allowlist name := (names.zipIdx.find? fun e => entryName e.2 = name).map fun e => stringValue e.1

/-! ### One value -/

theorem readEntry_eq_readValue (key : RegKey) (i : ℕ) :
    readEntry true key i = readValue (key (entryName i)) := by
  unfold readEntry readValue regQueryValueEx
  rw [if_pos rfl]
  cases key (entryName i) with
  | none => rfl
  | some value =>
    dsimp only
    by_cases hsize : value.data.length ≤ 2 * rsMaxAllowlistNameLen
    · rw [if_pos hsize]
      by_cases htype : value.type = .regSz
      · rw [if_pos ⟨htype, hsize⟩]
        exact if_pos htype
      · rw [if_neg fun h => htype h.1]
        exact if_neg htype
    · rw [if_neg hsize, if_neg fun h => hsize h.2]

theorem readWchar_eq_zero_iff {bytes : List UInt8} {offset : ℕ} :
    readWchar bytes offset = 0 ↔ bytes.getD offset 0 = 0 ∧ bytes.getD (offset + 1) 0 = 0 := by
  have hlow := (bytes.getD offset 0).toNat_lt
  have hhigh := (bytes.getD (offset + 1) 0).toNat_lt
  rw [← UInt16.toNat_inj, ← UInt8.toNat_inj, ← UInt8.toNat_inj, readWchar, UInt16.toNat_ofNat',
    UInt16.toNat_zero, UInt8.toNat_zero]
  omega

/-- **When a buffer has a terminator** after the value is copied to it. -/
theorem zero_mem_bufferChars_iff {value : RegValue} :
    0 ∈ bufferChars rsMaxAllowlistNameLen value.data ↔ value.Terminated := by
  simp only [bufferChars, List.mem_map, List.mem_range, readWchar_eq_zero_iff]
  constructor
  · exact .inr
  · rintro (hshort | hzero)
    · -- the last character keeps its zero
      refine ⟨259, by decide, ?_, ?_⟩
      · exact List.getD_eq_default _ _ (by omega)
      · exact List.getD_eq_default _ _ (by omega)
    · exact hzero

theorem length_lt_of_readValue {value : Option RegValue} {e : WString}
    (h : readValue value = .entry e) : e.chars.length < rsMaxAllowlistNameLen := by
  cases value with
  | none => cases h
  | some value =>
    rw [readValue] at h
    split_ifs at h
    cases hbuffer : bufferString rsMaxAllowlistNameLen value.data with
    | none =>
      rw [hbuffer] at h
      cases h
    | some e' =>
      rw [hbuffer] at h
      cases h
      exact length_lt_of_bufferString hbuffer

/-! ### The list -/

/-- The entries that were read from the registry leave room for their terminators. -/
theorem length_lt_of_loadEntries {opened : Bool} {key : RegKey} {n i : ℕ} {l : List WString}
    (h : loadEntries opened key n i = some l) :
    ∀ e ∈ l, e.chars.length < rsMaxAllowlistNameLen := by
  intro e he
  obtain ⟨j, hj⟩ := List.getElem?_of_mem he
  have hread := (loadEntries_eq_some_iff.1 h).2.1 j e hj
  cases opened with
  | true =>
    rw [readEntry_eq_readValue] at hread
    exact length_lt_of_readValue hread
  | false => cases hread

/-- **The list that is loaded**, value by value. -/
theorem loadEntries_eq_some_iff_readValue {key : RegKey} {l : List WString} :
    loadEntries true key rsMaxAllowlistEntries 0 = some l ↔
      l.length ≤ rsMaxAllowlistEntries ∧
        (∀ i e, l[i]? = some e → readValue (key (entryName i)) = .entry e) ∧
        (l.length < rsMaxAllowlistEntries → readValue (key (entryName l.length)) = .stop) := by
  simp only [loadEntries_eq_some_iff, readEntry_eq_readValue, Nat.zero_add]

end RansomShield
