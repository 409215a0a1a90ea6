import RansomShield.Client.Requests

/-!
# Registry values

The registry as the client uses it: a key is a function from the names of values to values, which
are stored as they are written.  A query fails when there is no such value or the buffer is too
small; a write or a deletion may fail, and changes nothing then.  Every call fails on a handle that
is not open.

The client writes numbers (`dwordValue`) and strings (`stringValue`).  A string is read back from a
buffer that has room for it and for its terminator (`bufferString_stringBytes`).
-/

namespace RansomShield

/-! ### Keys -/

/-- The type of a value. -/
inductive RegType
  | regSz
  | regDword
  | other (value : UInt32)
  deriving DecidableEq, Repr

/-- A value: its type and its bytes. -/
structure RegValue where
  type : RegType
  data : List UInt8
  deriving DecidableEq, Repr

/-- The values of a key.  The registry compares their names up to case, and the client spells each
name in one way. -/
abbrev RegKey := List UInt16 → Option RegValue

/-- How `RegQueryValueExW` ends. -/
inductive RegQuery
  | success (value : RegValue)
  | fileNotFound
  | moreData
  | invalidHandle
  deriving DecidableEq

/-- `RegQueryValueExW` with a buffer of `size` bytes. -/
def regQueryValueEx (opened : Bool) (key : RegKey) (name : List UInt16) (size : ℕ) : RegQuery :=
  if opened then
    match key name with
    | none => .fileNotFound
    | some value => if value.data.length ≤ size then .success value else .moreData
  else .invalidHandle

/-- `RegSetValueExW`, and whether it succeeds. -/
def regSetValueEx (opened fails : Bool) (key : RegKey) (name : List UInt16) (value : RegValue) :
    RegKey × Bool :=
  if opened && !fails then (Function.update key name (some value), true) else (key, false)

/-- `RegDeleteValueW`.  The client ignores how it ends. -/
def regDeleteValue (opened fails : Bool) (key : RegKey) (name : List UInt16) : RegKey :=
  if opened && !fails then Function.update key name none else key

theorem regSetValueEx_of_success {opened fails : Bool} {key : RegKey} {name : List UInt16}
    {value : RegValue} (h : (regSetValueEx opened fails key name value).2 = true) :
    opened = true ∧ (regSetValueEx opened fails key name value).1 =
      Function.update key name (some value) := by
  unfold regSetValueEx at h ⊢
  split_ifs at h ⊢ with hok
  · exact ⟨(Bool.and_eq_true_iff.1 hok).1, rfl⟩

/-! ### Values -/

/-- The value of a `DWORD`. -/
def dwordValue (n : UInt32) : RegValue := ⟨.regDword, ulongBytes n⟩

/-- The bytes of a string with its terminator. -/
def stringBytes (e : WString) : List UInt8 := (e.chars ++ [0]).flatMap wcharBytes

/-- The value of a string: `dataSize` is a `DWORD`. -/
def stringValue (e : WString) : RegValue :=
  ⟨.regSz, (stringBytes e).take ((2 * (e.chars.length + 1)) % 2 ^ 32)⟩

/-- The characters of a zeroed buffer of `n` characters that bytes were read into. -/
def bufferChars (n : ℕ) (bytes : List UInt8) : List UInt16 :=
  (List.range n).map fun i => readWchar bytes (2 * i)

/-- The string in such a buffer.  When it has no terminator, the constructor of the string reads
beyond the buffer, and its behaviour is undefined. -/
def bufferString (n : ℕ) (bytes : List UInt8) : Option WString :=
  if 0 ∈ bufferChars n bytes then
    some ⟨(bufferChars n bytes).takeWhile (· ≠ 0), fun h => by
      simpa using List.mem_takeWhile_imp h⟩
  else none

@[simp] theorem length_bufferChars (n : ℕ) (bytes : List UInt8) :
    (bufferChars n bytes).length = n := by
  rw [bufferChars, List.length_map, List.length_range]

theorem length_stringBytes (e : WString) :
    (stringBytes e).length = 2 * (e.chars.length + 1) := by
  rw [stringBytes, length_flatMap_of_length length_wcharBytes, List.length_append,
    List.length_singleton]

theorem length_lt_of_bufferString {n : ℕ} {bytes : List UInt8} {e : WString}
    (h : bufferString n bytes = some e) : e.chars.length < n := by
  unfold bufferString at h
  split_ifs at h with hmem
  cases h
  exact (length_takeWhile_lt hmem).trans_eq (length_bufferChars n bytes)

theorem readWchar_flatMap (l : List UInt16) (i : ℕ) :
    readWchar (l.flatMap wcharBytes) (2 * i) = l.getD i 0 := by
  by_cases hi : i < l.length
  · have hbyte : ∀ k < 2, (l.flatMap wcharBytes).getD (2 * i + k) 0 =
        (wcharBytes l[i]).getD k 0 := fun k hk => getD_flatMap length_wcharBytes l hi hk 0
    have hzero := hbyte 0 (by decide)
    have hlt := l[i].toNat_lt
    rw [Nat.add_zero] at hzero
    rw [readWchar, hzero, hbyte 1 (by decide), List.getD_eq_getElem _ _ hi]
    apply UInt16.toNat_inj.1
    simp only [wcharBytes, List.getD_cons_zero, List.getD_cons_succ, UInt8.toNat_ofNat',
      UInt16.toNat_ofNat']
    omega
  · have hlen : (l.flatMap wcharBytes).length = 2 * l.length :=
      length_flatMap_of_length length_wcharBytes l
    rw [List.getD_eq_default _ _ (not_lt.1 hi), readWchar,
      List.getD_eq_default _ _ (by omega), List.getD_eq_default _ _ (by omega)]
    rfl

/-- **A string is read back** from a buffer that has room for it and for its terminator. -/
theorem bufferString_stringBytes {n : ℕ} {e : WString} (h : e.chars.length < n) :
    bufferString n (stringBytes e) = some e := by
  have hchars : bufferChars n (stringBytes e) =
      e.chars ++ List.replicate (n - e.chars.length) 0 := by
    refine List.ext_getElem ?_ ?_
    · rw [length_bufferChars, List.length_append, List.length_replicate]
      omega
    intro i hi hi'
    simp only [bufferChars, List.getElem_map, List.getElem_range, stringBytes, readWchar_flatMap]
    by_cases hlt : i < e.chars.length
    · rw [List.getD_append _ _ _ _ hlt, List.getD_eq_getElem _ _ hlt, List.getElem_append_left hlt]
    · rw [List.getElem_append_right (not_lt.1 hlt), List.getElem_replicate,
        List.getD_append_right _ _ _ _ (not_lt.1 hlt)]
      cases i - e.chars.length <;> rfl
  have hmem : 0 ∈ bufferChars n (stringBytes e) := by
    rw [hchars]
    exact List.mem_append_right _ (List.mem_replicate.2 ⟨by omega, rfl⟩)
  have hread : (bufferChars n (stringBytes e)).takeWhile (· ≠ 0) = e.chars := by
    rw [hchars]
    exact takeWhile_append_replicate e.noNul _
  unfold bufferString
  rw [if_pos hmem]
  simp only [hread]

end RansomShield
