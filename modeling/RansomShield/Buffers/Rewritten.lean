import RansomShield.System.Allowlist

/-!
# A request that is rewritten while it is handled

The input buffer is memory of the client, whose threads may write to it between any two reads of the
driver.  So a request is what its reads return (`RewrittenRequest`): the values of `EntryCount`, one
read after the other, and the characters of the entries.  The loop reads `EntryCount` again at each
turn (`RewrittenRequest.addEntries`); it ends, since its index is a `ULONG`, which no `ULONG`
exceeds at its maximum.  A request that nobody rewrites is handled as a list of bytes is
(`RewrittenRequest.allowlistRequest_ofBytes`).
-/

namespace RansomShield

/-- What the reads of a request return. -/
structure RewrittenRequest where
  /-- `EntryCount`, at each of its reads. -/
  entryCount : ℕ → UInt32
  /-- `Entries[i][j]`, at each read of an entry. -/
  entries : ℕ → ℕ → ℕ → UInt16

/-- The driver, and the characters that have been read: their entries and their indices there. -/
structure EntryProgress where
  driver : DriverState
  accesses : List (ℕ × ℕ)

/-- The outcome of a case of the handler. -/
structure RewrittenOutcome extends EntryProgress where
  status : NtStatus
  /-- `*ReturnOutputBufferLength`. -/
  returnLength : ℕ

namespace RewrittenRequest

/-- A request that nobody rewrites, with its count at an offset. -/
def ofBytes (bytes : List UInt8) (countOffset : ℕ) : RewrittenRequest where
  entryCount _ := readUlong bytes countOffset
  entries _ i j := readWchar bytes (countOffset + 4 + 520 * i + 2 * j)

variable (r : RewrittenRequest)

/-- `while (len < n && p[len] != L'\0') { len++; }` from a value of `len` on, for at most `n`
characters: the last value of `len`, and the characters that have been read. -/
def scan (i : ℕ) : ℕ → ℕ → List (ℕ × ℕ) → ℕ × List (ℕ × ℕ)
  | 0, len, accesses => (len, accesses)
  | n + 1, len, accesses =>
    if r.entries accesses.length i len = 0 then (len, accesses ++ [(i, len)])
    else scan i n (len + 1) (accesses ++ [(i, len)])

/-- `RtlCopyMemory` of the first `copyLen` characters. -/
def copy (i copyLen : ℕ) (accesses : List (ℕ × ℕ)) : List UInt16 × List (ℕ × ℕ) :=
  ((List.range copyLen).map fun j => r.entries (accesses.length + j) i j,
    accesses ++ (List.range copyLen).map fun j => (i, j))

/-- `RsAddDynamicAllowlistEntry(request->Entries[i], len)`. -/
def addDynamicAllowlistEntry (i len : ℕ) (p : EntryProgress) : EntryProgress :=
  if len = 0 then p
  else if p.driver.dynamicAllowlistCount.1 < UInt32.ofNat rsMaxAllowlistEntries then
    let (entry, accesses) := r.copy i (min len (rsMaxAllowlistNameLen - 1)) p.accesses
    { driver := rsAddDynamicAllowlistEntry p.driver entry, accesses := accesses }
  else p

/-- The body of the loop. -/
def addEntry (i : ℕ) (p : EntryProgress) : EntryProgress :=
  let (len, accesses) := r.scan i (rsMaxAllowlistNameLen - 1) 0 p.accesses
  r.addDynamicAllowlistEntry i len { p with accesses := accesses }

/-- `for (; i < request->EntryCount; i++)`.  The count was read once before the loop. -/
def addEntries (i : ℕ) (p : EntryProgress) : EntryProgress :=
  if i < (r.entryCount (i + 1)).toNat then addEntries (i + 1) (r.addEntry i p) else p
  termination_by 2 ^ 32 - i
  decreasing_by
    have := (r.entryCount (i + 1)).toNat_lt
    omega

section

variable (s : DriverState) (inputBufferLength : ℕ) (output : Option ℕ)

/-- A request that is refused. -/
def refused (s : DriverState) (status : NtStatus) (returnLength : ℕ) : RewrittenOutcome where
  driver := s
  accesses := []
  status := status
  returnLength := returnLength

/-- The cases that add allowlist entries: the request has `size` bytes and at most `maxEntries`
entries. -/
def allowlistRequest (size maxEntries : ℕ) : RewrittenOutcome :=
  if inputBufferLength < size then refused s .invalidParameter 0
  else
    match output with
    | none => refused s .bufferTooSmall sizeofReplyGeneric
    | some length =>
      if length < sizeofReplyGeneric then refused s .bufferTooSmall sizeofReplyGeneric
      else if maxEntries < (r.entryCount 0).toNat then refused s .invalidParameter 0
      else
        let p := r.addEntries 0 ⟨s, []⟩
        { driver := drawSequence p.driver
          accesses := p.accesses
          status := .success
          returnLength := sizeofReplyGeneric }

/-- Case `RsUpdateAllowlistChunk`. -/
def updateAllowlistChunk : RewrittenOutcome :=
  r.allowlistRequest s inputBufferLength output sizeofRequestUpdateAllowlistChunk
    rsMaxAllowlistChunk

/-- Case `RsUpdateAllowlistFull`. -/
def updateAllowlistFull : RewrittenOutcome :=
  r.allowlistRequest s inputBufferLength output sizeofRequestUpdateAllowlistFull
    rsMaxAllowlistEntries

end

/-! ### A request that nobody rewrites -/

section

variable (bytes : List UInt8) (countOffset : ℕ)

theorem scan_ofBytes (i n len : ℕ) (accesses : List (ℕ × ℕ)) :
    ((ofBytes bytes countOffset).scan i n len accesses).1 =
      len + (scanEntry bytes n (countOffset + 4 + 520 * i + 2 * len)).length := by
  induction n generalizing len accesses with
  | zero => rfl
  | succ n ih =>
    have hshift : countOffset + 4 + 520 * i + 2 * (len + 1) =
        countOffset + 4 + 520 * i + 2 * len + 2 := by omega
    have hread : (ofBytes bytes countOffset).entries accesses.length i len =
        readWchar bytes (countOffset + 4 + 520 * i + 2 * len) := rfl
    simp only [scan, scanEntry, hread]
    split_ifs with hzero
    · rfl
    · rw [ih, hshift, List.length_cons]
      omega

theorem length_scanEntry_le (bytes : List UInt8) (n offset : ℕ) :
    (scanEntry bytes n offset).length ≤ n := by
  rw [scanEntry_eq_takeWhile]
  refine (List.takeWhile_sublist _).length_le.trans ?_
  rw [List.length_map, List.length_range]

theorem map_range_length_scanEntry (bytes : List UInt8) (n offset : ℕ) :
    ((List.range (scanEntry bytes n offset).length).map fun j =>
      readWchar bytes (offset + 2 * j)) = scanEntry bytes n offset := by
  have hle := length_scanEntry_le bytes n offset
  have hprefix : scanEntry bytes n offset <+:
      (List.range n).map fun j => readWchar bytes (offset + 2 * j) := by
    rw [scanEntry_eq_takeWhile]
    exact List.takeWhile_prefix _
  conv_rhs => rw [List.prefix_iff_eq_take.1 hprefix]
  rw [← List.map_take, List.take_range, Nat.min_eq_left hle]

/-- **The body of the loop**, when nobody rewrites the request. -/
theorem driver_addEntry_ofBytes (i : ℕ) (p : EntryProgress) :
    ((ofBytes bytes countOffset).addEntry i p).driver =
      rsAddDynamicAllowlistEntry p.driver
        (scanEntry bytes (rsMaxAllowlistNameLen - 1) (countOffset + 4 + 520 * i)) := by
  have hlen := scan_ofBytes bytes countOffset i (rsMaxAllowlistNameLen - 1) 0 p.accesses
  rw [Nat.zero_add, Nat.mul_zero, Nat.add_zero] at hlen
  rw [addEntry]
  dsimp only
  rw [hlen, addDynamicAllowlistEntry]
  split_ifs with hnil hroom
  · rw [rsAddDynamicAllowlistEntry, if_pos hnil]
  · rw [copy, Nat.min_eq_left (length_scanEntry_le ..)]
    exact congrArg (rsAddDynamicAllowlistEntry p.driver)
      (map_range_length_scanEntry bytes _ (countOffset + 4 + 520 * i))
  · rw [rsAddDynamicAllowlistEntry, if_neg hnil, dif_neg hroom]

/-- **The loop**, when nobody rewrites the request. -/
theorem driver_addEntries_ofBytes (i k : ℕ) (p : EntryProgress)
    (hk : (readUlong bytes countOffset).toNat = i + k) :
    ((ofBytes bytes countOffset).addEntries i p).driver =
      (List.range' i k).foldl (fun s i => rsAddDynamicAllowlistEntry s
        (scanEntry bytes (rsMaxAllowlistNameLen - 1) (countOffset + 4 + 520 * i))) p.driver := by
  induction k generalizing i p with
  | zero =>
    rw [addEntries, if_neg]
    · rfl
    · exact not_lt.2 hk.le
  | succ k ih =>
    rw [addEntries, if_pos, ih _ _ (by omega), driver_addEntry_ofBytes]
    · rfl
    · have hread : ((ofBytes bytes countOffset).entryCount (i + 1)).toNat = i + (k + 1) := hk
      omega

/-- **A request that nobody rewrites** has the outcome that it has as a list of bytes. -/
theorem allowlistRequest_ofBytes (s : DriverState) (t : RsMessageType) (output : Option ℕ)
    (size maxEntries : ℕ) :
    let o := (ofBytes bytes countOffset).allowlistRequest s bytes.length output size maxEntries
    let m := RansomShield.allowlistRequest s t size maxEntries countOffset bytes output
    o.driver = m.state ∧ o.status = m.status ∧ o.returnLength = m.returnLength := by
  dsimp only
  unfold allowlistRequest RansomShield.allowlistRequest withOutputBuffer
  by_cases hsize : bytes.length < size
  · simp only [if_pos hsize]
    exact ⟨rfl, rfl, rfl⟩
  simp only [if_neg hsize]
  cases output with
  | none => exact ⟨rfl, rfl, rfl⟩
  | some length =>
    dsimp only
    by_cases hlength : length < sizeofReplyGeneric
    · simp only [if_pos hlength]
      exact ⟨rfl, rfl, rfl⟩
    simp only [if_neg hlength]
    have hread : (ofBytes bytes countOffset).entryCount 0 = readUlong bytes countOffset := rfl
    rw [hread]
    by_cases hcount : maxEntries < (readUlong bytes countOffset).toNat
    · simp only [if_pos hcount]
      exact ⟨rfl, rfl, rfl⟩
    simp only [if_neg hcount, genericRequest, withOutputBuffer, hlength, if_false, and_true]
    rw [driver_addEntries_ofBytes _ _ 0 _ _ (Nat.zero_add _).symm, ← List.range_eq_range']
    rfl

end

end RewrittenRequest

end RansomShield
