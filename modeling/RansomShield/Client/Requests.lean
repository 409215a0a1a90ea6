import RansomShield.System.Allowlist

/-!
# The allowlist requests of the client

The requests that `CommManager::PushAllowlist` builds, as the bytes that `FilterSendMessage` passes
to the driver, and the same as messages that the driver accepts.  The driver reads the entries back
that the client has written (`rawEntries_entryBytes`), so the entries that arrive are those of the
client (`chunkMessage_entries`, `fullMessage_entries`).
-/

namespace RansomShield

/-! ### Strings -/

/-- A `std::wstring` without embedded NULs. -/
structure WString where
  chars : List UInt16
  noNul : 0 ∉ chars
  deriving DecidableEq

/-- What `wcsncpy_s` with `_TRUNCATE` leaves in an entry that was zeroed. -/
def wcsncpyS (e : WString) : AllowlistEntry := padded (e.chars.take (rsMaxAllowlistNameLen - 1))

theorem isName_take (e : WString) : IsName (e.chars.take (rsMaxAllowlistNameLen - 1)) :=
  ⟨List.length_take_le _ _, fun h => e.noNul (List.mem_of_mem_take h)⟩

/-- The driver cuts the entry where the client has cut it. -/
theorem cut_wcsncpyS (e : WString) :
    cut (wcsncpyS e) = e.chars.take (rsMaxAllowlistNameLen - 1) :=
  cut_padded (isName_take e)

/-! ### Bytes -/

/-- The bytes of an entry. -/
def entryBytes (e : AllowlistEntry) : List UInt8 := (List.ofFn e).flatMap wcharBytes

theorem length_flatMap_of_length {α β : Type*} {f : α → List β} {w : ℕ}
    (hf : ∀ a, (f a).length = w) (l : List α) : (l.flatMap f).length = w * l.length := by
  simp [List.length_flatMap, hf, Nat.mul_comm]

/-- Blocks of equal length are read back one by one. -/
theorem getD_flatMap {α β : Type*} {f : α → List β} {w : ℕ} (hf : ∀ a, (f a).length = w)
    (l : List α) {i k : ℕ} (hi : i < l.length) (hk : k < w) (d : β) :
    (l.flatMap f).getD (w * i + k) d = (f l[i]).getD k d := by
  induction l generalizing i with
  | nil => cases hi
  | cons a l ih =>
    rw [List.flatMap_cons]
    cases i with
    | zero => simp [List.getElem?_append_left (hf a ▸ hk)]
    | succ i =>
      have hlt : i < l.length := Nat.lt_of_succ_lt_succ hi
      rw [List.getD_append_right _ _ _ _ (by rw [hf, Nat.mul_succ]; omega), hf,
        show w * (i + 1) + k - w = w * i + k by rw [Nat.mul_succ]; omega, ih hlt,
        List.getElem_cons_succ]

@[simp] theorem length_entryBytes (e : AllowlistEntry) : (entryBytes e).length = 520 := by
  rw [entryBytes, length_flatMap_of_length length_wcharBytes, List.length_ofFn]
  rfl

theorem readWchar_entryBytes (front : List UInt8) (es : List AllowlistEntry) {i : ℕ}
    (hi : i < es.length) (j : Fin rsMaxAllowlistNameLen) :
    readWchar (front ++ es.flatMap entryBytes) (front.length + 520 * i + 2 * j.val) =
      es[i] j := by
  have hj : j.val < 260 := j.2
  have hbyte : ∀ k < 2, (front ++ es.flatMap entryBytes).getD
      (front.length + 520 * i + 2 * j.val + k) 0 = (wcharBytes (es[i] j)).getD k 0 := by
    intro k hk
    have hoffset : front.length + 520 * i + 2 * j.val + k =
        front.length + (520 * i + (2 * j.val + k)) := by omega
    rw [hoffset, List.getD_append_right _ _ _ _ (Nat.le_add_right _ _), Nat.add_sub_cancel_left,
      getD_flatMap length_entryBytes es hi (by omega), entryBytes,
      getD_flatMap length_wcharBytes _ (by rw [List.length_ofFn]; exact j.2) hk, List.getElem_ofFn]
  have hlt := (es[i] j).toNat_lt
  have hzero := hbyte 0 (by decide)
  rw [Nat.add_zero] at hzero
  rw [readWchar, hzero, hbyte 1 (by decide)]
  -- the character is the sum of its two digits to the base 256
  apply UInt16.toNat_inj.1
  simp only [wcharBytes, List.getD_cons_zero, List.getD_cons_succ, UInt8.toNat_ofNat',
    UInt16.toNat_ofNat']
  omega

/-- **The driver reads the entries back** that the client has written. -/
theorem rawEntries_entryBytes (front : List UInt8) (es : List AllowlistEntry) {n : ℕ}
    (hn : n ≤ es.length) :
    rawEntries (front ++ es.flatMap entryBytes) front.length n = es.take n := by
  refine List.ext_getElem ?_ ?_
  · rw [rawEntries, List.length_map, List.length_range, List.length_take, Nat.min_eq_left hn]
  intro i hi hi'
  rw [rawEntries, List.length_map, List.length_range] at hi
  simp only [rawEntries, List.getElem_map, List.getElem_range, List.getElem_take]
  funext j
  exact readWchar_entryBytes front es (hi.trans_le hn) j

/-! ### Requests -/

/-- `MakeHeader`, with the sequence number that it draws. -/
def makeHeader (sequenceNumber : UInt32) (messageType : RsMessageType) (messageSize : ℕ) :
    List UInt8 :=
  ulongBytes messageType.code ++ (ulongBytes (UInt32.ofNat messageSize) ++
    (ulongBytes sequenceNumber ++ ulongBytes rsProtocolVersion))

/-- The array of entries of a request that was zeroed. -/
def entriesArray (size : ℕ) (entries : List WString) : List AllowlistEntry :=
  entries.map wcsncpyS ++ List.replicate (size - entries.length) fun _ => 0

/-- The request `RS_REQUEST_CLEAR_ALLOWLIST`. -/
def clearRequest (sequenceNumber : UInt32) : List UInt8 :=
  makeHeader sequenceNumber .clearAllowlist sizeofMessageHeader

/-- The request `RS_REQUEST_UPDATE_ALLOWLIST_CHUNK`. -/
def chunkRequest (sequenceNumber : UInt32) (chunkIndex chunkCount : ℕ) (entries : List WString) :
    List UInt8 :=
  (makeHeader sequenceNumber .updateAllowlistChunk sizeofRequestUpdateAllowlistChunk ++
    (ulongBytes (UInt32.ofNat chunkIndex) ++ (ulongBytes (UInt32.ofNat chunkCount) ++
      ulongBytes (UInt32.ofNat entries.length)))) ++
    (entriesArray rsMaxAllowlistChunk entries).flatMap entryBytes

/-- The request `RS_REQUEST_UPDATE_ALLOWLIST_FULL`. -/
def fullRequest (sequenceNumber : UInt32) (entries : List WString) : List UInt8 :=
  (makeHeader sequenceNumber .updateAllowlistFull sizeofRequestUpdateAllowlistFull ++
    ulongBytes (UInt32.ofNat entries.length)) ++
    (entriesArray rsMaxAllowlistEntries entries).flatMap entryBytes

theorem length_entriesArray {size : ℕ} {entries : List WString} (h : entries.length ≤ size) :
    (entriesArray size entries).length = size := by
  rw [entriesArray, List.length_append, List.length_map, List.length_replicate]
  omega

theorem take_entriesArray (size : ℕ) (entries : List WString) :
    (entriesArray size entries).take entries.length = entries.map wcsncpyS := by
  rw [entriesArray, List.take_append_of_le_length (by rw [List.length_map]),
    List.take_of_length_le (by rw [List.length_map])]

theorem requestType_of_code {bytes : List UInt8} {t : RsMessageType} (ht : t ∈ requestTypes)
    (h : readUlong bytes 0 = t.code) : requestType bytes = some t := by
  rw [requestType, h]
  cases t with
  | notifyBlockedPid | notifyConfigUpdated | notifyAllowlistUpdated | replyBlockedPids
  | replyUnblockPid => exact absurd ht (by decide)
  | _ => rfl

theorem isRequest_makeHeader {sequenceNumber : UInt32} {t : RsMessageType} {size : ℕ}
    {rest : List UInt8} (ht : t ∈ requestTypes) (hsize : size = sizeofMessageHeader + rest.length)
    (hlt : size < 2 ^ 32) : IsRequest (makeHeader sequenceNumber t size ++ rest) t := by
  have hlen : (makeHeader sequenceNumber t size ++ rest).length = size := by
    rw [List.length_append, hsize]
    rfl
  have hcode : readUlong (makeHeader sequenceNumber t size ++ rest) 0 = t.code := by
    simp only [makeHeader, List.append_assoc]
    exact readUlong_ulongBytes [] t.code _
  have hread : readUlong (makeHeader sequenceNumber t size ++ rest) 4 = UInt32.ofNat size := by
    simp only [makeHeader, List.append_assoc]
    exact readUlong_ulongBytes (ulongBytes t.code) _ _
  refine ⟨?_, ?_, requestType_of_code ht hcode⟩
  · rw [hlen, hsize]
    exact Nat.le_add_right _ _
  · rw [hlen, hread, UInt32.toNat_ofNat', Nat.mod_eq_of_lt hlt]

/-! ### The driver accepts the requests -/

/-- An accepted request whose entries are counted at the offset and follow the counter. -/
theorem allowlistRequest_status_success (s : DriverState) {t : RsMessageType}
    {size maxEntries countOffset : ℕ} {bytes : List UInt8} (hsize : size ≤ bytes.length)
    (hcount : (readUlong bytes countOffset).toNat ≤ maxEntries) :
    (allowlistRequest s t size maxEntries countOffset bytes (some sizeofReplyGeneric)).status =
      .success := by
  unfold allowlistRequest
  rw [if_neg (not_lt.2 hsize), withOutputBuffer_of_le le_rfl]
  simp only [if_neg (not_lt.2 hcount)]
  rw [genericRequest, withOutputBuffer_of_le le_rfl]

theorem length_entriesBytes {size : ℕ} {entries : List WString} (h : entries.length ≤ size) :
    ((entriesArray size entries).flatMap entryBytes).length = 520 * size := by
  rw [length_flatMap_of_length length_entryBytes, length_entriesArray h]

theorem isRequest_clear (sequenceNumber : UInt32) :
    IsRequest (clearRequest sequenceNumber) .clearAllowlist := by
  rw [clearRequest, ← List.append_nil (makeHeader ..)]
  exact isRequest_makeHeader (by decide) rfl (by decide)

/-- The clear request of the client. -/
def clearMessage (sequenceNumber : UInt32) : AllowlistMessage where
  bytes := clearRequest sequenceNumber
  outputLength := sizeofReplyGeneric
  type := .inl (isRequest_clear sequenceNumber).type
  accepted s := by
    rw [(isRequest_clear sequenceNumber).eq_requestCase]
    rfl

section Chunk

variable (sequenceNumber : UInt32) (chunkIndex chunkCount : ℕ) {entries : List WString}

theorem isRequest_chunk (h : entries.length ≤ rsMaxAllowlistChunk) :
    IsRequest (chunkRequest sequenceNumber chunkIndex chunkCount entries)
      .updateAllowlistChunk := by
  have hfields : (ulongBytes (UInt32.ofNat chunkIndex) ++ (ulongBytes (UInt32.ofNat chunkCount) ++
      ulongBytes (UInt32.ofNat entries.length))).length = 12 := rfl
  rw [chunkRequest, List.append_assoc]
  refine isRequest_makeHeader (by decide) ?_ (by decide)
  rw [List.length_append, length_entriesBytes h, hfields]
  rfl

theorem chunkRequest_entryCount (h : entries.length ≤ rsMaxAllowlistChunk) :
    (readUlong (chunkRequest sequenceNumber chunkIndex chunkCount entries) 24).toNat =
      entries.length := by
  have hread : readUlong (chunkRequest sequenceNumber chunkIndex chunkCount entries) 24 =
      UInt32.ofNat entries.length := by
    have hbytes : chunkRequest sequenceNumber chunkIndex chunkCount entries =
        (makeHeader sequenceNumber .updateAllowlistChunk sizeofRequestUpdateAllowlistChunk ++
          (ulongBytes (UInt32.ofNat chunkIndex) ++ ulongBytes (UInt32.ofNat chunkCount))) ++
        (ulongBytes (UInt32.ofNat entries.length) ++
          (entriesArray rsMaxAllowlistChunk entries).flatMap entryBytes) := by
      simp only [chunkRequest, List.append_assoc]
    rw [hbytes]
    exact readUlong_ulongBytes _ _ _
  have hlen : entries.length ≤ 32 := h
  rw [hread, UInt32.toNat_ofNat', Nat.mod_eq_of_lt (by omega)]

/-- A chunk request of the client. -/
def chunkMessage (h : entries.length ≤ rsMaxAllowlistChunk) : AllowlistMessage where
  bytes := chunkRequest sequenceNumber chunkIndex chunkCount entries
  outputLength := sizeofReplyGeneric
  type := .inr (.inl (isRequest_chunk sequenceNumber chunkIndex chunkCount h).type)
  accepted s := by
    rw [(isRequest_chunk sequenceNumber chunkIndex chunkCount h).eq_requestCase]
    refine allowlistRequest_status_success s ?_ ?_
    · rw [chunkRequest, List.length_append, length_entriesBytes h]
      exact le_rfl
    · rw [chunkRequest_entryCount sequenceNumber chunkIndex chunkCount h]
      exact h

/-- **The driver reads the entries of a chunk.** -/
theorem chunkMessage_entries (h : entries.length ≤ rsMaxAllowlistChunk) :
    (chunkMessage sequenceNumber chunkIndex chunkCount h).entries = entries.map wcsncpyS := by
  have htype := (isRequest_chunk sequenceNumber chunkIndex chunkCount h).type
  simp only [AllowlistMessage.entries, chunkMessage, htype,
    chunkRequest_entryCount sequenceNumber chunkIndex chunkCount h]
  rw [← take_entriesArray rsMaxAllowlistChunk]
  refine rawEntries_entryBytes _ _ ?_
  rw [length_entriesArray h]
  exact h

end Chunk

section Full

variable (sequenceNumber : UInt32) {entries : List WString}

theorem isRequest_full (h : entries.length ≤ rsMaxAllowlistEntries) :
    IsRequest (fullRequest sequenceNumber entries) .updateAllowlistFull := by
  have hfields : (ulongBytes (UInt32.ofNat entries.length)).length = 4 := rfl
  rw [fullRequest, List.append_assoc]
  refine isRequest_makeHeader (by decide) ?_ (by decide)
  rw [List.length_append, length_entriesBytes h, hfields]
  rfl

theorem fullRequest_entryCount (h : entries.length ≤ rsMaxAllowlistEntries) :
    (readUlong (fullRequest sequenceNumber entries) 16).toNat = entries.length := by
  have hread : readUlong (fullRequest sequenceNumber entries) 16 =
      UInt32.ofNat entries.length := by
    rw [fullRequest, List.append_assoc]
    exact readUlong_ulongBytes _ _ _
  have hlen : entries.length ≤ 128 := h
  rw [hread, UInt32.toNat_ofNat', Nat.mod_eq_of_lt (by omega)]

/-- The full request of the client. -/
def fullMessage (h : entries.length ≤ rsMaxAllowlistEntries) : AllowlistMessage where
  bytes := fullRequest sequenceNumber entries
  outputLength := sizeofReplyGeneric
  type := .inr (.inr (isRequest_full sequenceNumber h).type)
  accepted s := by
    rw [(isRequest_full sequenceNumber h).eq_requestCase]
    refine allowlistRequest_status_success s ?_ ?_
    · rw [fullRequest, List.length_append, length_entriesBytes h]
      exact le_rfl
    · rw [fullRequest_entryCount sequenceNumber h]
      exact h

/-- **The driver reads the entries of a full message.** -/
theorem fullMessage_entries (h : entries.length ≤ rsMaxAllowlistEntries) :
    (fullMessage sequenceNumber h).entries = entries.map wcsncpyS := by
  have htype := (isRequest_full sequenceNumber h).type
  simp only [AllowlistMessage.entries, fullMessage, htype, fullRequest_entryCount sequenceNumber h]
  rw [← take_entriesArray rsMaxAllowlistEntries]
  refine rawEntries_entryBytes _ _ ?_
  rw [length_entriesArray h]
  exact h

end Full

end RansomShield
