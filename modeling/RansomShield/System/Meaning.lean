import RansomShield.System.Allowlist

/-!
# What a message asks for

`RsMessageNotifyCallback` reads a buffer while it handles it.  Here the two are taken apart: a
buffer has a `meaning`, and a meaning is carried out (`DriverRequest.serve`).  The handler carries
out the meaning of its buffer (`rsMessageNotifyCallback_eq_serve`).  The names in the meaning of an
allowlist message are those that can be added (`EntryNames`), so that a meaning has one form only.
-/

namespace RansomShield

/-! ### Meanings -/

/-- At most `maxEntries` names, each of them neither empty nor too long. -/
structure EntryNames (maxEntries : ℕ) where
  names : List (List UInt16)
  length_le : names.length ≤ maxEntries
  isName : ∀ name ∈ names, IsName name
  nonempty : ∀ name ∈ names, name ≠ []
  deriving DecidableEq

namespace EntryNames

variable {maxEntries : ℕ}

theorem ext_names {entries entries' : EntryNames maxEntries}
    (h : entries.names = entries'.names) : entries = entries' := by
  cases entries
  cases entries'
  cases h
  rfl

/-- The names in the first entries of the array at offset `base`. -/
def scan (bytes : List UInt8) (base : ℕ) {entryCount : ℕ} (h : entryCount ≤ maxEntries) :
    EntryNames maxEntries where
  names := ((List.range entryCount).map fun i =>
    scanEntry bytes (rsMaxAllowlistNameLen - 1) (base + 520 * i)).filter (· ≠ [])
  length_le := by
    refine (List.length_filter_le _ _).trans ?_
    rwa [List.length_map, List.length_range]
  isName name hname := by
    obtain ⟨i, -, rfl⟩ := List.mem_map.1 (List.mem_of_mem_filter hname)
    rw [scanEntry_eq_cut]
    exact isName_cut _
  nonempty name hname := by simpa using List.of_mem_filter hname

/-- Add the names to the dynamic allowlist. -/
def add (entries : EntryNames maxEntries) (s : DriverState) : DriverState :=
  entries.names.foldl rsAddDynamicAllowlistEntry s

end EntryNames

/-- What a message asks for. -/
inductive DriverRequest
  /-- `STATUS_INVALID_PARAMETER`, whatever the output buffer is. -/
  | refused
  /-- An allowlist message with too many entries: the output buffer is checked before. -/
  | tooManyEntries
  | queryBlockedPids
  | requestUnblockPid (processId : UInt32)
  | queryConfig
  | queryAllowlist
  | requestPause
  | requestResume
  | updateConfig (fileCountThreshold timeWindowSeconds : UInt32) (monitoringEnabled : UInt8)
  | clearAllowlist
  | updateAllowlistChunk (entries : EntryNames rsMaxAllowlistChunk)
  | updateAllowlistFull (entries : EntryNames rsMaxAllowlistEntries)
  deriving DecidableEq

/-- The meaning of an allowlist message. -/
def allowlistMeaning {maxEntries : ℕ} (request : EntryNames maxEntries → DriverRequest)
    (size countOffset : ℕ) (bytes : List UInt8) : DriverRequest :=
  if bytes.length < size then .refused
  else if h : (readUlong bytes countOffset).toNat ≤ maxEntries then
    request (EntryNames.scan bytes (countOffset + 4) h)
  else .tooManyEntries

/-- The meaning of a buffer whose header is that of a request. -/
def requestMeaning (bytes : List UInt8) : RsMessageType → DriverRequest
  | .queryBlockedPids => .queryBlockedPids
  | .requestUnblockPid =>
    if bytes.length < sizeofRequestUnblockPid then .refused
    else .requestUnblockPid (readUlong bytes 16)
  | .queryConfig => .queryConfig
  | .queryAllowlist => .queryAllowlist
  | .requestPause => .requestPause
  | .requestResume => .requestResume
  | .updateConfig =>
    if bytes.length < sizeofRequestUpdateConfig then .refused
    else .updateConfig (readUlong bytes 16) (readUlong bytes 20) (bytes.getD 24 0)
  | .clearAllowlist => .clearAllowlist
  | .updateAllowlistChunk =>
    allowlistMeaning .updateAllowlistChunk sizeofRequestUpdateAllowlistChunk 24 bytes
  | .updateAllowlistFull =>
    allowlistMeaning .updateAllowlistFull sizeofRequestUpdateAllowlistFull 16 bytes
  | _ => .refused

/-- The meaning of a buffer. -/
def meaning (bytes : List UInt8) : DriverRequest :=
  if bytes.length < sizeofMessageHeader ∨ bytes.length < (readUlong bytes 4).toNat then .refused
  else (requestType bytes).elim .refused (requestMeaning bytes)

/-- How a meaning is carried out. -/
def DriverRequest.serve (s : DriverState) (output : Option ℕ) : DriverRequest → MessageOutcome
  | .refused => invalidParameter s
  | .tooManyEntries => withOutputBuffer s output sizeofReplyGeneric (invalidParameter s)
  | .queryBlockedPids => RansomShield.queryBlockedPids s output
  | .requestUnblockPid processId =>
    withOutputBuffer s output sizeofReplyUnblockPid
      { state := rsUnblockProcess (drawSequence s) processId
        status := .success
        returnLength := sizeofReplyUnblockPid
        reply := some (.unblockPid (replyHeader s .replyUnblockPid sizeofReplyUnblockPid)
          .success processId) }
  | .queryConfig => RansomShield.queryConfig s output
  | .queryAllowlist => RansomShield.queryAllowlist s output
  | .requestPause => RansomShield.requestPause s output
  | .requestResume => RansomShield.requestResume s output
  | .updateConfig fileCountThreshold timeWindowSeconds monitoringEnabled =>
    genericRequest s .updateConfig output fun s =>
      rsApplyConfig s fileCountThreshold timeWindowSeconds monitoringEnabled
  | .clearAllowlist => RansomShield.clearAllowlist s output
  | .updateAllowlistChunk entries => genericRequest s .updateAllowlistChunk output entries.add
  | .updateAllowlistFull entries => genericRequest s .updateAllowlistFull output entries.add

/-! ### The handler carries out the meaning -/

section

variable {s : DriverState} {bytes : List UInt8} {output : Option ℕ}

/-- **Empty names are skipped**, wherever they stand. -/
theorem addEntries_eq_add {maxEntries base entryCount : ℕ} (h : entryCount ≤ maxEntries) :
    addEntries bytes base entryCount s = (EntryNames.scan bytes base h).add s := by
  have hskip : ∀ (names : List (List UInt16)) (s : DriverState),
      names.foldl rsAddDynamicAllowlistEntry s =
        (names.filter (· ≠ [])).foldl rsAddDynamicAllowlistEntry s := by
    intro names
    induction names with
    | nil => exact fun _ => rfl
    | cons name names ih =>
      intro s
      by_cases hname : name = []
      · have hsame : rsAddDynamicAllowlistEntry s name = s := by
          rw [rsAddDynamicAllowlistEntry, if_pos (List.length_eq_zero_iff.2 hname)]
        rw [List.foldl_cons, hsame, ih, List.filter_cons_of_neg (by simpa using hname)]
      · rw [List.foldl_cons, ih, List.filter_cons_of_pos (by simpa using hname), List.foldl_cons]
  rw [addEntries, EntryNames.add, EntryNames.scan, ← hskip, List.foldl_map]

theorem withOutputBuffer_twice {size : ℕ} {go : MessageOutcome} :
    withOutputBuffer s output size (withOutputBuffer s output size go) =
      withOutputBuffer s output size go := by
  cases output with
  | none => rfl
  | some length =>
    unfold withOutputBuffer
    simp only []
    split_ifs
    · rfl
    · rfl

theorem allowlistRequest_eq_serve {t : RsMessageType} {size maxEntries countOffset : ℕ}
    {request : EntryNames maxEntries → DriverRequest}
    (hrequest : ∀ entries, (request entries).serve s output =
      genericRequest s t output entries.add) :
    allowlistRequest s t size maxEntries countOffset bytes output =
      (allowlistMeaning request size countOffset bytes).serve s output := by
  unfold allowlistRequest allowlistMeaning
  by_cases hsize : bytes.length < size
  · rw [if_pos hsize, if_pos hsize]
    rfl
  rw [if_neg hsize, if_neg hsize]
  by_cases hcount : (readUlong bytes countOffset).toNat ≤ maxEntries
  · have hadd : addEntries bytes (countOffset + 4) (readUlong bytes countOffset).toNat =
        (EntryNames.scan bytes (countOffset + 4) hcount).add :=
      funext fun _ => addEntries_eq_add hcount
    simp only [if_neg (not_lt.2 hcount)]
    rw [dif_pos hcount, hrequest, hadd, genericRequest, withOutputBuffer_twice]
  · simp only [if_pos (not_le.1 hcount)]
    rw [dif_neg hcount]
    rfl

theorem requestCase_eq_serve (t : RsMessageType) :
    requestCase s bytes output t = (requestMeaning bytes t).serve s output := by
  cases t with
  | requestUnblockPid =>
    rw [requestCase, requestMeaning, requestUnblockPid]
    split_ifs
    · rfl
    · rfl
  | updateConfig =>
    rw [requestCase, requestMeaning, updateConfig]
    split_ifs
    · rfl
    · rfl
  | updateAllowlistChunk => exact allowlistRequest_eq_serve fun _ => rfl
  | updateAllowlistFull => exact allowlistRequest_eq_serve fun _ => rfl
  | _ => rfl

theorem IsRequest.meaning_eq {t : RsMessageType} (h : IsRequest bytes t) :
    meaning bytes = requestMeaning bytes t := by
  rw [meaning, if_neg (by rw [not_or, not_lt, not_lt]; exact ⟨h.header, h.size⟩), h.type]
  rfl

/-- **The handler carries out the meaning of its buffer.** -/
theorem rsMessageNotifyCallback_eq_serve (s : DriverState) (bytes : List UInt8)
    (output : Option ℕ) :
    rsMessageNotifyCallback s (some bytes) output = (meaning bytes).serve s output := by
  by_cases hrequest : ∃ t, IsRequest bytes t
  · obtain ⟨t, ht⟩ := hrequest
    rw [ht.eq_requestCase, ht.meaning_eq, requestCase_eq_serve]
  have hrefused : meaning bytes = .refused := by
    unfold meaning
    split_ifs with hsize
    · rfl
    rw [not_or, not_lt, not_lt] at hsize
    cases htype : requestType bytes with
    | none => rfl
    | some t => exact absurd ⟨t, hsize.1, hsize.2, htype⟩ hrequest
  rcases rsMessageNotifyCallback_cases s bytes output with heq | ⟨t, ht, -⟩
  · rw [heq, hrefused]
    rfl
  · exact absurd ⟨t, ht⟩ hrequest

end

end RansomShield
