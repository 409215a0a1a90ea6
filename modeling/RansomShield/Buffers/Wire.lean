import RansomShield.Buffers.Refinement
import RansomShield.Memory.Fields
import RansomShield.Tracker.Slots

/-!
# The replies as they arrive

A reply is a record in the output buffer, which the client reads at the offsets of the C
structures; the message type in its header says which record it is (`Buffered.readReply`).  The
fields that the handler fills in do not overlap, except that some are written twice, so that what
the client reads is the reply of `Driver/CommPort.lean`, whatever was in the buffer
(`Buffered.readReply_output`).
-/

namespace RansomShield

/-- The `RS_MESSAGE_TYPE` with a value. -/
def RsMessageType.ofCode (code : UInt32) : Option RsMessageType :=
  (.notifyBlockedPid :: .notifyConfigUpdated :: .notifyAllowlistUpdated :: .replyBlockedPids ::
    .replyUnblockPid :: requestTypes).find? fun t => t.code = code

theorem RsMessageType.ofCode_code (t : RsMessageType) : ofCode t.code = some t := by
  cases t <;> rfl

namespace Buffered

/-! ### Reading records -/

/-- The `LONGLONG` at an offset. -/
def longlong (m : Memory) (offset : ℕ) : Int64 :=
  (UInt64.ofNat ((ulong m offset).toNat + 2 ^ 32 * (ulong m (offset + 4)).toNat)).toInt64

/-- The array of `WCHAR`s at an offset. -/
def wchars (m : Memory) (n offset : ℕ) : Fin n → UInt16 := fun i => wchar m (offset + 2 * i.val)

/-- The `RS_MESSAGE_HEADER` of a message. -/
def readHeader (m : Memory) : Option RsMessageHeader :=
  (RsMessageType.ofCode (ulong m 0)).map fun t =>
    { messageType := t
      messageSize := (ulong m 4).toNat
      sequenceNumber := ulong m 8
      protocolVersion := ulong m 12 }

/-- The `NTSTATUS` at an offset, when it is zero. -/
def readStatus (m : Memory) (offset : ℕ) : Option NtStatus :=
  if ulong m offset = 0 then some .success else none

/-- The `RS_BLOCKED_PID_ENTRY` at an offset. -/
def readBlockedEntry (m : Memory) (offset : ℕ) : RsBlockedPidEntry where
  processId := ulong m offset
  imageName := wchars m rsMaxImageNameLen (offset + 4)
  blockedTimestamp := longlong m (offset + 528)
  operationCount := ulong m (offset + 536)

/-- The elements of an array, the first one at offset `base`, that a counter says are there. -/
def readArray {α : Type} (read : ℕ → α) (base size max : ℕ) (count : UInt32) : List α :=
  (List.range (min count.toNat max)).map fun i => read (base + size * i)

/-- The reply in a memory, by the type in its header. -/
def readReply (m : Memory) : Option RsReply :=
  (readHeader m).bind fun header =>
    match header.messageType with
    | .replyBlockedPids => some (.blockedPids header (ulong m 16)
        (readArray (readBlockedEntry m) 24 544 rsMaxReportBlocked (ulong m 16)))
    | .replyUnblockPid =>
      (readStatus m 16).map fun status => .unblockPid header status (ulong m 20)
    | .queryConfig => some (.config header (ulong m 16) (ulong m 20) (m 24) (ulong m 28)
        (ulong m 32))
    | .queryAllowlist => some (.allowlist header (ulong m 16)
        (readArray (wchars m rsMaxAllowlistNameLen) 20 520 rsMaxAllowlistEntries (ulong m 16)))
    | _ => (readStatus m 16).map fun status => .generic header status

/-! ### Fields that are there -/

section

variable {m : Memory} {offset : ℕ}

theorem ulong_of_holds {value : UInt32} (h : (ulongField offset value).Holds m) :
    ulong m offset = value := by
  have hbyte : ∀ k < 4, m (offset + k) = (ulongBytes value).getD k 0 := by
    intro k hk
    rw [List.getD_eq_getElem _ _ hk]
    exact h k hk
  have hzero := hbyte 0 (by decide)
  rw [Nat.add_zero] at hzero
  have hread := readUlong_ulongBytes [] value []
  simp only [List.nil_append, List.append_nil, List.length_nil, readUlong] at hread
  rw [ulong, hzero, hbyte 1 (by decide), hbyte 2 (by decide), hbyte 3 (by decide)]
  exact hread

theorem longlong_of_holds {value : Int64} (h : (longlongField offset value).Holds m) :
    longlong m offset = value := by
  obtain ⟨hlow, hhigh⟩ := Store.holds_append.1 h
  have hlt := value.toUInt64.toNat_lt
  have hsum : value.toUInt64.toNat % 2 ^ 32 + 2 ^ 32 * (value.toUInt64.toNat / 2 ^ 32 % 2 ^ 32) =
      value.toUInt64.toNat := by omega
  have hhigh' : ulong m (offset + 4) = UInt32.ofNat (value.toUInt64.toNat / 2 ^ 32) :=
    ulong_of_holds hhigh
  rw [longlong, ulong_of_holds hlow, hhigh', UInt32.toNat_ofNat', UInt32.toNat_ofNat', hsum,
    UInt64.ofNat_toNat, Int64.toInt64_toUInt64]

theorem wchar_of_holds {c : UInt16} (h : Store.Holds ⟨offset, wcharBytes c⟩ m) :
    wchar m offset = c := by
  have hlow := h 0 (Nat.zero_lt_two)
  have hhigh := h 1 (Nat.one_lt_two)
  rw [Nat.add_zero] at hlow
  have hlt := c.toNat_lt
  rw [wchar, hlow, hhigh]
  -- the character is the sum of its two digits to the base 256
  apply UInt16.toNat_inj.1
  simp only [wcharBytes, List.getElem_cons_zero, List.getElem_cons_succ, UInt8.toNat_ofNat',
    UInt16.toNat_ofNat']
  omega

theorem wchars_of_holds {n : ℕ} {a : Fin n → UInt16} (h : (wcharArray offset a).Holds m) :
    wchars m n offset = a := by
  funext i
  have hi : i.val < (List.ofFn a).length := by
    rw [List.length_ofFn]
    exact i.isLt
  have hchar := Store.Holds.element length_wcharBytes h hi
  rw [List.getElem_ofFn] at hchar
  exact wchar_of_holds hchar

theorem readHeader_of_holds {t : RsMessageType} {size : ℕ} {sequenceNumber : UInt32}
    (hlt : size < 2 ^ 32) (hsequence : (ulongField 8 sequenceNumber).Holds m)
    (h : ∀ w ∈ headerFields t size, w.Holds m) :
    readHeader m = some ⟨t, size, sequenceNumber, rsProtocolVersion⟩ := by
  simp only [headerFields, List.forall_mem_cons] at h
  obtain ⟨htype, hsize, hversion, -⟩ := h
  rw [readHeader, ulong_of_holds htype, ulong_of_holds hsize, ulong_of_holds hsequence,
    ulong_of_holds hversion, RsMessageType.ofCode_code, UInt32.toNat_ofNat', Nat.mod_eq_of_lt hlt]
  rfl

theorem readStatus_of_holds (h : (ulongField offset 0).Holds m) :
    readStatus m offset = some .success := by
  rw [readStatus, ulong_of_holds h, if_pos rfl]

theorem readBlockedEntry_of_holds {entry : RsBlockedPidEntry} {i : ℕ}
    (h : ∀ w ∈ blockedEntryFields entry i, w.Holds m) :
    readBlockedEntry m (24 + 544 * i) = entry := by
  simp only [blockedEntryFields, List.forall_mem_cons] at h
  obtain ⟨hprocess, htime, hcount, hname, -⟩ := h
  rw [readBlockedEntry, ulong_of_holds hprocess, longlong_of_holds htime, ulong_of_holds hcount,
    wchars_of_holds hname]

theorem readArray_eq {α : Type} {read : ℕ → α} {base size max : ℕ} {l : List α}
    (hmax : l.length ≤ max) (hlt : max < 2 ^ 32)
    (h : ∀ i (hi : i < l.length), read (base + size * i) = l[i]) :
    readArray read base size max (UInt32.ofNat l.length) = l := by
  refine List.ext_getElem ?_ ?_
  · rw [readArray, List.length_map, List.length_range, UInt32.toNat_ofNat',
      Nat.mod_eq_of_lt (by omega), Nat.min_eq_left hmax]
  · intro i hi hi'
    simp only [readArray, List.getElem_map, List.getElem_range]
    exact h i hi'

end

/-! ### Fields of a reply -/

@[simp] theorem length_ulongField (offset : ℕ) (value : UInt32) :
    (ulongField offset value).cells.length = 4 := rfl

@[simp] theorem length_longlongField (offset : ℕ) (value : Int64) :
    (longlongField offset value).cells.length = 8 := rfl

@[simp] theorem length_wcharArray {n : ℕ} (offset : ℕ) (a : Fin n → UInt16) :
    (wcharArray offset a).cells.length = 2 * n := by
  rw [wcharArray, length_flatMap_wcharBytes, List.length_ofFn]

theorem within_blockedEntryFields {entry : RsBlockedPidEntry} {i : ℕ} :
    ∀ w ∈ blockedEntryFields entry i, w.Within (24 + 544 * i) (24 + 544 * (i + 1)) := by
  have hmul : 544 * (i + 1) = 544 * i + 544 := Nat.mul_succ _ _
  simp only [blockedEntryFields, List.forall_mem_cons, Store.Within, length_ulongField,
    length_longlongField, length_wcharArray, offset_ulongField, offset_longlongField,
    offset_wcharArray, rsMaxImageNameLen, hmul]
  refine ⟨?_, ?_, ?_, ?_, fun _ hw => by cases hw⟩ <;> omega

theorem pairwise_blockedEntryFields {entry : RsBlockedPidEntry} {i : ℕ} :
    (blockedEntryFields entry i).Pairwise Store.Disjoint := by
  simp [blockedEntryFields, Store.Disjoint, rsMaxImageNameLen]

theorem pairwise_entries (entries : List RsBlockedPidEntry) :
    (entries.zipIdx.flatMap fun ei => blockedEntryFields ei.1 ei.2).Pairwise Store.Disjoint := by
  refine pairwise_disjoint_flatMap (fun ei => (24 + 544 * ei.2, 24 + 544 * (ei.2 + 1)))
    ?_ (fun _ _ => within_blockedEntryFields) (fun _ _ => pairwise_blockedEntryFields)
  have hlt : (entries.zipIdx.map Prod.snd).Pairwise (· < ·) := by
    rw [List.zipIdx_map_snd]
    exact List.pairwise_lt_range'
  rw [List.pairwise_map] at hlt
  refine hlt.imp fun {a b} hab => Or.inl ?_
  have hab' : a.2 + 1 ≤ b.2 := hab
  show 24 + 544 * (a.2 + 1) ≤ 24 + 544 * b.2
  omega

/-- The fields of a reply, some of them before its header, do not overlap. -/
theorem pairwise_reply {t : RsMessageType} {size : ℕ} {s : DriverState}
    {fields fields' : List (Store UInt8)} (h : (fields ++ fields').Pairwise Store.Disjoint)
    (hbehind : ∀ w ∈ fields ++ fields', 16 ≤ w.offset) :
    (sequenceField s :: fields ++ headerFields t size ++ fields').Pairwise Store.Disjoint := by
  have hheader : (sequenceField s :: headerFields t size).Pairwise Store.Disjoint := by
    simp [sequenceField, headerFields, Store.Disjoint]
  have hwithin : ∀ w ∈ sequenceField s :: headerFields t size, w.Within 0 16 := by
    simp [sequenceField, headerFields, Store.Within]
  have hperm : (sequenceField s :: fields ++ headerFields t size ++ fields').Perm
      ((sequenceField s :: headerFields t size) ++ (fields ++ fields')) := by
    rw [List.cons_append, List.cons_append, List.cons_append, ← List.append_assoc]
    exact ((List.perm_append_comm.append_right fields').cons _)
  rw [hperm.pairwise_iff fun h => h.symm, List.pairwise_append]
  exact ⟨hheader, h, fun w hw w' hw' => Or.inl ((hwithin w hw).2.trans (hbehind w' hw'))⟩

/-! ### Replies that are read back -/

variable {s : DriverState} {t : RsMessageType} {size : ℕ}

/-- What is there after a reply was cleared and filled in. -/
structure Filled (s : DriverState) (t : RsMessageType) (size : ℕ)
    (fields : List (Store UInt8)) (m : Memory) : Prop where
  header : readHeader m = some ⟨t, size, s.messageSequence, rsProtocolVersion⟩
  fields : ∀ w ∈ fields, w.Holds m

theorem filled (fields fields' : List (Store UInt8)) (hlt : size < 2 ^ 32)
    (h : (fields ++ fields').Pairwise Store.Disjoint)
    (hbehind : ∀ w ∈ fields ++ fields', 16 ≤ w.offset) (m : Memory) :
    Filled s t size (fields ++ fields')
      (stores (zeroMemory size :: (sequenceField s :: fields) ++ headerFields t size ++ fields')
        m) := by
  have hholds : ∀ w ∈ sequenceField s :: fields ++ headerFields t size ++ fields',
      w.Holds (stores (zeroMemory size :: (sequenceField s :: fields) ++ headerFields t size ++
        fields') m) :=
    fun w hw => holds_stores (pairwise_reply h hbehind) hw _
  refine ⟨readHeader_of_holds hlt (hholds _ (by simp [sequenceField])) fun w hw => ?_,
    fun w hw => ?_⟩
  · exact hholds w (by simp [hw])
  · refine hholds w ?_
    rcases List.mem_append.1 hw with hw | hw <;> simp [hw]

namespace Filled

variable {m : Memory}

theorem generic (ht : t ∈ [RsMessageType.requestPause, .requestResume, .updateConfig,
      .clearAllowlist, .updateAllowlistChunk, .updateAllowlistFull])
    (h : Filled s t size [ulongField 16 0] m) :
    readReply m = some (.generic (replyHeader s t size) .success) := by
  rw [readReply, h.header, Option.bind_some, readStatus_of_holds (h.fields _ (by simp))]
  simp only [List.mem_cons, List.not_mem_nil, or_false] at ht
  rcases ht with rfl | rfl | rfl | rfl | rfl | rfl <;> rfl

theorem unblockPid {processId : UInt32}
    (h : Filled s .replyUnblockPid size [ulongField 20 processId, ulongField 16 0] m) :
    readReply m = some (.unblockPid (replyHeader s .replyUnblockPid size) .success processId) := by
  rw [readReply, h.header, Option.bind_some, readStatus_of_holds (h.fields _ (by simp)),
    ulong_of_holds (h.fields (ulongField 20 processId) (by simp))]
  rfl

theorem config {fileCountThreshold timeWindowSeconds trackedPidCount blockedPidCount : UInt32}
    {monitoringEnabled : UInt8}
    (h : Filled s .queryConfig size [ulongField 16 fileCountThreshold,
      ulongField 20 timeWindowSeconds, ⟨24, [monitoringEnabled]⟩, ulongField 28 trackedPidCount,
      ulongField 32 blockedPidCount] m) :
    readReply m = some (.config (replyHeader s .queryConfig size) fileCountThreshold
      timeWindowSeconds monitoringEnabled trackedPidCount blockedPidCount) := by
  have hbyte : m 24 = monitoringEnabled := h.fields ⟨24, [monitoringEnabled]⟩ (by simp) 0 (by simp)
  rw [readReply, h.header, Option.bind_some]
  simp only [ulong_of_holds (h.fields (ulongField 16 fileCountThreshold) (by simp)),
    ulong_of_holds (h.fields (ulongField 20 timeWindowSeconds) (by simp)), hbyte,
    ulong_of_holds (h.fields (ulongField 28 trackedPidCount) (by simp)),
    ulong_of_holds (h.fields (ulongField 32 blockedPidCount) (by simp))]
  rfl

theorem blockedPids {entries : List RsBlockedPidEntry} (hmax : entries.length ≤ rsMaxReportBlocked)
    (h : Filled s .replyBlockedPids size
      (entries.zipIdx.flatMap (fun ei => blockedEntryFields ei.1 ei.2) ++
        [ulongField 16 (UInt32.ofNat entries.length)]) m) :
    readReply m = some (.blockedPids (replyHeader s .replyBlockedPids size)
      (UInt32.ofNat entries.length) entries) := by
  have hentry : ∀ i (hi : i < entries.length), readBlockedEntry m (24 + 544 * i) = entries[i] := by
    intro i hi
    refine readBlockedEntry_of_holds fun w hw => h.fields w ?_
    refine List.mem_append_left _ (List.mem_flatMap.2 ⟨(entries[i], i), ?_, hw⟩)
    exact List.mk_mem_zipIdx_iff_getElem?.2 (List.getElem?_eq_getElem hi)
  rw [readReply, h.header, Option.bind_some]
  simp only [ulong_of_holds (h.fields (ulongField 16 (UInt32.ofNat entries.length)) (by simp)),
    readArray_eq hmax (by decide) hentry]
  rfl

theorem allowlist {n : ℕ} {entry : ℕ → AllowlistEntry} (hmax : n ≤ rsMaxAllowlistEntries)
    (h : Filled s .queryAllowlist size
      ((List.range n).map (fun i => wcharArray (20 + 520 * i) (entry i)) ++
        [ulongField 16 (UInt32.ofNat n)]) m) :
    readReply m = some (.allowlist (replyHeader s .queryAllowlist size) (UInt32.ofNat n)
      ((List.range n).map entry)) := by
  have hlen : ((List.range n).map entry).length = n := by
    rw [List.length_map, List.length_range]
  have hentry : ∀ i (hi : i < ((List.range n).map entry).length),
      wchars m rsMaxAllowlistNameLen (20 + 520 * i) = ((List.range n).map entry)[i] := by
    intro i hi
    rw [List.getElem_map, List.getElem_range]
    refine wchars_of_holds (h.fields _ (List.mem_append_left _ (List.mem_map_of_mem ?_)))
    exact List.mem_range.2 (hlen ▸ hi)
  have harray := readArray_eq (hlen.trans_le hmax) (by decide) hentry
  rw [hlen] at harray
  rw [readReply, h.header, Option.bind_some]
  simp only [ulong_of_holds (h.fields (ulongField 16 (UInt32.ofNat n)) (by simp)), harray]
  rfl

end Filled

/-! ### The handler -/

/-- What the outcome writes is read as the reply, whatever was in the buffer. -/
def Outcome.Delivers (o : Outcome) (a : MessageOutcome) : Prop :=
  ∀ reply, a.reply = some reply → ∀ m, readReply (stores o.writes m) = some reply

variable {bytes : List UInt8} {outputBuffer : Option Memory} {m : ℕ}

theorem delivers_checkOutput {go : Outcome} {go' : MessageOutcome} (h : go.Delivers go') :
    (checkOutput s outputBuffer m size go).Delivers
      (withOutputBuffer s (outputBuffer.map fun _ => m) size go') := by
  unfold checkOutput withOutputBuffer
  cases outputBuffer with
  | none => intro reply hreply; cases hreply
  | some _ =>
    simp only [Option.isNone_some, Bool.false_eq_true, false_or, Option.map_some]
    split_ifs with hm
    · intro reply hreply; cases hreply
    · exact h

theorem delivers_generic {reads : List ℕ} {change change' : DriverState → DriverState}
    (ht : t ∈ [RsMessageType.requestPause, .requestResume, .updateConfig, .clearAllowlist,
      .updateAllowlistChunk, .updateAllowlistFull]) (h : change s = change' s) :
    (genericRequest s t reads change).Delivers
      (RansomShield.genericRequest s t (outputBuffer.map fun _ => m) change') := by
  intro reply hreply mem
  have hreply' : reply = .generic (replyHeader (change s) t sizeofReplyGeneric) .success := by
    unfold RansomShield.genericRequest withOutputBuffer at hreply
    rw [h]
    split at hreply
    · cases hreply
    · split_ifs at hreply
      exact (Option.some.inj hreply).symm
  rw [hreply']
  exact (filled [] [ulongField 16 0] (by decide) (by simp) (by simp) mem).generic ht

/-- The count of the blocked processes is written before the loop and behind it. -/
theorem readReply_blockedPids {entries : List RsBlockedPidEntry}
    (hmax : entries.length ≤ rsMaxReportBlocked) (hlt : size < 2 ^ 32) (mem : Memory) :
    readReply (stores (zeroMemory size :: [sequenceField s] ++
        headerFields .replyBlockedPids size ++
        (ulongField 16 0 :: entries.zipIdx.flatMap (fun ei => blockedEntryFields ei.1 ei.2) ++
          [ulongField 16 (UInt32.ofNat entries.length)])) mem) =
      some (.blockedPids (replyHeader s .replyBlockedPids size) (UInt32.ofNat entries.length)
        entries) := by
  have hslots : ∀ w ∈ entries.zipIdx.flatMap fun ei => blockedEntryFields ei.1 ei.2,
      24 ≤ w.offset := by
    intro w hw
    obtain ⟨ei, -, hw⟩ := List.mem_flatMap.1 hw
    exact (Nat.le_add_right _ _).trans (within_blockedEntryFields w hw).1
  have hpairwise : ((entries.zipIdx.flatMap fun ei => blockedEntryFields ei.1 ei.2) ++
      [ulongField 16 (UInt32.ofNat entries.length)]).Pairwise Store.Disjoint := by
    refine List.pairwise_append.2
      ⟨pairwise_entries entries, List.pairwise_singleton _ _, fun w hw w' hw' => ?_⟩
    rw [List.mem_singleton.1 hw']
    exact Or.inr ((by decide : 20 ≤ 24).trans (hslots w hw))
  have hbehind : ∀ w ∈ (entries.zipIdx.flatMap fun ei => blockedEntryFields ei.1 ei.2) ++
      [ulongField 16 (UInt32.ofNat entries.length)], 16 ≤ w.offset := by
    intro w hw
    rcases List.mem_append.1 hw with hw | hw
    · exact (hslots w hw).trans' (by decide)
    · rw [List.mem_singleton.1 hw]
      exact le_rfl
  have h := filled (s := s) (t := .replyBlockedPids) [] _ hlt hpairwise hbehind mem
  have hdead := stores_of_covered (w := ulongField 16 0)
    (List.mem_append_right (entries.zipIdx.flatMap fun ei => blockedEntryFields ei.1 ei.2)
      (List.mem_singleton.2 (rfl : ulongField 16 (UInt32.ofNat entries.length) = _)))
    (fun _ h => h)
    (zeroMemory size :: [sequenceField s] ++ headerFields .replyBlockedPids size) mem
  exact (congrArg readReply hdead).trans (h.blockedPids hmax)

theorem delivers_queryBlockedPids :
    (queryBlockedPids s outputBuffer m).Delivers
      (RansomShield.queryBlockedPids s (outputBuffer.map fun _ => m)) := by
  refine delivers_checkOutput fun reply hreply mem => ?_
  cases hreply
  exact readReply_blockedPids (length_rsGetBlockedPids_le _ _) (by decide) mem

theorem delivers_queryConfig :
    (queryConfig s outputBuffer m).Delivers
      (RansomShield.queryConfig s (outputBuffer.map fun _ => m)) := by
  refine delivers_checkOutput fun reply hreply mem => ?_
  cases hreply
  exact (filled [ulongField 16 s.config.fileCountThreshold,
      ulongField 20 s.config.timeWindowSeconds, ⟨24, [s.config.monitoringEnabled]⟩]
    [ulongField 28 (rsGetPidCounts (drawSequence s)).1,
      ulongField 32 (rsGetPidCounts (drawSequence s)).2] (by decide)
    (by simp [Store.Disjoint]) (by simp) mem).config

theorem delivers_queryAllowlist :
    (queryAllowlist s outputBuffer m).Delivers
      (RansomShield.queryAllowlist s (outputBuffer.map fun _ => m)) := by
  refine delivers_checkOutput fun reply hreply mem => ?_
  cases hreply
  let entry : ℕ → AllowlistEntry := fun i =>
    if h : i < rsMaxAllowlistEntries then s.dynamicAllowlist ⟨i, h⟩ else fun _ => 0
  have hentry : ∀ i : Fin rsMaxAllowlistEntries, entry i.val = s.dynamicAllowlist i := fun i =>
    dif_pos i.isLt
  have hcount := s.dynamicAllowlistCount.2
  have hentries : ((List.finRange rsMaxAllowlistEntries).filterMap fun i =>
      if i.val < s.dynamicAllowlistCount.1.toNat then some (s.dynamicAllowlist i) else none) =
      (List.range s.dynamicAllowlistCount.1.toNat).map entry := by
    rw [← map_filter_finRange entry hcount, ← List.filterMap_eq_map, List.filterMap_filter]
    simp [hentry]
  have hfields : (((List.finRange rsMaxAllowlistEntries).filter
      fun i => i.val < s.dynamicAllowlistCount.1.toNat).map
        fun i => wcharArray (20 + 520 * i.val) (s.dynamicAllowlist i)) =
      (List.range s.dynamicAllowlistCount.1.toNat).map
        fun i => wcharArray (20 + 520 * i) (entry i) := by
    rw [← map_filter_finRange _ hcount]
    simp only [hentry]
  have hslots : ((List.range s.dynamicAllowlistCount.1.toNat).map
      fun i => wcharArray (20 + 520 * i) (entry i)).Pairwise Store.Disjoint := by
    rw [List.pairwise_map]
    refine List.pairwise_lt_range.imp fun {i j} hij => Or.inl ?_
    simp only [offset_wcharArray, length_wcharArray, rsMaxAllowlistNameLen]
    omega
  have hpairwise : ((List.range s.dynamicAllowlistCount.1.toNat).map
      (fun i => wcharArray (20 + 520 * i) (entry i)) ++
        [ulongField 16 (UInt32.ofNat s.dynamicAllowlistCount.1.toNat)]).Pairwise
          Store.Disjoint := by
    refine List.pairwise_append.2
      ⟨hslots, List.pairwise_singleton _ _, fun w hw w' hw' => ?_⟩
    obtain ⟨i, -, rfl⟩ := List.mem_map.1 hw
    rw [List.mem_singleton.1 hw']
    exact Or.inr (Nat.le_add_right 20 _)
  have hbehind : ∀ w ∈ (List.range s.dynamicAllowlistCount.1.toNat).map
      (fun i => wcharArray (20 + 520 * i) (entry i)) ++
        [ulongField 16 (UInt32.ofNat s.dynamicAllowlistCount.1.toNat)], 16 ≤ w.offset := by
    intro w hw
    rcases List.mem_append.1 hw with hw | hw
    · obtain ⟨i, -, rfl⟩ := List.mem_map.1 hw
      exact (Nat.le_add_right 20 _).trans' (by decide)
    · rw [List.mem_singleton.1 hw]
      exact le_rfl
  have h := filled (s := s) (t := .queryAllowlist) _ _
    (by decide : sizeofReplyAllowlist < 2 ^ 32) hpairwise hbehind mem
  have hread := h.allowlist hcount
  rw [UInt32.ofNat_toNat, ← hfields, ← hentries] at hread
  exact hread

theorem delivers_requestUnblockPid :
    (requestUnblockPid s (ofBytes bytes) bytes.length outputBuffer m).Delivers
      (RansomShield.requestUnblockPid s bytes (outputBuffer.map fun _ => m)) := by
  unfold requestUnblockPid RansomShield.requestUnblockPid
  split_ifs
  · intro reply hreply
    cases hreply
  · refine delivers_checkOutput fun reply hreply mem => ?_
    cases hreply
    exact (filled [] [ulongField 20 (ulong (ofBytes bytes) 16), ulongField 16 0] (by decide)
      (by simp [Store.Disjoint]) (by simp) mem).unblockPid

theorem delivers_invalidParameter {o : Outcome} : o.Delivers (RansomShield.invalidParameter s) := by
  intro reply hreply
  cases hreply

theorem delivers_genericRequest {reads : List ℕ} {change change' : DriverState → DriverState}
    (ht : t ∈ [RsMessageType.requestPause, .requestResume, .updateConfig, .clearAllowlist,
      .updateAllowlistChunk, .updateAllowlistFull]) (h : change s = change' s) :
    (checkOutput s outputBuffer m sizeofReplyGeneric (genericRequest s t reads change)).Delivers
      (RansomShield.genericRequest s t (outputBuffer.map fun _ => m) change') := by
  -- the abstract handler checks the buffer where the reply is made up
  have hidem : withOutputBuffer s (outputBuffer.map fun _ => m) sizeofReplyGeneric
      (RansomShield.genericRequest s t (outputBuffer.map fun _ => m) change') =
      RansomShield.genericRequest s t (outputBuffer.map fun _ => m) change' := by
    unfold RansomShield.genericRequest withOutputBuffer
    cases outputBuffer with
    | none => rfl
    | some _ =>
      simp only [Option.map_some]
      split_ifs <;> rfl
  rw [← hidem]
  exact delivers_checkOutput (delivers_generic ht h)

theorem delivers_allowlistRequest {maxEntries countOffset : ℕ}
    (ht : t ∈ [RsMessageType.requestPause, .requestResume, .updateConfig, .clearAllowlist,
      .updateAllowlistChunk, .updateAllowlistFull]) :
    (allowlistRequest s (ofBytes bytes) bytes.length outputBuffer m t size maxEntries
      countOffset).Delivers
      (RansomShield.allowlistRequest s t size maxEntries countOffset bytes
        (outputBuffer.map fun _ => m)) := by
  unfold allowlistRequest RansomShield.allowlistRequest
  split_ifs
  · exact delivers_invalidParameter
  · refine delivers_checkOutput ?_
    show Outcome.Delivers (if maxEntries < (ulong (ofBytes bytes) countOffset).toNat then _
      else _) (if maxEntries < (ulong (ofBytes bytes) countOffset).toNat then _ else _)
    split_ifs
    · exact delivers_invalidParameter
    · exact delivers_generic ht (addEntries_ofBytes countOffset (countOffset + 4) _ (s, _))

theorem delivers_dispatch (hn : ¬ bytes.length < sizeofMessageHeader)
    (hsize : ¬ bytes.length < (readUlong bytes 4).toNat) :
    (dispatch s (ofBytes bytes) bytes.length outputBuffer m).Delivers
      (RansomShield.rsMessageNotifyCallback s (some bytes) (outputBuffer.map fun _ => m)) := by
  simp only [RansomShield.rsMessageNotifyCallback, if_neg hn, if_neg hsize]
  have htype : (requestTypes.find? fun t => t.code = ulong (ofBytes bytes) 0) =
    requestType bytes := rfl
  unfold dispatch
  rw [htype]
  cases requestType bytes with
  | none => exact delivers_invalidParameter
  | some t =>
    cases t with
    | queryBlockedPids => exact delivers_queryBlockedPids
    | queryConfig => exact delivers_queryConfig
    | queryAllowlist => exact delivers_queryAllowlist
    | requestUnblockPid => exact delivers_requestUnblockPid
    | requestPause | requestResume | clearAllowlist =>
      exact delivers_genericRequest (by decide) rfl
    | updateConfig =>
      show (updateConfig ..).Delivers (RansomShield.updateConfig ..)
      unfold updateConfig RansomShield.updateConfig
      split_ifs
      · exact delivers_invalidParameter
      · exact delivers_genericRequest (by decide) rfl
    | updateAllowlistChunk | updateAllowlistFull =>
      exact delivers_allowlistRequest (by decide)
    | notifyBlockedPid | notifyConfigUpdated | notifyAllowlistUpdated | replyBlockedPids
    | replyUnblockPid => exact delivers_invalidParameter

/-- **The client reads the reply of the handler** at the offsets of the C structures, for every
state of the driver, every request and whatever was in the output buffer. -/
theorem readReply_output (s : DriverState) (inputBuffer : Option Memory) (n : ℕ)
    (previous : Memory) (m : ℕ) :
    (rsMessageNotifyCallback s inputBuffer n (some previous) m).Delivers
      (RansomShield.rsMessageNotifyCallback s
        (inputBuffer.map fun input => (List.range n).map input) (some m)) := by
  cases inputBuffer with
  | none => exact delivers_invalidParameter
  | some input =>
    have hbytes : ∀ i < n, ofBytes ((List.range n).map input) i = input i := by
      intro i hi
      rw [ofBytes, List.getD_eq_getElem _ _ (by simpa using hi), List.getElem_map,
        List.getElem_range]
    have hsafe := safe_rsMessageNotifyCallback s (some input) n (some previous) m
    rw [← rsMessageNotifyCallback_congr fun i hi => hbytes i (hsafe.reads i hi), Option.map_some]
    have hlen : ((List.range n).map input).length = n := by
      rw [List.length_map, List.length_range]
    generalize (List.range n).map input = bytes at hlen ⊢
    subst hlen
    by_cases hn : bytes.length < sizeofMessageHeader
    · simp only [RansomShield.rsMessageNotifyCallback, if_pos hn]
      exact delivers_invalidParameter
    · by_cases hsize : bytes.length < (readUlong bytes 4).toNat
      · simp only [RansomShield.rsMessageNotifyCallback, if_neg hn, if_pos hsize]
        exact delivers_invalidParameter
      · have hsize' : ¬ bytes.length < (ulong (ofBytes bytes) 4).toNat := hsize
        have h : (dispatch s (ofBytes bytes) bytes.length (some previous) m).Delivers _ :=
          delivers_dispatch hn hsize
        simp only [rsMessageNotifyCallback, if_neg hn, if_neg hsize']
        exact h

end Buffered

end RansomShield
