import RansomShield.Buffers.Handler
import RansomShield.Tracker.Reports

/-!
# The handler stays within its buffers

Every case of the switch checks the sizes before it reads, changes or writes anything, and clears
the whole reply before it fills it in: the stores of a reply *fill* it (`Buffered.Fills`).  So the
outcome of every request is *safe* (`Buffered.Outcome.Safe`): it stays within the buffers, leaves
the state alone when it fails, and does not depend on what the output buffer held
(`Buffered.dispatcher_safe`).
-/

namespace RansomShield

namespace Buffered

variable {s : DriverState} {input : Memory} {n m i : ℕ} {outputBuffer : Option Memory}

/-! ### Stores of a reply -/

@[simp] theorem mem_bytesAt {offset size : ℕ} :
    i ∈ bytesAt offset size ↔ offset ≤ i ∧ i < offset + size := by
  simp only [bytesAt, List.mem_map, List.mem_range]
  constructor
  · rintro ⟨k, hk, rfl⟩
    omega
  · rintro ⟨hle, hlt⟩
    exact ⟨i - offset, by omega, by omega⟩

/-- The store ends at the given offset or before. -/
def EndsBy (size : ℕ) (w : Store UInt8) : Prop := w.offset + w.cells.length ≤ size

section

variable {size offset : ℕ}

@[simp] theorem endsBy_zeroMemory {size' : ℕ} : EndsBy size (zeroMemory size') ↔ size' ≤ size := by
  simp [EndsBy, zeroMemory]

@[simp] theorem endsBy_ulongField {value : UInt32} :
    EndsBy size (ulongField offset value) ↔ offset + 4 ≤ size := Iff.rfl

@[simp] theorem endsBy_longlongField {value : Int64} :
    EndsBy size (longlongField offset value) ↔ offset + 8 ≤ size := Iff.rfl

@[simp] theorem endsBy_singleton {value : UInt8} :
    EndsBy size ⟨offset, [value]⟩ ↔ offset + 1 ≤ size := Iff.rfl

theorem length_flatMap_wcharBytes (cs : List UInt16) :
    (cs.flatMap wcharBytes).length = 2 * cs.length := by
  simp [wcharBytes, List.length_flatMap, Nat.mul_comm]

@[simp] theorem endsBy_wcharArray {k : ℕ} {a : Fin k → UInt16} :
    EndsBy size (wcharArray offset a) ↔ offset + 2 * k ≤ size := by
  rw [EndsBy, wcharArray, length_flatMap_wcharBytes, List.length_ofFn]

@[simp] theorem offset_ulongField {value : UInt32} : (ulongField offset value).offset = offset :=
  rfl

@[simp] theorem offset_longlongField {value : Int64} :
    (longlongField offset value).offset = offset := rfl

@[simp] theorem offset_wcharArray {k : ℕ} {a : Fin k → UInt16} :
    (wcharArray offset a).offset = offset := rfl

end

theorem ulong_stores {offset : ℕ} {value : UInt32} {ws ws' : List (Store UInt8)}
    (h : ∀ w ∈ ws', offset + 4 ≤ w.offset) (mem : Memory) :
    ulong (stores (ws ++ ulongField offset value :: ws') mem) offset = value := by
  have hbyte : ∀ k < 4, stores (ws ++ ulongField offset value :: ws') mem (offset + k) =
      (ulongBytes value).getD k 0 := by
    intro k hk
    rw [stores_last]
    · simp only [Store.apply, ulongField, Nat.le_add_right, if_true, Nat.add_sub_cancel_left]
      rw [List.getD_eq_getElem _ _ hk, List.getD_eq_getElem _ _ hk]
    · intro w hw hcovers
      have := h w hw
      have := hcovers.1
      omega
  have hzero := hbyte 0 (by decide)
  rw [Nat.add_zero] at hzero
  have hread := readUlong_ulongBytes [] value []
  simp only [List.nil_append, List.append_nil, List.length_nil, readUlong] at hread
  rw [ulong, hzero, hbyte 1 (by decide), hbyte 2 (by decide), hbyte 3 (by decide)]
  exact hread

/-- The stores make up a reply: they stay within its size, clear it, and leave the size in its
header. -/
structure Fills (size : ℕ) (ws : List (Store UInt8)) : Prop where
  within : ∀ w ∈ ws, EndsBy size w
  cleared : zeroMemory size ∈ ws
  messageSize : ∀ mem, (ulong (stores ws mem) 4).toNat = size

/-- A reply is cleared, some of it may be filled in, then comes its header, then the rest. -/
theorem fills {size : ℕ} (hsize : 16 ≤ size) (hlt : size < 2 ^ 32) (t : RsMessageType)
    {ws ws' : List (Store UInt8)} (hws : ∀ w ∈ ws, EndsBy size w)
    (hws' : ∀ w ∈ ws', 16 ≤ w.offset ∧ EndsBy size w) :
    Fills size (zeroMemory size :: ws ++ headerFields t size ++ ws') where
  within := by
    intro w hw
    simp only [List.cons_append, List.mem_cons, List.mem_append, headerFields, List.not_mem_nil,
      or_false] at hw
    rcases hw with rfl | (hw | rfl | rfl | rfl) | hw
    · simp
    · exact hws w hw
    · exact endsBy_ulongField.2 (by omega)
    · exact endsBy_ulongField.2 (by omega)
    · exact endsBy_ulongField.2 (by omega)
    · exact (hws' w hw).2
  cleared := by simp
  messageSize mem := by
    have hsplit : zeroMemory size :: ws ++ headerFields t size ++ ws' =
        (zeroMemory size :: ws ++ [ulongField 0 t.code]) ++ ulongField 4 (UInt32.ofNat size) ::
          (ulongField 12 rsProtocolVersion :: ws') := by
      simp [headerFields]
    rw [hsplit, ulong_stores]
    · rw [UInt32.toNat_ofNat', Nat.mod_eq_of_lt hlt]
    · intro w hw
      rcases List.mem_cons.1 hw with rfl | hw
      · decide
      · have := (hws' w hw).1
        omega

/-! ### Safe outcomes -/

/-- The outcome of a request, in a state and for buffers of given lengths, is safe: nothing is read
or written beyond the buffers; a request that is not answered with `STATUS_SUCCESS` changes and
writes nothing; one that is gets a reply of the length that is returned. -/
structure Outcome.Safe (o : Outcome) (s : DriverState) (n : ℕ) (outputBuffer : Option Memory)
    (m : ℕ) : Prop where
  reads : ∀ i ∈ o.reads, i < n
  failed : o.status ≠ .success → o.state = s ∧ o.writes = []
  succeeded : o.status = .success →
    outputBuffer.isSome ∧ o.returnLength ≤ m ∧ Fills o.returnLength o.writes

theorem safe_invalidParameter {reads : List ℕ} (h : ∀ i ∈ reads, i < n) :
    (invalidParameter s reads).Safe s n outputBuffer m where
  reads := h
  failed _ := ⟨rfl, rfl⟩
  succeeded hs := by cases hs

theorem safe_checkOutput {size : ℕ} {go : Outcome} (hlength : go.status = .success →
    go.returnLength = size) (hreads : ∀ i ∈ go.reads, i < n)
    (hfailed : go.status ≠ .success → go.state = s ∧ go.writes = [])
    (hfills : go.status = .success → Fills size go.writes) :
    (checkOutput s outputBuffer m size go).Safe s n outputBuffer m := by
  unfold checkOutput
  split_ifs with h
  · exact ⟨fun _ hi => (by cases hi), fun _ => ⟨rfl, rfl⟩, fun hs => by cases hs⟩
  · rw [not_or, Option.isNone_iff_eq_none, not_lt] at h
    refine ⟨hreads, hfailed, fun hs => ⟨?_, ?_, ?_⟩⟩
    · exact Option.isSome_iff_ne_none.2 h.1
    · rw [hlength hs]
      exact h.2
    · rw [hlength hs]
      exact hfills hs

/-- A request that always succeeds once its output buffer is large enough. -/
theorem safe_success {size : ℕ} {go : Outcome} (hstatus : go.status = .success)
    (hlength : go.returnLength = size) (hreads : ∀ i ∈ go.reads, i < n)
    (hfills : Fills size go.writes) :
    (checkOutput s outputBuffer m size go).Safe s n outputBuffer m :=
  safe_checkOutput (fun _ => hlength) hreads (fun h => absurd hstatus h) fun _ => hfills

theorem fills_generic (t : RsMessageType) (s : DriverState) :
    Fills sizeofReplyGeneric (zeroMemory sizeofReplyGeneric :: [sequenceField s] ++
      headerFields t sizeofReplyGeneric ++ [ulongField 16 0]) :=
  fills (by decide) (by decide) t (by simp [sequenceField, sizeofReplyGeneric])
    (by simp [sizeofReplyGeneric])

theorem safe_genericRequest {t : RsMessageType} {reads : List ℕ}
    {change : DriverState → DriverState} (h : ∀ i ∈ reads, i < n) :
    (checkOutput s outputBuffer m sizeofReplyGeneric (genericRequest s t reads change)).Safe s n
      outputBuffer m :=
  safe_success rfl rfl h (fills_generic t (change s))

/-! ### The cases of the switch -/

theorem sizeofReplyBlockedPids_eq : sizeofReplyBlockedPids = 139288 := rfl

theorem sizeofReplyAllowlist_eq : sizeofReplyAllowlist = 66580 := rfl

theorem endsBy_blockedEntryFields {entry : RsBlockedPidEntry} {k : ℕ} (hk : k < 256)
    {w : Store UInt8} (hw : w ∈ blockedEntryFields entry k) :
    16 ≤ w.offset ∧ EndsBy sizeofReplyBlockedPids w := by
  simp only [blockedEntryFields, List.mem_cons, List.not_mem_nil, or_false] at hw
  rcases hw with rfl | rfl | rfl | rfl <;>
    simp [sizeofReplyBlockedPids_eq, rsMaxImageNameLen] <;> omega

/-- The array of entries does not overflow. -/
theorem fills_blockedPids (s : DriverState) {entries : List RsBlockedPidEntry}
    (h : entries.length ≤ 256) :
    Fills sizeofReplyBlockedPids (zeroMemory sizeofReplyBlockedPids :: [sequenceField s] ++
      headerFields .replyBlockedPids sizeofReplyBlockedPids ++
      (ulongField 16 0 ::
        entries.zipIdx.flatMap (fun ei => blockedEntryFields ei.1 ei.2) ++
          [ulongField 16 (UInt32.ofNat entries.length)])) := by
  refine fills (by simp [sizeofReplyBlockedPids_eq]) (by simp [sizeofReplyBlockedPids_eq]) _
    (by simp [sequenceField, sizeofReplyBlockedPids_eq]) ?_
  intro w hw
  simp only [List.cons_append, List.mem_cons, List.mem_append, List.mem_flatMap,
    List.not_mem_nil, or_false] at hw
  rcases hw with rfl | ⟨⟨e, k⟩, hek, hw⟩ | rfl
  · simp [sizeofReplyBlockedPids_eq]
  · have hk := List.snd_lt_of_mem_zipIdx hek
    rw [Nat.add_zero] at hk
    exact endsBy_blockedEntryFields (hk.trans_le h) hw
  · simp [sizeofReplyBlockedPids_eq]

theorem safe_queryBlockedPids : (queryBlockedPids s outputBuffer m).Safe s n outputBuffer m :=
  safe_success rfl rfl (fun _ hi => by cases hi)
    (fills_blockedPids s (length_rsGetBlockedPids_le _ _))

theorem safe_requestUnblockPid :
    (requestUnblockPid s input n outputBuffer m).Safe s n outputBuffer m := by
  unfold requestUnblockPid
  split_ifs with hn
  · exact safe_invalidParameter fun _ hi => by cases hi
  · refine safe_success rfl rfl ?_ ?_
    · simp only [sizeofRequestUnblockPid, List.mem_append, mem_bytesAt] at hn ⊢
      omega
    · exact fills (by decide) (by decide) _ (by simp [sequenceField, sizeofReplyUnblockPid])
        (by simp [sizeofReplyUnblockPid])

theorem safe_queryConfig : (queryConfig s outputBuffer m).Safe s n outputBuffer m := by
  refine safe_success rfl rfl (fun _ hi => by cases hi) ?_
  exact fills (by decide) (by decide) _ (by simp [sequenceField, sizeofReplyConfig])
    (by simp [sizeofReplyConfig])

theorem fills_allowlist (s : DriverState) (slots : List (Fin rsMaxAllowlistEntries)) :
    Fills sizeofReplyAllowlist (zeroMemory sizeofReplyAllowlist ::
        (sequenceField s :: slots.map
          fun i => wcharArray (20 + 520 * i.val) (s.dynamicAllowlist i)) ++
      headerFields .queryAllowlist sizeofReplyAllowlist ++
        [ulongField 16 s.dynamicAllowlistCount.1]) := by
  refine fills (by simp [sizeofReplyAllowlist_eq]) (by simp [sizeofReplyAllowlist_eq]) _ ?_
    (by simp [sizeofReplyAllowlist_eq])
  intro w hw
  rw [List.mem_cons, List.mem_map] at hw
  rcases hw with rfl | ⟨k, -, rfl⟩
  · simp [sequenceField, sizeofReplyAllowlist_eq]
  · have hk : k.val < 128 := k.isLt
    simp [sizeofReplyAllowlist_eq, rsMaxAllowlistNameLen]
    omega

theorem safe_queryAllowlist : (queryAllowlist s outputBuffer m).Safe s n outputBuffer m :=
  safe_success rfl rfl (fun _ hi => by cases hi) (fills_allowlist s _)

theorem safe_updateConfig : (updateConfig s input n outputBuffer m).Safe s n outputBuffer m := by
  unfold updateConfig
  split_ifs with hn
  · exact safe_invalidParameter fun _ hi => by cases hi
  · refine safe_genericRequest ?_
    simp only [sizeofRequestUpdateConfig, List.mem_append, mem_bytesAt] at hn ⊢
    omega

/-! ### Allowlist entries -/

theorem lt_of_mem_scanReads {k offset : ℕ} (h : i ∈ scanReads input k offset) :
    i < offset + 2 * k := by
  induction k generalizing offset with
  | zero => cases h
  | succ k ih =>
    rw [scanReads, List.mem_append, mem_bytesAt] at h
    rcases h with h | h
    · omega
    · split_ifs at h
      · cases h
      · have := ih h
        omega

theorem lt_of_mem_copyReads {offset length : ℕ} (h : i ∈ copyReads s offset length) :
    i < offset + 518 := by
  unfold copyReads at h
  split_ifs at h
  · cases h
  · rw [mem_bytesAt] at h
    have := Nat.min_le_right length (rsMaxAllowlistNameLen - 1)
    simp only [rsMaxAllowlistNameLen] at this h
    omega
  · cases h

theorem lt_of_mem_addEntries {countOffset base entryCount size : ℕ}
    {st : DriverState × List ℕ} (hst : ∀ i ∈ st.2, i < size) (hcount : countOffset + 4 ≤ size)
    (hbase : base + 520 * entryCount ≤ size) :
    ∀ i ∈ (addEntries input countOffset base entryCount st).2, i < size := by
  induction entryCount with
  | zero => exact hst
  | succ k ih =>
    have ih := ih (by omega)
    unfold addEntries at ih ⊢
    rw [List.range_succ, List.foldl_append, List.foldl_cons, List.foldl_nil]
    intro i hi
    simp only [addEntry, List.mem_append, mem_bytesAt] at hi
    rcases hi with ((hi | hi) | hi) | hi
    · exact ih i hi
    · omega
    · have := lt_of_mem_scanReads hi
      simp only [rsMaxAllowlistNameLen] at this
      omega
    · have := lt_of_mem_copyReads hi
      omega

theorem safe_allowlistRequest {t : RsMessageType} {size maxEntries countOffset : ℕ}
    (hsize : countOffset + 4 + 520 * maxEntries ≤ size) :
    (allowlistRequest s input n outputBuffer m t size maxEntries countOffset).Safe s n
      outputBuffer m := by
  unfold allowlistRequest
  split_ifs with hn
  · exact safe_invalidParameter fun _ hi => by cases hi
  · have hcount : ∀ i ∈ bytesAt countOffset 4, i < n := by
      intro i hi
      rw [mem_bytesAt] at hi
      omega
    by_cases hmax : maxEntries < (ulong input countOffset).toNat
    · rw [if_pos hmax]
      exact safe_checkOutput (fun hs => by cases hs) hcount (fun _ => ⟨rfl, rfl⟩)
        fun hs => by cases hs
    · rw [if_neg hmax]
      refine safe_genericRequest ?_
      intro i hi
      rcases List.mem_append.1 hi with hi | hi
      · exact lt_of_mem_addEntries hcount (by omega) (by omega) i hi
      · exact hcount i hi

/-! ### The handler -/

theorem safe_dispatch (hn : 16 ≤ n) :
    (dispatch s input n outputBuffer m).Safe s n outputBuffer m := by
  unfold dispatch
  split
  · exact safe_queryBlockedPids
  · exact safe_requestUnblockPid
  · exact safe_queryConfig
  · exact safe_queryAllowlist
  · exact safe_genericRequest fun _ hi => by cases hi
  · exact safe_genericRequest fun _ hi => by cases hi
  · exact safe_updateConfig
  · exact safe_genericRequest fun _ hi => by cases hi
  · exact safe_allowlistRequest (by decide)
  · exact safe_allowlistRequest (by decide)
  · refine safe_invalidParameter fun i hi => ?_
    rw [mem_bytesAt] at hi
    omega

theorem safe_rsMessageNotifyCallback (s : DriverState) (inputBuffer : Option Memory) (n : ℕ)
    (outputBuffer : Option Memory) (m : ℕ) :
    (rsMessageNotifyCallback s inputBuffer n outputBuffer m).Safe s n outputBuffer m := by
  unfold rsMessageNotifyCallback
  split
  · exact safe_invalidParameter fun _ hi => by cases hi
  · next input =>
    split_ifs with hn
    · exact safe_invalidParameter fun _ hi => by cases hi
    · refine safe_invalidParameter fun i hi => ?_
      simp only [sizeofMessageHeader] at hn
      rw [mem_bytesAt] at hi
      omega
    · simp only [sizeofMessageHeader, not_lt] at hn
      have h : (dispatch s input n outputBuffer m).Safe s n outputBuffer m := safe_dispatch hn
      refine ⟨?_, h.failed, h.succeeded⟩
      intro i hi
      simp only [Outcome.afterReading, List.mem_append, mem_bytesAt] at hi
      rcases hi with (hi | hi) | hi
      · omega
      · omega
      · exact h.reads i hi

/-! ### The bytes that matter -/

section

variable {input' : Memory}

/-- The memories agree on the given bytes. -/
def Agree (input input' : Memory) (reads : List ℕ) : Prop := ∀ i ∈ reads, input' i = input i

theorem Agree.left {reads reads' : List ℕ} (h : Agree input input' (reads ++ reads')) :
    Agree input input' reads := fun i hi => h i (List.mem_append_left _ hi)

theorem Agree.right {reads reads' : List ℕ} (h : Agree input input' (reads ++ reads')) :
    Agree input input' reads' := fun i hi => h i (List.mem_append_right _ hi)

theorem Agree.ulong {offset : ℕ} (h : Agree input input' (bytesAt offset 4)) :
    ulong input' offset = ulong input offset := by
  simp only [Buffered.ulong, h _ (mem_bytesAt.2 ⟨le_rfl, Nat.lt_add_of_pos_right (by decide)⟩),
    h _ (mem_bytesAt.2 ⟨Nat.le_add_right offset _, Nat.add_lt_add_left (by decide : 1 < 4) _⟩),
    h _ (mem_bytesAt.2 ⟨Nat.le_add_right offset _, Nat.add_lt_add_left (by decide : 2 < 4) _⟩),
    h _ (mem_bytesAt.2 ⟨Nat.le_add_right offset _, Nat.add_lt_add_left (by decide : 3 < 4) _⟩)]

theorem Agree.scan {k offset : ℕ} (h : Agree input input' (scanReads input k offset)) :
    scan input' k offset = scan input k offset ∧
      scanReads input' k offset = scanReads input k offset := by
  induction k generalizing offset with
  | zero => exact ⟨rfl, rfl⟩
  | succ k ih =>
    rw [scanReads] at h
    have hchar : wchar input' offset = wchar input offset := by
      simp only [wchar, h.left _ (mem_bytesAt.2 ⟨le_rfl, Nat.lt_add_of_pos_right (by decide)⟩),
        h.left _ (mem_bytesAt.2 ⟨Nat.le_add_right offset _,
          Nat.add_lt_add_left (by decide : 1 < 2) _⟩)]
    by_cases hc : wchar input offset = 0
    · simp [Buffered.scan, scanReads, hchar, hc]
    · -- the scan goes on behind the character
      have hrest := h.right
      rw [if_neg hc] at hrest
      simp [Buffered.scan, scanReads, hchar, hc, ih hrest]

theorem Agree.addEntries {countOffset base entryCount : ℕ} {st : DriverState × List ℕ}
    (h : Agree input input' (addEntries input countOffset base entryCount st).2) :
    Buffered.addEntries input' countOffset base entryCount st =
      Buffered.addEntries input countOffset base entryCount st := by
  unfold Buffered.addEntries at h ⊢
  induction entryCount with
  | zero => rfl
  | succ k ih =>
    rw [List.range_succ, List.foldl_append, List.foldl_cons, List.foldl_nil] at h ⊢
    rw [List.foldl_append, List.foldl_cons, List.foldl_nil]
    unfold addEntry at h
    rw [ih h.left.left.left]
    obtain ⟨hscan, hreads⟩ := h.left.right.scan
    simp only [addEntry, hscan, hreads]

theorem Agree.checkOutput {size : ℕ} {go go' : Outcome}
    (h : Agree input input' (checkOutput s outputBuffer m size go).reads)
    (hgo : Agree input input' go.reads → go' = go) :
    Buffered.checkOutput s outputBuffer m size go' =
      Buffered.checkOutput s outputBuffer m size go := by
  unfold Buffered.checkOutput at h ⊢
  split_ifs at h ⊢
  · rfl
  · exact hgo h

theorem Agree.allowlistRequest {t : RsMessageType} {size maxEntries countOffset : ℕ}
    (h : Agree input input'
      (allowlistRequest s input n outputBuffer m t size maxEntries countOffset).reads) :
    Buffered.allowlistRequest s input' n outputBuffer m t size maxEntries countOffset =
      Buffered.allowlistRequest s input n outputBuffer m t size maxEntries countOffset := by
  unfold Buffered.allowlistRequest at h ⊢
  split_ifs at h ⊢ with hn
  · rfl
  · refine h.checkOutput fun h => ?_
    by_cases hmax : maxEntries < (Buffered.ulong input countOffset).toNat
    · rw [if_pos hmax] at h
      simp only [Agree.ulong h, if_pos hmax]
    · rw [if_neg hmax] at h
      have hcount : Agree input input' (bytesAt countOffset 4) := h.right
      simp only [hcount.ulong, Agree.addEntries (h.left)]

theorem Agree.dispatch (htype : Agree input input' (bytesAt 0 4))
    (h : Agree input input' (dispatch s input n outputBuffer m).reads) :
    Buffered.dispatch s input' n outputBuffer m = Buffered.dispatch s input n outputBuffer m := by
  unfold Buffered.dispatch at h ⊢
  rw [htype.ulong]
  split at h
  · rfl
  · unfold requestUnblockPid at h ⊢
    split_ifs at h ⊢
    · rfl
    · refine h.checkOutput fun h => ?_
      rw [Agree.ulong (h.right)]
  · rfl
  · rfl
  · rfl
  · rfl
  · unfold updateConfig at h ⊢
    split_ifs at h ⊢
    · rfl
    · refine h.checkOutput fun h => ?_
      rw [Agree.ulong (Agree.left (Agree.left h)), Agree.ulong (Agree.right (Agree.left h)),
        Agree.right h 24 (by simp)]
  · rfl
  · exact h.allowlistRequest
  · exact h.allowlistRequest
  · rfl

/-- **The bytes that are not read do not matter.** -/
theorem rsMessageNotifyCallback_congr
    (h : Agree input input' (rsMessageNotifyCallback s (some input) n outputBuffer m).reads) :
    rsMessageNotifyCallback s (some input') n outputBuffer m =
      rsMessageNotifyCallback s (some input) n outputBuffer m := by
  simp only [rsMessageNotifyCallback] at h ⊢
  by_cases hn : n < sizeofMessageHeader
  · simp only [if_pos hn]
  · simp only [if_neg hn] at h ⊢
    by_cases hsize : n < (ulong input 4).toNat
    · rw [if_pos hsize] at h
      rw [Agree.ulong h, if_pos hsize, if_pos hsize]
    · rw [if_neg hsize] at h
      have hheader : Agree input input' (bytesAt 4 4) := h.left.left
      rw [hheader.ulong, Agree.dispatch h.left.right h.right]

end

/-- **The dispatcher is safe.**  For every state of the driver, every input and every output buffer:
* no input byte at or beyond `InputBufferLength` is read, and none matters;
* no output byte at or beyond `OutputBufferLength` is written;
* if the result is not `STATUS_SUCCESS`, then the state is as before, and nothing is written;
* if it is, then the length returned is the `MessageSize` of the reply, at most
  `OutputBufferLength`, and the bytes it covers are the same whatever the buffer held before. -/
theorem dispatcher_safe (s : DriverState) (inputBuffer : Option Memory) (n : ℕ)
    (outputBuffer : Option Memory) (m : ℕ) :
    let o := rsMessageNotifyCallback s inputBuffer n outputBuffer m
    (∀ i ∈ o.reads, i < n) ∧
      (∀ input input', inputBuffer = some input → (∀ i < n, input' i = input i) →
        rsMessageNotifyCallback s (some input') n outputBuffer m = o) ∧
      (∀ w ∈ o.writes, ∀ i, w.covers i → i < m) ∧
      (o.status ≠ .success → o.state = s ∧ o.writes = []) ∧
      (o.status = .success → o.returnLength ≤ m ∧
        ∃ memory, o.output outputBuffer = some memory ∧
          (ulong memory 4).toNat = o.returnLength ∧
          ∀ previous, ∃ memory', (rsMessageNotifyCallback s inputBuffer n (some previous) m).output
            (some previous) = some memory' ∧ ∀ i < o.returnLength, memory' i = memory i) := by
  intro o
  have h : o.Safe s n outputBuffer m := safe_rsMessageNotifyCallback s inputBuffer n outputBuffer m
  refine ⟨h.reads, ?_, ?_, h.failed, ?_⟩
  · rintro input input' rfl hinput
    exact rsMessageNotifyCallback_congr fun i hi => hinput i (h.reads i hi)
  · intro w hw i hi
    by_cases hs : o.status = .success
    · obtain ⟨-, hm, hfills⟩ := h.succeeded hs
      have hend : w.offset + w.cells.length ≤ o.returnLength := hfills.within w hw
      have := hi.2
      omega
    · rw [(h.failed hs).2] at hw
      cases hw
  · intro hs
    obtain ⟨hsome, hm, hfills⟩ := h.succeeded hs
    obtain ⟨memory, rfl⟩ := Option.isSome_iff_exists.1 hsome
    refine ⟨hm, stores o.writes memory, rfl, hfills.messageSize memory, ?_⟩
    intro previous
    refine ⟨stores o.writes previous, rfl, ?_⟩
    intro i hi
    refine stores_congr ⟨_, hfills.cleared, ?_⟩ _ _
    exact ⟨Nat.zero_le _, by simpa [zeroMemory] using hi⟩

end Buffered

end RansomShield
