import RansomShield.Guarantees.FullUpdate

/-!
# What lies beyond the declared message

`MessageSize` is checked against the length of the buffer and is not used again: each handler
compares the length of the buffer with the size of its request.  So a request of full length with a
smaller `MessageSize` is carried out, such as one that unblocks a process named beyond its end
(`undeclared_pid_matters`), and what lies beyond the declared message influences the driver as far
as the handler reads.  Only the declared message matters if and only if the handler reads no more
than that, or does nothing with it (`Covered`, `declared_message_iff`).
-/

namespace RansomShield

/-! ### Buffers that agree -/

/-- Two buffers of the same length agree on their first `n` bytes. -/
structure AgreeOn (n : ℕ) (bytes bytes' : List UInt8) : Prop where
  length : bytes'.length = bytes.length
  bytes : ∀ i < n, bytes'[i]? = bytes[i]?

/-- `MessageSize` in the header. -/
def messageSize (bytes : List UInt8) : ℕ := (readUlong bytes 4).toNat

/-- Two buffers of the same length have the same header, and agree on the declared message. -/
def SameMessage (bytes bytes' : List UInt8) : Prop :=
  AgreeOn (max sizeofMessageHeader (messageSize bytes)) bytes bytes'

namespace AgreeOn

variable {n n' : ℕ} {bytes bytes' : List UInt8}

theorem symm (h : AgreeOn n bytes bytes') : AgreeOn n bytes' bytes :=
  ⟨h.length.symm, fun i hi => (h.bytes i hi).symm⟩

theorem mono (h : AgreeOn n bytes bytes') (hn : n' ≤ n) : AgreeOn n' bytes bytes' :=
  ⟨h.length, fun i hi => h.bytes i (hi.trans_le hn)⟩

theorem getD (h : AgreeOn n bytes bytes') {i : ℕ} (hi : i < n) :
    bytes'.getD i 0 = bytes.getD i 0 := by
  rw [List.getD_eq_getElem?_getD, List.getD_eq_getElem?_getD, h.bytes i hi]

theorem readUlong (h : AgreeOn n bytes bytes') {offset : ℕ} (hoffset : offset + 4 ≤ n) :
    readUlong bytes' offset = readUlong bytes offset := by
  unfold RansomShield.readUlong
  rw [h.getD (by omega), h.getD (by omega), h.getD (by omega), h.getD (by omega)]

theorem readWchar (h : AgreeOn n bytes bytes') {offset : ℕ} (hoffset : offset + 2 ≤ n) :
    readWchar bytes' offset = readWchar bytes offset := by
  unfold RansomShield.readWchar
  rw [h.getD (by omega), h.getD (by omega)]

theorem set (bytes : List UInt8) {i : ℕ} (hi : n ≤ i) (b : UInt8) :
    AgreeOn n bytes (bytes.set i b) :=
  ⟨List.length_set, fun j hj => List.getElem?_set_ne (by omega)⟩

end AgreeOn

theorem getD_set_self {bytes : List UInt8} {i : ℕ} (hi : i < bytes.length) (b : UInt8) :
    (bytes.set i b).getD i 0 = b := by
  rw [List.getD_eq_getElem?_getD, List.getElem?_set_self hi, Option.getD_some]

theorem getD_set_ne {bytes : List UInt8} {i j : ℕ} (hij : i ≠ j) (b : UInt8) :
    (bytes.set i b).getD j 0 = bytes.getD j 0 := by
  rw [List.getD_eq_getElem?_getD, List.getElem?_set_ne hij, List.getD_eq_getElem?_getD]

namespace SameMessage

variable {bytes bytes' : List UInt8}

theorem messageSize_eq (h : SameMessage bytes bytes') : messageSize bytes' = messageSize bytes := by
  rw [messageSize, messageSize, (h.mono (le_max_left _ _)).readUlong (by decide)]

theorem symm (h : SameMessage bytes bytes') : SameMessage bytes' bytes := by
  rw [SameMessage, h.messageSize_eq]
  exact AgreeOn.symm h

theorem isRequest (h : SameMessage bytes bytes') {t : RsMessageType} (ht : IsRequest bytes t) :
    IsRequest bytes' t := by
  have hheader := h.mono (le_max_left _ _)
  refine ⟨?_, ?_, ?_⟩
  · rw [h.length]
    exact ht.header
  · rw [hheader.readUlong (by decide), h.length]
    exact ht.size
  · rw [requestType, hheader.readUlong (by decide)]
    exact ht.type

/-- A buffer that is no request is refused, whatever lies beyond the declared message. -/
theorem refused (h : SameMessage bytes bytes') (hrefused : ∀ t, ¬ IsRequest bytes t)
    (s : DriverState) (output : Option ℕ) :
    rsMessageNotifyCallback s (some bytes') output =
      rsMessageNotifyCallback s (some bytes) output := by
  rcases rsMessageNotifyCallback_cases s bytes output with heq | ⟨t, ht, -⟩
  · rcases rsMessageNotifyCallback_cases s bytes' output with heq' | ⟨t, ht, -⟩
    · rw [heq, heq']
    · exact absurd (h.symm.isRequest ht) (hrefused t)
  · exact absurd ht (hrefused t)

end SameMessage

/-! ### Scanning an entry -/

/-- The end of the bytes that the scan of an entry reads. -/
def scanEnd (bytes : List UInt8) : ℕ → ℕ → ℕ
  | 0, offset => offset
  | n + 1, offset => if readWchar bytes offset = 0 then offset + 2 else scanEnd bytes n (offset + 2)

theorem scanEnd_le (bytes : List UInt8) (n offset : ℕ) :
    scanEnd bytes n offset ≤ offset + 2 * n := by
  induction n generalizing offset with
  | zero => exact le_rfl
  | succ n ih =>
    rw [scanEnd]
    split_ifs
    · omega
    · exact (ih _).trans (by omega)

theorem le_scanEnd (bytes : List UInt8) (n offset : ℕ) : offset ≤ scanEnd bytes n offset := by
  induction n generalizing offset with
  | zero => exact le_rfl
  | succ n ih =>
    rw [scanEnd]
    split_ifs
    · omega
    · exact (Nat.le_add_right offset 2).trans (ih _)

/-- **Only the bytes that are read matter** for what the scan finds. -/
theorem AgreeOn.scanEntry {n m offset : ℕ} {bytes bytes' : List UInt8}
    (h : AgreeOn m bytes bytes') (hend : scanEnd bytes n offset ≤ m) :
    scanEntry bytes' n offset = scanEntry bytes n offset := by
  induction n generalizing offset with
  | zero => rfl
  | succ n ih =>
    rw [scanEnd] at hend
    have hread : RansomShield.readWchar bytes' offset = RansomShield.readWchar bytes offset := by
      refine h.readWchar ?_
      split_ifs at hend
      · exact hend
      · exact (le_scanEnd _ _ _).trans hend
    simp only [RansomShield.scanEntry, hread]
    split_ifs with hzero
    · rfl
    · rw [if_neg hzero] at hend
      rw [ih hend]

/-- **The last character that is read matters**: when only its second byte is changed, and it is not
zero then, it is found at its place. -/
theorem scanEntry_of_last {n : ℕ} (hn : 0 < n) (bytes : List UInt8) (offset : ℕ) :
    ∃ t < n, scanEnd bytes n offset = offset + 2 * t + 2 ∧
      ∀ bytes' : List UInt8, (∀ i, i ≠ offset + 2 * t + 1 → bytes'.getD i 0 = bytes.getD i 0) →
        readWchar bytes' (offset + 2 * t) ≠ 0 →
        (scanEntry bytes' n offset)[t]? = some (readWchar bytes' (offset + 2 * t)) := by
  induction n generalizing offset with
  | zero => exact absurd hn (lt_irrefl 0)
  | succ n ih =>
    rw [scanEnd]
    by_cases hzero : readWchar bytes offset = 0
    · refine ⟨0, Nat.succ_pos n, if_pos hzero, fun bytes' _ hne => ?_⟩
      rw [Nat.mul_zero, Nat.add_zero] at hne ⊢
      simp [scanEntry, hne]
    rw [if_neg hzero]
    cases n with
    | zero =>
      refine ⟨0, Nat.one_pos, rfl, fun bytes' _ hne => ?_⟩
      rw [Nat.mul_zero, Nat.add_zero] at hne ⊢
      simp [scanEntry, hne]
    | succ n =>
      obtain ⟨t, ht, hend, hlast⟩ := ih (Nat.succ_pos n) (offset + 2)
      have hshift : offset + 2 + 2 * t = offset + 2 * (t + 1) := by omega
      rw [hshift] at hlast hend
      refine ⟨t + 1, Nat.succ_lt_succ ht, hend, fun bytes' hsame hne => ?_⟩
      have hfirst : readWchar bytes' offset = readWchar bytes offset := by
        rw [readWchar, readWchar, hsame _ (by omega), hsame _ (by omega)]
      rw [scanEntry, hfirst, if_neg hzero]
      exact hlast bytes' hsame hne

/-! ### Adding the entries -/

section

variable {s : DriverState} {bytes bytes' : List UInt8} {base i k m : ℕ}

/-- There is still room when the entry with the index is reached. -/
def Room (s : DriverState) (bytes : List UInt8) (base i : ℕ) : Prop :=
  s.dynamicAllowlistCount.1.toNat + (List.range i).countP
      (fun j => scanEntry bytes (rsMaxAllowlistNameLen - 1) (base + 520 * j) ≠ []) <
    rsMaxAllowlistEntries

theorem addEntries_succ (bytes : List UInt8) (base i : ℕ) (s : DriverState) :
    addEntries bytes base (i + 1) s =
      rsAddDynamicAllowlistEntry (addEntries bytes base i s)
        (scanEntry bytes (rsMaxAllowlistNameLen - 1) (base + 520 * i)) := by
  rw [addEntries, List.range_succ, List.foldl_append]
  rfl

theorem isName_scanEntry (bytes : List UInt8) (offset : ℕ) :
    IsName (scanEntry bytes (rsMaxAllowlistNameLen - 1) offset) := by
  rw [scanEntry_eq_cut]
  exact isName_cut _

theorem dynamicNames_addEntries (bytes : List UInt8) (base i : ℕ) (s : DriverState) :
    dynamicNames (addEntries bytes base i s) =
      ((List.range i).map fun j =>
        scanEntry bytes (rsMaxAllowlistNameLen - 1) (base + 520 * j)).foldl addName
        (dynamicNames s) := by
  induction i with
  | zero => rfl
  | succ i ih =>
    rw [addEntries_succ, dynamicNames_add _ (isName_scanEntry ..), ih, List.range_succ,
      List.map_append, List.foldl_append]
    rfl

/-- **There is room** when the list is not full. -/
theorem room_iff :
    Room s bytes base i ↔
      (dynamicNames (addEntries bytes base i s)).length < rsMaxAllowlistEntries := by
  have hold : (dynamicNames s).length ≤ rsMaxAllowlistEntries := by
    rw [length_dynamicNames]
    exact s.dynamicAllowlistCount.2
  rw [dynamicNames_addEntries, foldl_addName_of_le _ hold, List.length_take, List.length_append,
    length_dynamicNames, ← List.countP_eq_length_filter, List.countP_map, Room]
  rw [min_lt_iff, or_iff_right (lt_irrefl _)]
  rfl

theorem rsAddDynamicAllowlistEntry_of_full (h : rsMaxAllowlistEntries ≤ (dynamicNames s).length)
    (entry : List UInt16) : rsAddDynamicAllowlistEntry s entry = s := by
  have hfull : ¬ s.dynamicAllowlistCount.1 < UInt32.ofNat rsMaxAllowlistEntries := by
    intro hlt
    rw [length_dynamicNames] at h
    exact absurd (UInt32.lt_iff_toNat_lt.1 hlt) (not_lt.2 h)
  unfold rsAddDynamicAllowlistEntry
  rw [dif_neg hfull, ite_self]

/-- **Only the entries matter for which there is room.** -/
theorem AgreeOn.addEntries (h : AgreeOn m bytes bytes')
    (hend : ∀ i < k, Room s bytes base i →
      scanEnd bytes (rsMaxAllowlistNameLen - 1) (base + 520 * i) ≤ m) :
    addEntries bytes' base k s = addEntries bytes base k s := by
  induction k with
  | zero => rfl
  | succ k ih =>
    rw [addEntries_succ, addEntries_succ, ih fun i hi => hend i (hi.trans (Nat.lt_succ_self k))]
    by_cases hroom : Room s bytes base k
    · rw [h.scanEntry (hend k (Nat.lt_succ_self k) hroom)]
    · have hfull := not_lt.1 fun hlt => hroom (room_iff.2 hlt)
      rw [rsAddDynamicAllowlistEntry_of_full hfull, rsAddDynamicAllowlistEntry_of_full hfull]

theorem prefix_addName (names : List (List UInt16)) (name : List UInt16) :
    names <+: addName names name := by
  unfold addName
  split_ifs
  · exact List.prefix_refl names
  · exact List.prefix_append names [name]
  · exact List.prefix_refl names

theorem dynamicNames_addEntries_prefix (s : DriverState) (bytes : List UInt8) (base : ℕ)
    (hik : i ≤ k) :
    dynamicNames (addEntries bytes base i s) <+: dynamicNames (addEntries bytes base k s) := by
  induction k, hik using Nat.le_induction with
  | base => exact List.prefix_refl _
  | succ k _ ih =>
    rw [addEntries_succ, dynamicNames_add _ (isName_scanEntry ..)]
    exact ih.trans (prefix_addName _ _)

theorem exists_wchar (low : UInt8) (v : Option UInt16) :
    ∃ b : UInt8, UInt16.ofNat (low.toNat + 2 ^ 8 * b.toNat) ≠ 0 ∧
      some (UInt16.ofNat (low.toNat + 2 ^ 8 * b.toNat)) ≠ v := by
  have hlow := low.toNat_lt
  have htoNat : ∀ n < 256, (UInt16.ofNat (low.toNat + 2 ^ 8 * n)).toNat = low.toNat + 2 ^ 8 * n :=
    fun n hn => by rw [UInt16.toNat_ofNat', Nat.mod_eq_of_lt (by omega)]
  have hne : ∀ n < 256, 0 < n → UInt16.ofNat (low.toNat + 2 ^ 8 * n) ≠ 0 := by
    intro n hn hpos heq
    have hzero := htoNat n hn
    rw [heq, UInt16.toNat_zero] at hzero
    omega
  by_cases hv : some (UInt16.ofNat (low.toNat + 2 ^ 8 * 1)) = v
  · refine ⟨2, hne 2 (by decide) (by decide), fun heq => ?_⟩
    have hsame := congrArg UInt16.toNat (Option.some.inj (hv.trans heq.symm))
    have htwo := htoNat 2 (by decide)
    have hone := htoNat 1 (by decide)
    have hb : (2 : UInt8).toNat = 2 := rfl
    rw [hb] at hsame
    omega
  · exact ⟨1, hne 1 (by decide) (by decide), hv⟩

/-- **An entry that is not covered matters**: changing the last byte that is read of it changes the
list. -/
theorem exists_set_of_room (hik : i < k) (hroom : Room s bytes base i)
    (hend : m < scanEnd bytes (rsMaxAllowlistNameLen - 1) (base + 520 * i))
    (hlen : base + 520 * k ≤ bytes.length) :
    ∃ o b, m ≤ o ∧ base ≤ o ∧
      dynamicNames (addEntries (bytes.set o b) base k s) ≠
        dynamicNames (addEntries bytes base k s) := by
  obtain ⟨t, ht, hscan, hlast⟩ :=
    scanEntry_of_last (n := rsMaxAllowlistNameLen - 1) (by decide) bytes (base + 520 * i)
  have ht' : t < 259 := ht
  rw [hscan] at hend
  have hlen' : base + 520 * i + 2 * t + 1 < bytes.length := by omega
  obtain ⟨b, hne, hv⟩ := exists_wchar (bytes.getD (base + 520 * i + 2 * t) 0)
    ((dynamicNames (addEntries bytes base k s))[(dynamicNames
      (addEntries bytes base i s)).length]?.bind fun name => name[t]?)
  refine ⟨base + 520 * i + 2 * t + 1, b, by omega, by omega, fun heq => hv ?_⟩
  have hbefore : addEntries (bytes.set (base + 520 * i + 2 * t + 1) b) base i s =
      addEntries bytes base i s := by
    refine (AgreeOn.set bytes (Nat.le_refl _) b).addEntries fun j hj _ => ?_
    have hle : scanEnd bytes (rsMaxAllowlistNameLen - 1) (base + 520 * j) ≤
        base + 520 * j + 2 * 259 := scanEnd_le ..
    omega
  have hchar : readWchar (bytes.set (base + 520 * i + 2 * t + 1) b) (base + 520 * i + 2 * t) =
      UInt16.ofNat ((bytes.getD (base + 520 * i + 2 * t) 0).toNat + 2 ^ 8 * b.toNat) := by
    rw [readWchar, getD_set_self hlen', getD_set_ne (by omega)]
  have hfound := hlast (bytes.set (base + 520 * i + 2 * t + 1) b)
    (fun j hj => getD_set_ne (Ne.symm hj) b) (by rw [hchar]; exact hne)
  rw [hchar] at hfound
  have hname : scanEntry (bytes.set (base + 520 * i + 2 * t + 1) b) (rsMaxAllowlistNameLen - 1)
      (base + 520 * i) ≠ [] := by
    intro hnil
    rw [hnil] at hfound
    simp at hfound
  have hadded := dynamicNames_addEntries_prefix s (bytes.set (base + 520 * i + 2 * t + 1) b) base
    (Nat.succ_le_of_lt hik)
  rw [addEntries_succ, hbefore, dynamicNames_add _ (isName_scanEntry ..), addName, if_neg hname,
    if_pos (room_iff.1 hroom)] at hadded
  obtain ⟨rest, hrest⟩ := hadded
  rw [← heq, ← hrest, List.append_assoc, List.getElem?_append_right le_rfl, Nat.sub_self]
  exact hfound.symm

end

/-! ### Which messages are covered -/

/-- The request is long enough for its type, and the output buffer for the reply. -/
structure Reaches (bytes : List UInt8) (output : Option ℕ) (size replySize : ℕ) : Prop where
  size : size ≤ bytes.length
  output : ∃ length, output = some length ∧ replySize ≤ length

/-- The entries that have an effect lie within the declared message, or their number is too large
whatever lies beyond it. -/
def CoversEntries (s : DriverState) (bytes : List UInt8) (maxEntries countOffset : ℕ) : Prop :=
  maxEntries < (readUlong (bytes.take (messageSize bytes)) countOffset).toNat ∨
    countOffset + 4 ≤ messageSize bytes ∧
      ∀ i < (readUlong bytes countOffset).toNat, Room s bytes (countOffset + 4) i →
        scanEnd bytes (rsMaxAllowlistNameLen - 1) (countOffset + 4 + 520 * i) ≤ messageSize bytes

/-- The bytes that decide about the outcome lie within the declared message, or the request is
refused before they are read. -/
def Covered (s : DriverState) (bytes : List UInt8) (output : Option ℕ) : Prop :=
  ∀ t, IsRequest bytes t →
    match t with
    | .requestUnblockPid =>
      Reaches bytes output sizeofRequestUnblockPid sizeofReplyUnblockPid → 20 ≤ messageSize bytes
    | .updateConfig =>
      Reaches bytes output sizeofRequestUpdateConfig sizeofReplyGeneric → 25 ≤ messageSize bytes
    | .updateAllowlistChunk =>
      Reaches bytes output sizeofRequestUpdateAllowlistChunk sizeofReplyGeneric →
        CoversEntries s bytes rsMaxAllowlistChunk 24
    | .updateAllowlistFull =>
      Reaches bytes output sizeofRequestUpdateAllowlistFull sizeofReplyGeneric →
        CoversEntries s bytes rsMaxAllowlistEntries 16
    | _ => True

section

variable {s : DriverState} {bytes bytes' : List UInt8} {output : Option ℕ}

theorem withOutputBuffer_congr {size replySize : ℕ} {go go' : MessageOutcome}
    (hlength : bytes'.length = bytes.length)
    (hgo : Reaches bytes output size replySize → go' = go) :
    (if bytes'.length < size then invalidParameter s
      else withOutputBuffer s output replySize go') =
    if bytes.length < size then invalidParameter s
      else withOutputBuffer s output replySize go := by
  rw [hlength]
  split_ifs with hsize
  · rfl
  cases output with
  | none => rfl
  | some length =>
    rw [withOutputBuffer, withOutputBuffer]
    split_ifs with hroom
    · rfl
    · exact hgo ⟨not_lt.1 hsize, length, rfl, not_lt.1 hroom⟩

theorem withOutputBuffer_of_reaches {size replySize : ℕ} {go : MessageOutcome}
    (h : Reaches bytes output size replySize) :
    (if bytes.length < size then invalidParameter s
      else withOutputBuffer s output replySize go) = go := by
  obtain ⟨hsize, length, rfl, hlength⟩ := h
  rw [if_neg (not_lt.2 hsize), withOutputBuffer_of_le hlength]

theorem Reaches.congr {size replySize : ℕ} (h : Reaches bytes output size replySize)
    (hlength : bytes'.length = bytes.length) : Reaches bytes' output size replySize :=
  ⟨by rw [hlength]; exact h.size, h.output⟩

theorem SameMessage.set {i : ℕ} (hheader : sizeofMessageHeader ≤ i) (hi : messageSize bytes ≤ i)
    (b : UInt8) : SameMessage bytes (bytes.set i b) :=
  AgreeOn.set bytes (max_le hheader hi) b

theorem exists_ne_byte (b : UInt8) : ∃ b' : UInt8, b' ≠ b := by
  by_cases hb : b = 0
  · exact ⟨1, by rw [hb]; decide⟩
  · exact ⟨0, fun h => hb h.symm⟩

/-- The outcome of the case of a type depends on the declared message only. -/
def Declared (s : DriverState) (bytes : List UInt8) (output : Option ℕ) (t : RsMessageType) :
    Prop :=
  ∀ bytes', SameMessage bytes bytes' →
    requestCase s bytes' output t = requestCase s bytes output t

/-! ### Unblocking -/

theorem toNat_readUlong (bytes : List UInt8) (offset : ℕ) :
    (readUlong bytes offset).toNat =
      (bytes.getD offset 0).toNat + 2 ^ 8 * (bytes.getD (offset + 1) 0).toNat +
        2 ^ 16 * (bytes.getD (offset + 2) 0).toNat +
          2 ^ 24 * (bytes.getD (offset + 3) 0).toNat := by
  have h0 := (bytes.getD offset 0).toNat_lt
  have h1 := (bytes.getD (offset + 1) 0).toNat_lt
  have h2 := (bytes.getD (offset + 2) 0).toNat_lt
  have h3 := (bytes.getD (offset + 3) 0).toNat_lt
  rw [readUlong, UInt32.toNat_ofNat', Nat.mod_eq_of_lt (by omega)]

theorem readUlong_set_last {offset : ℕ} {b : UInt8} (hlen : offset + 3 < bytes.length)
    (hb : b ≠ bytes.getD (offset + 3) 0) :
    readUlong (bytes.set (offset + 3) b) offset ≠ readUlong bytes offset := by
  intro heq
  refine hb (UInt8.toNat_inj.1 ?_)
  have htoNat := congrArg UInt32.toNat heq
  rw [toNat_readUlong, toNat_readUlong, getD_set_self hlen, getD_set_ne (by omega),
    getD_set_ne (by omega), getD_set_ne (by omega)] at htoNat
  omega

theorem declared_unblockPid_iff :
    Declared s bytes output .requestUnblockPid ↔
      (Reaches bytes output sizeofRequestUnblockPid sizeofReplyUnblockPid →
        20 ≤ messageSize bytes) := by
  constructor
  · intro h hreaches
    by_contra hlt
    have hlen : 16 + 3 < bytes.length := hreaches.size
    obtain ⟨b, hb⟩ := exists_ne_byte (bytes.getD (16 + 3) 0)
    have hsame : SameMessage bytes (bytes.set (16 + 3) b) :=
      SameMessage.set (by decide) (by omega) b
    have heq := h _ hsame
    rw [requestCase, requestCase, requestUnblockPid, requestUnblockPid,
      withOutputBuffer_of_reaches (hreaches.congr hsame.length),
      withOutputBuffer_of_reaches hreaches] at heq
    have hreply := Option.some.inj (congrArg MessageOutcome.reply heq)
    exact readUlong_set_last hlen hb (RsReply.unblockPid.inj hreply).2.2
  · intro h bytes' hsame
    refine withOutputBuffer_congr hsame.length fun hreaches => ?_
    rw [(hsame.mono (le_max_right _ _)).readUlong (h hreaches)]

/-! ### Settings -/

theorem declared_updateConfig_iff :
    Declared s bytes output .updateConfig ↔
      (Reaches bytes output sizeofRequestUpdateConfig sizeofReplyGeneric →
        25 ≤ messageSize bytes) := by
  constructor
  · intro h hreaches
    by_contra hlt
    have hlen : 28 ≤ bytes.length := hreaches.size
    obtain ⟨b, hb⟩ := exists_ne_byte (bytes.getD 24 0)
    have hsame : SameMessage bytes (bytes.set 24 b) := SameMessage.set (by decide) (by omega) b
    have heq := h _ hsame
    obtain ⟨length, rfl, hlength⟩ := hreaches.output
    rw [requestCase, requestCase, updateConfig, updateConfig, hsame.length,
      if_neg (not_lt.2 hreaches.size), if_neg (not_lt.2 hreaches.size), genericRequest,
      genericRequest, withOutputBuffer_of_le hlength, withOutputBuffer_of_le hlength] at heq
    have hmonitoring := congrArg (fun o => o.state.config.monitoringEnabled) heq
    simp only [drawSequence, rsApplyConfig, getD_set_self (show 24 < bytes.length by omega)]
      at hmonitoring
    exact hb hmonitoring
  · intro h bytes' hsame
    refine withOutputBuffer_congr hsame.length fun hreaches => ?_
    have hmessage := hsame.mono (le_max_right _ _)
    have hle := h hreaches
    rw [hmessage.readUlong (by omega), hmessage.readUlong (by omega), hmessage.getD (by omega)]

/-! ### Allowlist entries -/

variable {m : ℕ}

theorem getD_take (bytes : List UInt8) (m i : ℕ) :
    (bytes.take m).getD i 0 = if i < m then bytes.getD i 0 else 0 := by
  rw [List.getD_eq_getElem?_getD, List.getElem?_take]
  split_ifs
  · rw [List.getD_eq_getElem?_getD]
  · rfl

/-- What lies beyond the declared message can only make the number of entries larger. -/
theorem AgreeOn.readUlong_take_le (h : AgreeOn m bytes bytes') (offset : ℕ) :
    (RansomShield.readUlong (bytes.take m) offset).toNat ≤
      (RansomShield.readUlong bytes' offset).toNat := by
  have hbyte : ∀ i, ((bytes.take m).getD i 0).toNat ≤ (bytes'.getD i 0).toNat := by
    intro i
    rw [getD_take]
    split_ifs with hi
    · rw [h.getD hi]
    · exact Nat.zero_le _
  rw [toNat_readUlong, toNat_readUlong]
  exact Nat.add_le_add (Nat.add_le_add (Nat.add_le_add (hbyte _) (Nat.mul_le_mul_left _ (hbyte _)))
    (Nat.mul_le_mul_left _ (hbyte _))) (Nat.mul_le_mul_left _ (hbyte _))

/-- The buffer with nothing but zeros beyond the declared message. -/
def clearRest (bytes : List UInt8) : List UInt8 :=
  bytes.take (max sizeofMessageHeader (messageSize bytes)) ++
    List.replicate (bytes.length - max sizeofMessageHeader (messageSize bytes)) 0

theorem sameMessage_clearRest
    (hle : max sizeofMessageHeader (messageSize bytes) ≤ bytes.length) :
    SameMessage bytes (clearRest bytes) where
  length := by
    rw [clearRest, List.length_append, List.length_take, List.length_replicate,
      Nat.min_eq_left hle, Nat.add_sub_cancel' hle]
  bytes i hi := by
    rw [clearRest, List.getElem?_append_left
      (by rw [List.length_take, Nat.min_eq_left hle]; exact hi), List.getElem?_take_of_lt hi]

theorem readUlong_clearRest (hle : max sizeofMessageHeader (messageSize bytes) ≤ bytes.length)
    {offset : ℕ} (hoffset : sizeofMessageHeader ≤ offset) :
    readUlong (clearRest bytes) offset = readUlong (bytes.take (messageSize bytes)) offset := by
  have hbyte : ∀ i, sizeofMessageHeader ≤ i →
      (clearRest bytes).getD i 0 = (bytes.take (messageSize bytes)).getD i 0 := by
    intro i hi
    rw [getD_take]
    by_cases hlt : i < messageSize bytes
    · rw [if_pos hlt, (sameMessage_clearRest hle).getD (lt_max_of_lt_right hlt)]
    · have hlen : (bytes.take (max sizeofMessageHeader (messageSize bytes))).length ≤ i := by
        rw [List.length_take, Nat.min_eq_left hle]
        exact max_le hi (not_lt.1 hlt)
      rw [if_neg hlt, clearRest, List.getD_append_right _ _ _ _ hlen,
        List.getD_eq_getElem?_getD, List.getElem?_getD_replicate_default_eq]
  unfold readUlong
  rw [hbyte _ hoffset, hbyte _ (by omega), hbyte _ (by omega), hbyte _ (by omega)]

section

variable {messageType : RsMessageType} {size maxEntries countOffset : ℕ}

theorem status_allowlistRequest_iff (h : Reaches bytes output size sizeofReplyGeneric) :
    (allowlistRequest s messageType size maxEntries countOffset bytes output).status = .success ↔
      (readUlong bytes countOffset).toNat ≤ maxEntries := by
  rw [allowlistRequest, withOutputBuffer_of_reaches h]
  obtain ⟨length, rfl, hlength⟩ := h.output
  dsimp only
  split_ifs with hcount
  · exact iff_of_false (fun h => by cases h) (not_le.2 hcount)
  · rw [genericRequest, withOutputBuffer_of_le hlength]
    exact iff_of_true rfl (not_lt.1 hcount)

theorem state_allowlistRequest (h : Reaches bytes output size sizeofReplyGeneric)
    (hcount : (readUlong bytes countOffset).toNat ≤ maxEntries) :
    (allowlistRequest s messageType size maxEntries countOffset bytes output).state =
      drawSequence
        (addEntries bytes (countOffset + 4) (readUlong bytes countOffset).toNat s) := by
  rw [allowlistRequest, withOutputBuffer_of_reaches h]
  obtain ⟨length, rfl, hlength⟩ := h.output
  rw [if_neg (not_lt.2 hcount), genericRequest, withOutputBuffer_of_le hlength]

/-- The declared message decides about an allowlist request: all buffers that hold it have the same
outcome. -/
def Decides (s : DriverState) (messageType : RsMessageType) (size maxEntries countOffset : ℕ)
    (bytes : List UInt8) (output : Option ℕ) : Prop :=
  ∀ bytes', SameMessage bytes bytes' →
    allowlistRequest s messageType size maxEntries countOffset bytes' output =
      allowlistRequest s messageType size maxEntries countOffset bytes output

/-- Then all of them have too many entries, or none. -/
theorem Decides.count_le_iff (h : Decides s messageType size maxEntries countOffset bytes output)
    (hreaches : Reaches bytes output size sizeofReplyGeneric) (hsame : SameMessage bytes bytes') :
    (readUlong bytes' countOffset).toNat ≤ maxEntries ↔
      (readUlong bytes countOffset).toNat ≤ maxEntries := by
  have hstatus := congrArg MessageOutcome.status (h bytes' hsame)
  rw [← status_allowlistRequest_iff hreaches, ← hstatus]
  exact (status_allowlistRequest_iff (hreaches.congr hsame.length)).symm

/-- The number of entries is covered, or its part that is covered is too large already. -/
theorem Decides.covers_count
    (h : Decides s messageType size maxEntries countOffset bytes output)
    (hreaches : Reaches bytes output size sizeofReplyGeneric)
    (hheader : sizeofMessageHeader ≤ countOffset) (hsize : countOffset + 4 ≤ size)
    (hmax : maxEntries < 2 ^ 24)
    (hcount : (readUlong bytes countOffset).toNat ≤ maxEntries) :
    countOffset + 4 ≤ messageSize bytes := by
  by_contra hread
  have hlen := hreaches.size
  have hoff : 16 ≤ countOffset := hheader
  have hsame : SameMessage bytes (bytes.set (countOffset + 3) 255) :=
    SameMessage.set (by omega) (by omega) 255
  have hlarge := (h.count_le_iff hreaches hsame).2 hcount
  rw [toNat_readUlong, getD_set_self (by omega)] at hlarge
  have h255 : (255 : UInt8).toNat = 255 := rfl
  omega

theorem Decides.covers_entries
    (h : Decides s messageType size maxEntries countOffset bytes output)
    (hreaches : Reaches bytes output size sizeofReplyGeneric)
    (hheader : sizeofMessageHeader ≤ countOffset)
    (hsize : countOffset + 4 + 520 * maxEntries ≤ size)
    (hcount : (readUlong bytes countOffset).toNat ≤ maxEntries) {i : ℕ}
    (hi : i < (readUlong bytes countOffset).toNat) (hroom : Room s bytes (countOffset + 4) i) :
    scanEnd bytes (rsMaxAllowlistNameLen - 1) (countOffset + 4 + 520 * i) ≤ messageSize bytes := by
  by_contra hend
  have hlen := hreaches.size
  obtain ⟨o, b, hdeclared, hbase, hne⟩ := exists_set_of_room hi hroom (not_le.1 hend) (by omega)
  have hsame : SameMessage bytes (bytes.set o b) :=
    SameMessage.set (le_trans hheader (by omega)) hdeclared b
  have hstate := congrArg MessageOutcome.state (h _ hsame)
  rw [state_allowlistRequest (hreaches.congr hsame.length)
    ((h.count_le_iff hreaches hsame).2 hcount), state_allowlistRequest hreaches hcount,
    (AgreeOn.set bytes hbase b).readUlong le_rfl] at hstate
  have hnames := congrArg dynamicNames hstate
  exact hne hnames

/-- **When the declared message decides** about an allowlist request. -/
theorem declared_allowlistRequest_iff (hheader : sizeofMessageHeader ≤ countOffset)
    (hsize : countOffset + 4 + 520 * maxEntries ≤ size) (hmax : maxEntries < 2 ^ 24)
    (hdeclared : messageSize bytes ≤ bytes.length) :
    Decides s messageType size maxEntries countOffset bytes output ↔
      (Reaches bytes output size sizeofReplyGeneric →
        CoversEntries s bytes maxEntries countOffset) := by
  constructor
  · intro h hreaches
    refine or_iff_not_imp_left.2 fun hfew => ?_
    have hle : max sizeofMessageHeader (messageSize bytes) ≤ bytes.length :=
      max_le (le_trans hheader (by have := hreaches.size; omega)) hdeclared
    -- the number is not too large, since it would not be with zeros behind the declared message
    have hcount : (readUlong bytes countOffset).toNat ≤ maxEntries := by
      rw [← h.count_le_iff hreaches (sameMessage_clearRest hle), readUlong_clearRest hle hheader]
      exact not_lt.1 hfew
    refine ⟨h.covers_count hreaches hheader (by omega) hmax hcount, ?_⟩
    intro i hi hroom
    exact h.covers_entries hreaches hheader hsize hcount hi hroom
  · intro h bytes' hsame
    refine withOutputBuffer_congr hsame.length fun hreaches => ?_
    have hmessage := hsame.mono (le_max_right _ _)
    rcases h hreaches with hcount | ⟨hcount, hend⟩
    · -- both numbers are too large
      have hrefl : AgreeOn (messageSize bytes) bytes bytes := ⟨rfl, fun _ _ => rfl⟩
      simp only [if_pos (hcount.trans_le (hmessage.readUlong_take_le _)),
        if_pos (hcount.trans_le (hrefl.readUlong_take_le _))]
    · simp only [genericRequest, hmessage.readUlong hcount, hmessage.addEntries hend]

end

end

/-! ### All messages -/

/-- **When only the declared message matters.**  For every state, every request and every output
buffer: all buffers of the same length with the same header that agree with the request on its first
`MessageSize` bytes have the same outcome if and only if the declared message covers the bytes that
decide about it: the process of a request that unblocks one, the settings up to the monitoring flag,
the number of entries and the entries for which there is room, each up to its terminator; or the
request is refused without them. -/
theorem declared_message_iff (s : DriverState) (bytes : List UInt8) (output : Option ℕ) :
    (∀ bytes', SameMessage bytes bytes' →
      rsMessageNotifyCallback s (some bytes') output =
        rsMessageNotifyCallback s (some bytes) output) ↔ Covered s bytes output := by
  by_cases hrefused : ∀ t, ¬ IsRequest bytes t
  · refine iff_of_true (fun bytes' hsame => hsame.refused hrefused s output) fun t ht => ?_
    exact absurd ht (hrefused t)
  push Not at hrefused
  obtain ⟨t, ht⟩ := hrefused
  have hcase : (∀ bytes', SameMessage bytes bytes' →
      rsMessageNotifyCallback s (some bytes') output =
        rsMessageNotifyCallback s (some bytes) output) ↔ Declared s bytes output t := by
    refine forall₂_congr fun bytes' hsame => ?_
    rw [(hsame.isRequest ht).eq_requestCase, ht.eq_requestCase]
  have hunique : ∀ t', IsRequest bytes t' → t' = t := fun t' ht' =>
    Option.some.inj (ht'.type.symm.trans ht.type)
  have hcovered : ∀ P : RsMessageType → Prop, (∀ t', IsRequest bytes t' → P t') ↔ P t := by
    refine fun P => ⟨fun h => h t ht, fun h t' ht' => ?_⟩
    rw [hunique t' ht']
    exact h
  rw [hcase, Covered, hcovered]
  have hsize : messageSize bytes ≤ bytes.length := ht.size
  cases t with
  | requestUnblockPid => exact declared_unblockPid_iff
  | updateConfig => exact declared_updateConfig_iff
  | updateAllowlistChunk =>
    exact declared_allowlistRequest_iff (by decide) (by decide) (by decide) hsize
  | updateAllowlistFull =>
    exact declared_allowlistRequest_iff (by decide) (by decide) (by decide) hsize
  | _ => exact iff_of_true (fun _ _ => rfl) trivial

/-! ### A process named beyond the message -/

/-- A header alone that asks to unblock a process, and the process behind it. -/
def undeclaredPid (processId : UInt32) : List UInt8 :=
  makeHeader 1 .requestUnblockPid sizeofMessageHeader ++ ulongBytes processId

/-- **The process named beyond the declared message is unblocked**: the two buffers differ behind
their 16 declared bytes only, and the replies name different processes. -/
theorem undeclared_pid_matters :
    messageSize (undeclaredPid 4) = sizeofMessageHeader ∧
      SameMessage (undeclaredPid 4) (undeclaredPid 8) ∧
      rsMessageNotifyCallback DriverState.init (some (undeclaredPid 8))
          (some sizeofReplyUnblockPid) ≠
        rsMessageNotifyCallback DriverState.init (some (undeclaredPid 4))
          (some sizeofReplyUnblockPid) := by
  have hfour : IsRequest (undeclaredPid 4) .requestUnblockPid :=
    ⟨by decide, by decide, by decide⟩
  have height : IsRequest (undeclaredPid 8) .requestUnblockPid :=
    ⟨by decide, by decide, by decide⟩
  have hsize : messageSize (undeclaredPid 4) = sizeofMessageHeader := by decide
  refine ⟨hsize, ⟨by decide, ?_⟩, ?_⟩
  · rw [hsize]
    decide
  · intro heq
    have hreply := congrArg MessageOutcome.reply heq
    rw [height.eq_requestCase, hfour.eq_requestCase] at hreply
    have hpid := (RsReply.unblockPid.inj (Option.some.inj hreply)).2.2
    exact absurd hpid (by decide)

end RansomShield
