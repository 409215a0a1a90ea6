import RansomShield.System.Dispatch
import RansomShield.Tracker.Slots

/-!
# The dynamic allowlist under control actions

The list of names that the dynamic allowlist stands for is changed by two control actions only
(`Control.changeNames`): `RsClearDynamicAllowlist` empties it, and `RsAddDynamicAllowlistEntry` adds
a name; `DriverState.Holds.exec` is the list after any control actions.  The names that the messages
add are the raw entries of the message, each cut to a name (`scanEntry_eq_cut`), so that they fit
into a slot (`fits_messageControls`).
-/

namespace RansomShield

/-! ### The list of names -/

/-- What a control action does to the list of names. -/
def Control.changeNames (names : List (List UInt16)) : Control → List (List UInt16)
  | .clearDynamicAllowlist => []
  | .addDynamicAllowlistEntry name => addName names name
  | _ => names

/-- A name that is added fits into a slot. -/
def Control.Fits : Control → Prop
  | .addDynamicAllowlistEntry name => IsName name
  | _ => True

namespace DriverState.Holds

variable {s : DriverState} {names : List (List UInt16)}

theorem apply (h : s.Holds names) {k : Control} (hk : k.Fits) :
    (k.apply s).Holds (k.changeNames names) := by
  cases k with
  | clearDynamicAllowlist => exact holds_clear s
  | addDynamicAllowlistEntry name => exact h.add hk
  | removeProcessContext p =>
    obtain ⟨_, _, hs⟩ := sameGlobals_removeProcessContext s p
    exact h.congr (by rw [Control.apply, hs]) (by rw [Control.apply, hs])
  | applyConfig | setMonitoring | drawSequence | getBlockedPids | getPidCounts | connect
  | disconnect => exact h.congr rfl rfl

/-- **The list of names after control actions.** -/
theorem exec (h : s.Holds names) {ks : List Control} (hks : ∀ k ∈ ks, k.Fits) :
    (RansomShield.exec Control.apply s ks).Holds
      (RansomShield.exec Control.changeNames names ks) := by
  induction ks generalizing s names with
  | nil => exact h
  | cons k ks ih =>
    refine ih (h.apply (hks k List.mem_cons_self)) ?_
    intro k' hk'
    exact hks k' (List.mem_cons_of_mem k hk')

end DriverState.Holds

/-! ### The entries of a message -/

/-- The raw entry at an offset. -/
def entryAt (bytes : List UInt8) (offset : ℕ) : AllowlistEntry := fun j =>
  readWchar bytes (offset + 2 * j.val)

/-- The first entries of the array at an offset. -/
def rawEntries (bytes : List UInt8) (base entryCount : ℕ) : List AllowlistEntry :=
  (List.range entryCount).map fun i => entryAt bytes (base + 520 * i)

theorem scanEntry_eq_takeWhile (bytes : List UInt8) (n offset : ℕ) :
    scanEntry bytes n offset =
      ((List.range n).map fun j => readWchar bytes (offset + 2 * j)).takeWhile (· ≠ 0) := by
  induction n generalizing offset with
  | zero => rfl
  | succ n ih =>
    have hshift : ((List.range n).map Nat.succ).map (fun j => readWchar bytes (offset + 2 * j)) =
        (List.range n).map fun j => readWchar bytes (offset + 2 + 2 * j) := by
      rw [List.map_map]
      refine List.map_congr_left fun j _ => ?_
      rw [Function.comp_apply, Nat.mul_succ, Nat.add_comm (2 * j), Nat.add_assoc]
    rw [List.range_succ_eq_map, List.map_cons, hshift, List.takeWhile_cons, scanEntry, ih]
    by_cases hc : readWchar bytes offset = 0 <;> simp [hc]

/-- **The scan for the length of an entry** cuts it to a name. -/
theorem scanEntry_eq_cut (bytes : List UInt8) (offset : ℕ) :
    scanEntry bytes (rsMaxAllowlistNameLen - 1) offset = cut (entryAt bytes offset) := by
  have hchars : (List.ofFn (entryAt bytes offset)).take (rsMaxAllowlistNameLen - 1) =
      (List.range (rsMaxAllowlistNameLen - 1)).map fun j => readWchar bytes (offset + 2 * j) := by
    refine List.ext_getElem ?_ ?_
    · rw [List.length_take, List.length_ofFn, List.length_map, List.length_range]
      rfl
    intro j hj hj'
    rw [List.getElem_take, List.getElem_ofFn, List.getElem_map, List.getElem_range, entryAt]
  rw [scanEntry_eq_takeWhile, cut, hchars]

theorem entryControls_eq (bytes : List UInt8) (base entryCount : ℕ) :
    entryControls bytes base entryCount =
      (rawEntries bytes base entryCount).map fun e => .addDynamicAllowlistEntry (cut e) := by
  rw [entryControls, rawEntries, List.map_map]
  exact List.map_congr_left fun i _ => congrArg _ (scanEntry_eq_cut bytes _)

theorem exec_changeNames_add (names : List (List UInt16)) (entries : List AllowlistEntry) :
    exec Control.changeNames names
        (entries.map fun e => .addDynamicAllowlistEntry (cut e)) =
      (entries.map cut).foldl addName names := by
  rw [exec, List.foldl_map, List.foldl_map]
  rfl

/-- **The names that a message adds** fit into a slot. -/
theorem fits_messageControls {s : DriverState} {input : Option (List UInt8)} {output : Option ℕ}
    {k : Control} (h : k ∈ messageControls s input output) : k.Fits := by
  obtain ⟨bytes, t, -, -, hk⟩ := mem_messageControls h
  have hentries : ∀ base n, k ∈ entryControls bytes base n ++ [.drawSequence] → k.Fits := by
    intro base n hmem
    rw [entryControls_eq] at hmem
    rcases List.mem_append.1 hmem with hmem | hmem
    · obtain ⟨e, -, rfl⟩ := List.mem_map.1 hmem
      exact isName_cut e
    · rw [List.mem_singleton.1 hmem]
      trivial
  cases t with
  | updateAllowlistChunk | updateAllowlistFull => exact hentries _ _ hk
  | queryBlockedPids | requestUnblockPid | queryConfig | requestPause | requestResume
  | updateConfig | clearAllowlist =>
    simp only [requestControls, List.mem_cons, List.not_mem_nil, or_false] at hk
    rcases hk with rfl | rfl
    · trivial
    · trivial
  | queryAllowlist =>
    rw [List.mem_singleton.1 hk]
    trivial
  | _ => cases hk

/-! ### Allowlist messages -/

/-- A message that is carried out: it has a header, and its `MessageSize` is not beyond its end. -/
structure IsRequest (bytes : List UInt8) (t : RsMessageType) : Prop where
  header : sizeofMessageHeader ≤ bytes.length
  size : (readUlong bytes 4).toNat ≤ bytes.length
  type : requestType bytes = some t

/-- The case that handles a request. -/
def requestCase (s : DriverState) (bytes : List UInt8) (output : Option ℕ) :
    RsMessageType → MessageOutcome
  | .queryBlockedPids => queryBlockedPids s output
  | .requestUnblockPid => requestUnblockPid s bytes output
  | .queryConfig => queryConfig s output
  | .queryAllowlist => queryAllowlist s output
  | .requestPause => requestPause s output
  | .requestResume => requestResume s output
  | .updateConfig => updateConfig s bytes output
  | .clearAllowlist => clearAllowlist s output
  | .updateAllowlistChunk => updateAllowlistChunk s bytes output
  | .updateAllowlistFull => updateAllowlistFull s bytes output
  | _ => invalidParameter s

theorem IsRequest.eq_requestCase {bytes : List UInt8} {t : RsMessageType} (h : IsRequest bytes t)
    (s : DriverState) (output : Option ℕ) :
    rsMessageNotifyCallback s (some bytes) output = requestCase s bytes output t := by
  unfold rsMessageNotifyCallback
  simp only [if_neg (not_lt.2 h.header), if_neg (not_lt.2 h.size), h.type]
  cases t <;> rfl

/-- A message is refused, or its request is carried out. -/
theorem rsMessageNotifyCallback_cases (s : DriverState) (bytes : List UInt8) (output : Option ℕ) :
    rsMessageNotifyCallback s (some bytes) output = invalidParameter s ∨
      ∃ t, IsRequest bytes t ∧
        rsMessageNotifyCallback s (some bytes) output = requestCase s bytes output t := by
  by_cases hheader : bytes.length < sizeofMessageHeader
  · exact .inl (if_pos hheader)
  by_cases hsize : bytes.length < (readUlong bytes 4).toNat
  · refine .inl ?_
    unfold rsMessageNotifyCallback
    simp only [if_neg hheader, if_pos hsize]
  cases htype : requestType bytes with
  | none =>
    refine .inl ?_
    unfold rsMessageNotifyCallback
    simp only [if_neg hheader, if_neg hsize, htype]
  | some t =>
    have h : IsRequest bytes t := ⟨not_lt.1 hheader, not_lt.1 hsize, htype⟩
    exact .inr ⟨t, h, h.eq_requestCase s output⟩

/-- The requests that change the dynamic allowlist, where the driver accepts them. -/
structure AllowlistMessage where
  bytes : List UInt8
  outputLength : ℕ
  type : requestType bytes = some .clearAllowlist ∨ requestType bytes = some .updateAllowlistChunk ∨
    requestType bytes = some .updateAllowlistFull
  accepted : ∀ s, (rsMessageNotifyCallback s (some bytes) (some outputLength)).status = .success

namespace AllowlistMessage

variable (m : AllowlistMessage)

/-- The state after the message. -/
def handle (s : DriverState) (m : AllowlistMessage) : DriverState :=
  (rsMessageNotifyCallback s (some m.bytes) (some m.outputLength)).state

/-- The message clears the list. -/
def isClear : Bool := requestType m.bytes = some .clearAllowlist

/-- The entries that the message carries. -/
def entries : List AllowlistEntry :=
  match requestType m.bytes with
  | some .updateAllowlistChunk => rawEntries m.bytes 28 (readUlong m.bytes 24).toNat
  | some .updateAllowlistFull => rawEntries m.bytes 20 (readUlong m.bytes 16).toNat
  | _ => []

/-- What the message does to the list of names. -/
def changeNames (names : List (List UInt16)) (m : AllowlistMessage) : List (List UInt16) :=
  if m.isClear then [] else (m.entries.map cut).foldl addName names

/-- The control actions of the message. -/
def controls : List Control := (requestType m.bytes).elim [] (requestControls m.bytes)

theorem messageControls_eq (s : DriverState) :
    messageControls s (some m.bytes) (some m.outputLength) = m.controls :=
  if_pos (m.accepted s)

theorem fits_of_mem_controls {k : Control} (hk : k ∈ m.controls) : k.Fits := by
  rw [← m.messageControls_eq DriverState.init] at hk
  exact fits_messageControls hk

theorem exec_controls (names : List (List UInt16)) :
    exec Control.changeNames names m.controls = changeNames names m := by
  unfold controls
  rcases m.type with ht | ht | ht
  · simp only [ht, Option.elim_some, requestControls, changeNames, isClear]
    rfl
  · simp only [ht, Option.elim_some, requestControls, changeNames, isClear, entries,
      entryControls_eq, exec_append, exec_changeNames_add]
    rfl
  · simp only [ht, Option.elim_some, requestControls, changeNames, isClear, entries,
      entryControls_eq, exec_append, exec_changeNames_add]
    rfl

/-- **What an allowlist message does** to the list of names. -/
theorem holds_handle {s : DriverState} {names : List (List UInt16)} (h : s.Holds names) :
    (handle s m).Holds (changeNames names m) := by
  rw [handle, rsMessageNotifyCallback_state, messageControls_eq, ← exec_controls]
  exact h.exec fun k hk => m.fits_of_mem_controls hk

theorem holds_exec {s : DriverState} {names : List (List UInt16)} (h : s.Holds names)
    (messages : List AllowlistMessage) :
    (exec handle s messages).Holds (exec changeNames names messages) := by
  induction messages generalizing s names with
  | nil => exact h
  | cons m messages ih => exact ih (m.holds_handle h)

end AllowlistMessage

end RansomShield
