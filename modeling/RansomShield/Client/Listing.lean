import RansomShield.Buffers.Wire
import RansomShield.Client.CommandLine
import RansomShield.Client.EventTexts

/-!
# What the command line prints about the driver

The queries of `CommManager` with the bytes of the reply (`Session.sendBytes`), and what
`CmdListBlocked` and `CmdStatus` print of them.  Both walk the entries of the reply up to its
`Count`, without a bound of their own, and print the image names as strings: an entry behind the
array, or a name without a terminator, is read from other memory, and then there are no
`blockedLines`.
-/

namespace RansomShield

open Buffered (readReply ulong wchars ofBytes)

/-! ### Requests -/

/-- `ZeroMemory(&reply, sizeof(reply))`. -/
def zeroed : Memory := fun _ => 0

namespace Session

/-- `CommManager::SendRequest`, with a reply structure that was cleared.  The structure is looked at
only if the request succeeds. -/
def sendBytes (deliveries : ℕ → Delivery) (c : Session) (request : List UInt8)
    (replySize : ℕ) : Session × HResult × Option Memory :=
  if c.connected then
    let delivery := deliveries c.requests
    match c.driver with
    | none =>
      ({ connected := !delivery.code.1.isDisconnect, driver := none, requests := c.requests + 1 },
        delivery.code.1, none)
    | some driver =>
      let o := Buffered.rsMessageNotifyCallback driver (some (ofBytes request)) request.length
        (some zeroed) replySize
      if delivery.succeeds then
        ({ c with driver := some o.state, requests := c.requests + 1 }, .ofStatus o.status,
          o.output (some zeroed))
      else
        ({ connected := !delivery.code.1.isDisconnect
           driver := some (if delivery.handled then o.state else driver)
           requests := c.requests + 1 }, delivery.code.1, none)
  else (c, .notConnected, none)

theorem readReply_zeroed : readReply zeroed = none := rfl

theorem ofBytes_request (request : List UInt8) :
    (List.range request.length).map (ofBytes request) = request := by
  refine List.ext_getElem (by simp) ?_
  intro i hi hi'
  rw [List.getElem_map, List.getElem_range, ofBytes, List.getD_eq_getElem _ _ hi']

/-- **The reply structure holds the reply**: a request with the bytes of the reply does what
`Session.send` does, and the structure is read as its reply. -/
theorem sendBytes_eq (deliveries : ℕ → Delivery) (c : Session) (request : List UInt8)
    (replySize : ℕ) :
    ((c.sendBytes deliveries request replySize).1,
      (c.sendBytes deliveries request replySize).2.1,
      (c.sendBytes deliveries request replySize).2.2.bind readReply) =
      c.send deliveries (request, replySize) := by
  unfold sendBytes send
  split_ifs with hconnected
  · cases hdriver : c.driver with
    | none => rfl
    | some driver =>
      have himplements := Buffered.implements_ofBytes driver request (some zeroed) replySize
      rw [Option.map_some] at himplements
      have hdelivers := Buffered.readReply_output driver (some (ofBytes request)) request.length
        zeroed replySize
      rw [Option.map_some, ofBytes_request] at hdelivers
      simp only [himplements.state, himplements.status]
      split_ifs
      · congr 2
        rw [Buffered.Outcome.output, Option.map_some, Option.bind_some]
        cases hreply : (rsMessageNotifyCallback driver (some request)
            (some replySize)).reply with
        | none =>
          rw [himplements.reply.2 hreply]
          exact readReply_zeroed
        | some reply => exact hdelivers reply hreply zeroed
      · rfl
      · rfl
  · rfl

end Session

/-! ### Output -/

/-- A line of the table of blocked processes: PID, image name and operation count. -/
structure BlockedLine where
  processId : UInt32
  imageName : List UInt16
  operationCount : UInt32
  deriving DecidableEq

/-- The line for the entry with an index, `none` when other memory is read. -/
def blockedLine (m : Memory) (i : ℕ) : Option BlockedLine :=
  if i < rsMaxReportBlocked then
    (terminatedString (wchars m rsMaxImageNameLen (24 + 544 * i + 4))).map fun name =>
      ⟨ulong m (24 + 544 * i), name, ulong m (24 + 544 * i + 536)⟩
  else none

/-- `for (ULONG i = 0; i < reply.Count; i++)`. -/
def blockedLines (m : Memory) : Option (List BlockedLine) :=
  (List.range (ulong m 16).toNat).mapM (blockedLine m)

/-- What `CmdListBlocked` prints of a reply: the number of blocked processes, and a line for each;
nothing when there are none. -/
def listBlockedOutput (m : Memory) : Option (UInt32 × List BlockedLine) :=
  (blockedLines m).map fun lines => (ulong m 16, lines)

/-- What `CmdStatus` prints first. -/
structure StatusLines where
  monitoring : Bool
  fileCountThreshold : UInt32
  timeWindowSeconds : UInt32
  trackedPidCount : UInt32
  blockedPidCount : UInt32
  deriving DecidableEq

/-- The status in the reply to the query for the configuration. -/
def statusLines (m : Memory) : StatusLines where
  monitoring := decide (m 24 ≠ 0)
  fileCountThreshold := ulong m 16
  timeWindowSeconds := ulong m 20
  trackedPidCount := ulong m 28
  blockedPidCount := ulong m 32

/-! ### The lines -/

/-- The line for an entry of the report. -/
def RsBlockedPidEntry.line (e : RsBlockedPidEntry) : BlockedLine :=
  ⟨e.processId, wcs e.imageName, e.operationCount⟩

theorem mapM_eq_map {α β : Type} {f : α → Option β} {g : α → β} {l : List α}
    (h : ∀ a ∈ l, f a = some (g a)) : l.mapM f = some (l.map g) := by
  induction l with
  | nil => rfl
  | cons a l ih =>
    rw [List.mapM_cons, h a List.mem_cons_self, ih fun b hb => h b (List.mem_cons_of_mem a hb)]
    rfl

/-- **The loop over the entries of a report** reads the array only, when its names are
terminated. -/
theorem listBlockedOutput_eq {m : Memory} {header : RsMessageHeader} {count : UInt32}
    {entries : List RsBlockedPidEntry}
    (hread : readReply m = some (.blockedPids header count entries))
    (hcount : count.toNat = entries.length) (hmax : entries.length ≤ rsMaxReportBlocked)
    (hname : ∀ e ∈ entries, 0 ∈ List.ofFn e.imageName) :
    listBlockedOutput m = some (count, entries.map RsBlockedPidEntry.line) := by
  unfold readReply at hread
  obtain ⟨header', -, hread⟩ := Option.bind_eq_some_iff.1 hread
  split at hread
  · simp only [Option.some.injEq, RsReply.blockedPids.injEq] at hread
    obtain ⟨-, hulong, harray⟩ := hread
    have hentry : ∀ i ∈ List.range count.toNat,
        blockedLine m i = some (Buffered.readBlockedEntry m (24 + 544 * i)).line := by
      intro i hi
      have hlt := List.mem_range.1 hi
      have hmem : Buffered.readBlockedEntry m (24 + 544 * i) ∈ entries := by
        rw [← harray, Buffered.readArray, hulong]
        refine List.mem_map_of_mem (List.mem_range.2 ?_)
        omega
      have hterminated : terminatedString (wchars m rsMaxImageNameLen (24 + 544 * i + 4)) =
          some (wcs (wchars m rsMaxImageNameLen (24 + 544 * i + 4))) :=
        if_pos (hname _ hmem)
      rw [blockedLine, if_pos (by omega), hterminated]
      rfl
    have hmin : min count.toNat rsMaxReportBlocked = count.toNat := by omega
    rw [listBlockedOutput, blockedLines, hulong, mapM_eq_map hentry, Option.map_some, ← harray,
      Buffered.readArray, hulong, hmin, List.map_map]
    rfl
  all_goals first
    | cases hread
    | obtain ⟨_, -, hread⟩ := Option.map_eq_some_iff.1 hread
      cases hread

theorem statusLines_eq {m : Memory} {header : RsMessageHeader}
    {fileCountThreshold timeWindowSeconds trackedPidCount blockedPidCount : UInt32}
    {monitoringEnabled : UInt8}
    (hread : readReply m = some (.config header fileCountThreshold timeWindowSeconds
      monitoringEnabled trackedPidCount blockedPidCount)) :
    statusLines m = ⟨decide (monitoringEnabled ≠ 0), fileCountThreshold, timeWindowSeconds,
      trackedPidCount, blockedPidCount⟩ := by
  unfold readReply at hread
  obtain ⟨header', -, hread⟩ := Option.bind_eq_some_iff.1 hread
  split at hread
  case h_3 =>
    simp only [Option.some.injEq, RsReply.config.injEq] at hread
    obtain ⟨-, rfl, rfl, rfl, rfl, rfl⟩ := hread
    rfl
  all_goals first
    | cases hread
    | obtain ⟨_, -, hread⟩ := Option.map_eq_some_iff.1 hread
      cases hread

end RansomShield
