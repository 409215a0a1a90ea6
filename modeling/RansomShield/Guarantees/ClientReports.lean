import RansomShield.Client.Listing
import RansomShield.Guarantees.ImageNames

/-!
# What the client is told

The replies of the driver arrive byte by byte (`reply_on_the_wire`), and the command line prints
them with loops that trust the reply.  In every reachable state the reply is such that these loops
stay within it, and what they print is the table of the driver (`list_blocked_exact`,
`status_exact`).
-/

namespace RansomShield

open Buffered (readReply)

/-- **The reply on the wire.**  For every state of the driver, every request and every output
buffer, of any length and with any content: the handler that works on bytes leaves the state,
the status and the length of the handler that works on messages; if it answers, the client reads
the reply at the offsets of its own structures; if it does not, the buffer is as before. -/
theorem reply_on_the_wire (s : DriverState) (inputBuffer : Option Memory) (n : ℕ)
    (previous : Memory) (m : ℕ) :
    let o := Buffered.rsMessageNotifyCallback s inputBuffer n (some previous) m
    let a := rsMessageNotifyCallback s (inputBuffer.map fun input => (List.range n).map input)
      (some m)
    (o.state = a.state ∧ o.status = a.status ∧ o.returnLength = a.returnLength) ∧
      match a.reply with
      | some reply => ∃ memory, o.output (some previous) = some memory ∧
          readReply memory = some reply
      | none => o.output (some previous) = some previous := by
  intro o a
  have himplements : o.Implements a := Buffered.implements s inputBuffer n (some previous) m
  have hdelivers : o.Delivers a := Buffered.readReply_output s inputBuffer n previous m
  refine ⟨⟨himplements.state, himplements.status, himplements.returnLength⟩, ?_⟩
  cases hreply : a.reply with
  | some reply => exact ⟨_, rfl, hdelivers reply hreply previous⟩
  | none =>
    show some (stores o.writes previous) = some previous
    rw [himplements.reply.2 hreply]
    rfl

/-! ### Queries -/

theorem sendBytes_query {deliveries : ℕ → Delivery} {requests : ℕ}
    (hsucceeds : (deliveries requests).succeeds = true) (driver : DriverState)
    (sequenceNumber : UInt32) {t : RsMessageType} (ht : t ∈ requestTypes) {replySize : ℕ}
    {outcome : MessageOutcome} {reply : RsReply}
    (houtcome : requestCase driver (makeHeader sequenceNumber t sizeofMessageHeader)
      (some replySize) t = outcome) (hstatus : outcome.status = .success)
    (hreply : outcome.reply = some reply) :
    ∃ m, ((Session.mk true (some driver) requests).sendBytes deliveries
        (makeHeader sequenceNumber t sizeofMessageHeader) replySize).2 =
      (.ofStatus .success, some m) ∧ readReply m = some reply := by
  have hrequest : IsRequest (makeHeader sequenceNumber t sizeofMessageHeader) t := by
    have h : IsRequest (makeHeader sequenceNumber t sizeofMessageHeader ++ []) t :=
      isRequest_makeHeader ht rfl (by decide)
    rwa [List.append_nil] at h
  have hsend := Session.sendBytes_eq deliveries ⟨true, some driver, requests⟩
    (makeHeader sequenceNumber t sizeofMessageHeader) replySize
  rw [Session.send_of_success rfl rfl hsucceeds] at hsend
  dsimp only at hsend
  rw [hrequest.eq_requestCase, houtcome, hstatus, hreply, Prod.mk.injEq, Prod.mk.injEq] at hsend
  obtain ⟨-, hhr, hmemory⟩ := hsend
  obtain ⟨m, hm, hread⟩ := Option.bind_eq_some_iff.1 hmemory
  exact ⟨m, Prod.ext hhr hm, hread⟩

theorem image_names_of_reachable {upcase : UInt16 → UInt16} {s : SystemState}
    (hs : Reachable upcase s) :
    ∀ e ∈ rsGetBlockedPids (drawSequence s.driver) rsMaxReportBlocked, ∃ path,
      s.CreatedFor e.processId path ∧ HoldsPath e.imageName (imageChars path) := by
  intro e he
  obtain ⟨ctx, hctx, -, rfl⟩ := lookup_of_mem_rsGetBlockedPids
    (s := drawSequence s.driver) hs.sound.wellFormed he
  obtain ⟨path, hcreated, hname⟩ := exists_createdFor hs hctx
  have hpath := holdsPath_rsCopyImageName path
  rw [← hname] at hpath
  exact ⟨path, hcreated, hpath⟩

/-- **`--list-blocked` prints the blocked processes.**  In every reachable state, when the query
succeeds: the loop reads nothing beyond the reply; it prints as many lines as there are blocked
processes, up to 256, and no process twice; every line is about a process that is blocked, with
the operation count of its context and the beginning of the image path that the context was
created for; and as long as at most 256 processes are blocked, every blocked process has its
line. -/
theorem list_blocked_exact (upcase : UInt16 → UInt16) (s : SystemState) (hs : Reachable upcase s)
    (deliveries : ℕ → Delivery) (requests : ℕ) (sequenceNumber : UInt32)
    (hsucceeds : (deliveries requests).succeeds = true) :
    ∃ m lines, ((Session.mk true (some s.driver) requests).sendBytes deliveries
        (makeHeader sequenceNumber .queryBlockedPids sizeofMessageHeader)
        sizeofReplyBlockedPids).2 = (.ofStatus .success, some m) ∧
      listBlockedOutput m = some (UInt32.ofNat lines.length, lines) ∧
      lines.length = min s.driver.blockedContexts rsMaxReportBlocked ∧
      (lines.map BlockedLine.processId).Nodup ∧
      (∀ line ∈ lines, ∃ ctx path, rsLookupProcessContext s.driver line.processId = some ctx ∧
        ctx.isBlocked = true ∧ line.operationCount = ctx.operationCount.1 ∧
        s.CreatedFor line.processId path ∧
        (0 ∉ imageChars path → line.imageName = (imageChars path).take (rsMaxImageNameLen - 1))) ∧
      (s.driver.blockedContexts ≤ rsMaxReportBlocked → ∀ p ctx,
        rsLookupProcessContext s.driver p = some ctx → ctx.isBlocked = true →
        ctx.blockedEntry.line ∈ lines) := by
  have hwell : (drawSequence s.driver).WellFormed := hs.sound.wellFormed
  have hnames := image_names_of_reachable hs
  obtain ⟨m, hm, hread⟩ := sendBytes_query hsucceeds s.driver sequenceNumber
    (t := .queryBlockedPids) (by decide) (withOutputBuffer_of_le le_rfl) rfl rfl
  have hmax := length_rsGetBlockedPids_le (drawSequence s.driver) rsMaxReportBlocked
  have hlen := length_rsGetBlockedPids (drawSequence s.driver) rsMaxReportBlocked
  have hcount : (UInt32.ofNat (rsGetBlockedPids (drawSequence s.driver)
      rsMaxReportBlocked).length).toNat =
      (rsGetBlockedPids (drawSequence s.driver) rsMaxReportBlocked).length := by
    have h256 : rsMaxReportBlocked = 256 := rfl
    rw [UInt32.toNat_ofNat', Nat.mod_eq_of_lt (by omega)]
  have hprinted := listBlockedOutput_eq hread hcount hmax fun e he => by
    obtain ⟨path, -, hpath⟩ := hnames e he
    exact hpath.zero_mem
  refine ⟨m, _, hm, by rw [List.length_map]; exact hprinted, ?_, ?_, ?_, ?_⟩
  · rw [List.length_map, hlen]
    rfl
  · rw [List.map_map]
    exact nodup_rsGetBlockedPids hwell rsMaxReportBlocked
  · intro line hline
    obtain ⟨e, he, rfl⟩ := List.mem_map.1 hline
    obtain ⟨path, hcreated, hpath⟩ := hnames e he
    obtain ⟨ctx, hctx, hblocked, rfl⟩ := lookup_of_mem_rsGetBlockedPids hwell he
    exact ⟨ctx, path, hctx, hblocked, rfl, hcreated, hpath.wcs_eq⟩
  · intro hfits p ctx hctx hblocked
    refine List.mem_map_of_mem (blockedEntry_mem_rsGetBlockedPids hfits ?_ hblocked)
    exact Chained.mem_entries_of_lookup hctx

/-- One process is blocked, and `--list-blocked` prints one line. -/
theorem list_blocked_exact_blockedAtOnce :
    ∃ s, (system id).run SystemState.init blockedAtOnce = some s ∧
      ∃ m lines, ((Session.mk true (some s.driver) 0).sendBytes (fun _ => Delivery.success)
          (makeHeader 7 .queryBlockedPids sizeofMessageHeader) sizeofReplyBlockedPids).2 =
          (.ofStatus .success, some m) ∧
        listBlockedOutput m = some (UInt32.ofNat lines.length, lines) ∧ lines.length = 1 := by
  obtain ⟨s, hrun, h⟩ := Machine.exists_of_any (system id)
    (fun s => decide (s.driver.blockedContexts = 1)) SystemState.init blockedAtOnce
    (by decide +kernel)
  obtain ⟨m, lines, hm, hprinted, hlen, -⟩ := list_blocked_exact id s ⟨blockedAtOnce, hrun⟩
    (fun _ => Delivery.success) 0 7 rfl
  rw [of_decide_eq_true h] at hlen
  exact ⟨s, hrun, m, lines, hm, hprinted, hlen⟩

/-- **`--status` prints the configuration and the counts** of the driver, when the query
succeeds. -/
theorem status_exact (driver : DriverState) (deliveries : ℕ → Delivery) (requests : ℕ)
    (sequenceNumber : UInt32) (hsucceeds : (deliveries requests).succeeds = true) :
    ∃ m, ((Session.mk true (some driver) requests).sendBytes deliveries
        (makeHeader sequenceNumber .queryConfig sizeofMessageHeader) sizeofReplyConfig).2 =
        (.ofStatus .success, some m) ∧
      statusLines m = ⟨decide (driver.config.monitoringEnabled ≠ 0),
        driver.config.fileCountThreshold, driver.config.timeWindowSeconds,
        (rsGetPidCounts driver).1, (rsGetPidCounts driver).2⟩ := by
  obtain ⟨m, hm, hread⟩ := sendBytes_query hsucceeds driver sequenceNumber
    (t := .queryConfig) (by decide) (withOutputBuffer_of_le le_rfl) rfl rfl
  exact ⟨m, hm, statusLines_eq hread⟩

end RansomShield
