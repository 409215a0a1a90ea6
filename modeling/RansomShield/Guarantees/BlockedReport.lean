import RansomShield.Pool.Refinement
import RansomShield.Tracker.Reports

/-!
# The list of blocked processes is exact

`RsGetBlockedPids` walks the chains of the table until its array is full, `RsGetPidCounts` walks
them once more.  In every reachable state the first reports the blocked contexts, each once and
with its own data, and the second counts them (`Pool.blocked_report_exact`), so that the replies to
`RsQueryBlockedPids` and `RsQueryConfig` agree as long as the array of the reply is large enough.
-/

namespace RansomShield

/-- The number of blocked processes that a reply tells the client. -/
def RsReply.blockedCount : RsReply → Option UInt32
  | .blockedPids _ count _ => some count
  | .config _ _ _ _ _ blockedPidCount => some blockedPidCount
  | _ => none

namespace Pool

variable {s : State} {d : DriverState}

/-- The number of blocked contexts in the table. -/
def State.blockedCount (s : State) : ℕ := s.linked.countP fun b => (s.contents b).isBlocked

/-- The driver state that a pool represents, with everything else as after loading. -/
def State.toDriver (s : State) : DriverState :=
  { DriverState.init with
    contextHashTable := Chained.deref s.contents s.contextHashTable
    trackedPidCount := s.trackedPidCount
    config := s.config }

theorem represents_toDriver (s : State) : Represents s s.toDriver := ⟨rfl, rfl, rfl⟩

namespace Represents

theorem entries (h : Represents s d) :
    Chained.entries d.contextHashTable = s.linked.map s.contents := by
  rw [h.table, Chained.entries_deref]
  rfl

theorem mem_entries (h : Represents s d) {b : ℕ} (hb : b ∈ s.linked) :
    s.contents b ∈ Chained.entries d.contextHashTable := by
  rw [h.entries]
  exact List.mem_map_of_mem hb

theorem wellFormed (h : Represents s d) (hs : Reachable s) : d.WellFormed := by
  obtain ⟨owner, hsound⟩ := hs.invariant.sound
  rw [DriverState.WellFormed, h.table]
  exact Chained.valid_deref hsound.valid

theorem blockedContexts (h : Represents s d) : d.blockedContexts = s.blockedCount := by
  rw [DriverState.blockedContexts, h.entries, List.countP_map]
  rfl

theorem toNat_rsGetPidCounts_blocked (h : Represents s d) (hs : Reachable s) :
    (RansomShield.rsGetPidCounts d).2.toNat = s.blockedCount := by
  obtain ⟨owner, hsound⟩ := hs.invariant.sound
  rw [RansomShield.toNat_rsGetPidCounts_blocked, h.blockedContexts]
  rw [h.entries, List.length_map]
  exact hsound.length_linked_lt

end Represents

/-! ### The replies -/

theorem blockedCount_queryBlockedPids (h : Represents s d) {length : ℕ}
    (hlength : sizeofReplyBlockedPids ≤ length) :
    (queryBlockedPids d (some length)).reply.bind RsReply.blockedCount =
      some (UInt32.ofNat (min s.blockedCount rsMaxReportBlocked)) := by
  have hdraw : (drawSequence d).blockedContexts = d.blockedContexts := rfl
  rw [queryBlockedPids, withOutputBuffer_of_le hlength]
  simp only [Option.bind_some, RsReply.blockedCount, length_rsGetBlockedPids, hdraw,
    h.blockedContexts]

theorem blockedCount_queryConfig (h : Represents s d) (hs : Reachable s) {length : ℕ}
    (hlength : sizeofReplyConfig ≤ length) :
    (queryConfig d (some length)).reply.bind RsReply.blockedCount =
      some (UInt32.ofNat s.blockedCount) := by
  have hdraw : rsGetPidCounts (drawSequence d) = rsGetPidCounts d := rfl
  rw [queryConfig, withOutputBuffer_of_le hlength]
  simp only [Option.bind_some, RsReply.blockedCount, hdraw, Option.some.injEq]
  rw [← h.toNat_rsGetPidCounts_blocked hs, UInt32.ofNat_toNat]

/-! ### The report -/

/-- **The report about blocked processes is exact**, in every reachable state and for every size of
the array.  It has as many entries as there are blocked contexts, up to the size of the array, and
no process twice; every entry is that of a blocked context, and an array that is large enough
receives them all.  The counts are those of all contexts and of the blocked ones, and as long as at
most 256 processes are blocked both queries of the client tell the same number. -/
theorem blocked_report_exact (h : Reachable s) (maxEntries : ℕ) :
    (s.rsGetBlockedPids maxEntries).2.length = min s.blockedCount maxEntries ∧
    ((s.rsGetBlockedPids maxEntries).2.map RsBlockedPidEntry.processId).Nodup ∧
    (∀ e ∈ (s.rsGetBlockedPids maxEntries).2, ∃ b ∈ s.linked, (s.contents b).isBlocked = true ∧
      e.processId = (s.contents b).processId ∧ e.imageName = (s.contents b).imageName ∧
      e.blockedTimestamp = (s.contents b).blockedTimestamp ∧
      e.operationCount = (s.contents b).operationCount.1) ∧
    (s.blockedCount ≤ maxEntries → ∀ b ∈ s.linked, (s.contents b).isBlocked = true →
      (s.contents b).blockedEntry ∈ (s.rsGetBlockedPids maxEntries).2) ∧
    s.rsGetPidCounts.2.1.toNat = s.linked.length ∧
    s.rsGetPidCounts.2.2.toNat = s.blockedCount ∧
    ∀ d, Represents s d → s.blockedCount ≤ rsMaxReportBlocked → ∀ n m,
      sizeofReplyBlockedPids ≤ n → sizeofReplyConfig ≤ m →
      (queryBlockedPids d (some n)).reply.bind RsReply.blockedCount =
        some (UInt32.ofNat s.blockedCount) ∧
      (queryConfig d (some m)).reply.bind RsReply.blockedCount =
        some (UInt32.ofNat s.blockedCount) := by
  have hd := represents_toDriver s
  have hcounts := hd.rsGetPidCounts.2
  rw [(hd.rsGetBlockedPids maxEntries).2, hcounts]
  refine ⟨?_, nodup_rsGetBlockedPids (hd.wellFormed h) maxEntries, ?_, ?_, h.invariant.counted,
    hd.toNat_rsGetPidCounts_blocked h, ?_⟩
  · rw [length_rsGetBlockedPids, hd.blockedContexts]
  · intro e he
    rw [rsGetBlockedPids_eq, hd.entries] at he
    obtain ⟨ctx, hctx, rfl⟩ := List.mem_map.1 (List.mem_of_mem_take he)
    obtain ⟨hmem, hb⟩ := List.mem_filter.1 hctx
    obtain ⟨b, hlinked, rfl⟩ := List.mem_map.1 hmem
    exact ⟨b, hlinked, hb, rfl, rfl, rfl, rfl⟩
  · intro hmax b hlinked hb
    exact blockedEntry_mem_rsGetBlockedPids (by rwa [hd.blockedContexts]) (hd.mem_entries hlinked)
      hb
  · intro d' hd' hmax n m hn hm
    have hblocked := blockedCount_queryBlockedPids hd' hn
    rw [Nat.min_eq_left hmax] at hblocked
    exact ⟨hblocked, blockedCount_queryConfig hd' h hm⟩

/-- One process is blocked by its first write, another one writes below the threshold. -/
def oneBlocked : List Action :=
  let c (p : UInt32) : CallId := ⟨p, 0⟩
  let call (p : UInt32) : List Action :=
    [.enter (c p) none (.ofTicks 5), .advance (c p) .firstSection,
      .advance (c p) (.allocate true), .advance (c p) .secondSection]
  .applyConfig 1 10 1 :: call 8 ++ .applyConfig 50 10 1 :: call 12

/-- One of the two processes is reported, and both queries count one. -/
theorem blocked_report_exact_oneBlocked : ∃ s, machine.run State.init oneBlocked = some s ∧
    s.linked.length = 2 ∧ s.blockedCount = 1 ∧ (s.rsGetBlockedPids 256).2.length = 1 ∧
    s.rsGetPidCounts.2.1.toNat = 2 ∧ s.rsGetPidCounts.2.2.toNat = 1 := by
  obtain ⟨s, hs, hcheck⟩ := machine.exists_of_any
    (fun s => decide (s.linked.length = 2 ∧ s.blockedCount = 1)) State.init oneBlocked
    (by decide +kernel)
  obtain ⟨hlinked, hblocked⟩ := of_decide_eq_true hcheck
  have hreport := blocked_report_exact ⟨oneBlocked, hs⟩ 256
  rw [hlinked, hblocked] at hreport
  exact ⟨s, hs, hlinked, hblocked, hreport.1, hreport.2.2.2.2.1, hreport.2.2.2.2.2.1⟩

end Pool

end RansomShield
