import RansomShield.Tracker.Lookup
import RansomShield.Tracker.Ring

/-!
# Reports about blocked processes

`RsGetBlockedPids` walks the table bucket by bucket and stops when the caller's array is full.  It
reports the first blocked contexts of the table (`rsGetBlockedPids_eq`), each by its own entry: a
reported process is tracked and blocked, and its entry is that of its context
(`lookup_of_mem_rsGetBlockedPids`).  `RsGetPidCounts` walks the table once more and counts them
(`toNat_rsGetPidCounts_blocked`).
-/

namespace RansomShield

/-- A loop that appends to an array of `n` elements until it is full. -/
theorem foldl_append_until {α β : Type*} {p : α → Bool} {f : α → β} {n : ℕ} (l : List α)
    (acc : List β) :
    l.foldl (fun acc a => if acc.length < n ∧ p a = true then acc ++ [f a] else acc) acc =
      acc ++ ((l.filter p).map f).take (n - acc.length) := by
  induction l generalizing acc with
  | nil => simp
  | cons a l ih =>
    rw [List.foldl_cons, ih]
    cases ha : p a with
    | false => simp [ha]
    | true =>
      by_cases hn : acc.length < n
      · have hsub : n - acc.length = n - (acc.length + 1) + 1 := by omega
        simp [ha, hn, hsub]
      · have hzero : n - acc.length = 0 := by omega
        simp [hn, hzero]

/-- **The entries that `RsGetBlockedPids` reports.** -/
theorem rsGetBlockedPids_eq (s : DriverState) (maxEntries : ℕ) :
    rsGetBlockedPids s maxEntries =
      (((Chained.entries s.contextHashTable).filter RsProcessContext.isBlocked).map
        RsProcessContext.blockedEntry).take maxEntries := by
  -- the loop over the buckets, from any number of entries written before
  have key : ∀ (is : List (Fin rsHashTableSize)) (acc : List RsBlockedPidEntry),
      is.foldl (fun written i =>
        if written.length < maxEntries then
          (s.contextHashTable i).foldl
            (fun written ctx =>
              if written.length < maxEntries ∧ ctx.isBlocked = true then
                written ++ [ctx.blockedEntry]
              else written)
            written
        else written) acc =
      acc ++ (((is.flatMap s.contextHashTable).filter RsProcessContext.isBlocked).map
        RsProcessContext.blockedEntry).take (maxEntries - acc.length) := by
    intro is
    induction is with
    | nil => simp
    | cons i is ih =>
      intro acc
      rw [List.foldl_cons, ih, foldl_append_until, List.flatMap_cons, List.filter_append,
        List.map_append, List.take_append]
      split_ifs with hn
      · rw [List.append_assoc, List.length_append, List.length_take]
        congr 3
        omega
      · have hzero : maxEntries - acc.length = 0 := by omega
        simp [hzero]
  exact (key (List.finRange rsHashTableSize) []).trans (by simp [Chained.entries])

/-- The number of blocked contexts in the table. -/
def DriverState.blockedContexts (s : DriverState) : ℕ :=
  (Chained.entries s.contextHashTable).countP RsProcessContext.isBlocked

/-- **As many entries as there are blocked contexts**, up to the size of the array. -/
theorem length_rsGetBlockedPids (s : DriverState) (maxEntries : ℕ) :
    (rsGetBlockedPids s maxEntries).length = min s.blockedContexts maxEntries := by
  rw [rsGetBlockedPids_eq, List.length_take, List.length_map, ← List.countP_eq_length_filter,
    Nat.min_comm]
  rfl

/-- An array that is large enough receives the entry of every blocked context. -/
theorem blockedEntry_mem_rsGetBlockedPids {s : DriverState} {maxEntries : ℕ}
    (hmax : s.blockedContexts ≤ maxEntries) {ctx : RsProcessContext}
    (hctx : ctx ∈ Chained.entries s.contextHashTable) (hb : ctx.isBlocked = true) :
    ctx.blockedEntry ∈ rsGetBlockedPids s maxEntries := by
  have hlen : (((Chained.entries s.contextHashTable).filter RsProcessContext.isBlocked).map
      RsProcessContext.blockedEntry).length ≤ maxEntries := by
    rw [List.length_map, ← List.countP_eq_length_filter]
    exact hmax
  rw [rsGetBlockedPids_eq, List.take_of_length_le hlen]
  exact List.mem_map_of_mem (List.mem_filter.2 ⟨hctx, hb⟩)

theorem nodup_rsGetBlockedPids {s : DriverState} (hs : s.WellFormed) (maxEntries : ℕ) :
    ((rsGetBlockedPids s maxEntries).map RsBlockedPidEntry.processId).Nodup := by
  rw [rsGetBlockedPids_eq, List.map_take, List.map_map]
  refine List.Nodup.sublist (List.take_sublist _ _) ?_
  exact hs.nodup_keys.sublist (List.filter_sublist.map _)

/-- **The count of blocked processes is exact**, as there are fewer contexts than values of a
`ULONG`. -/
theorem toNat_rsGetPidCounts_blocked {s : DriverState}
    (hlen : (Chained.entries s.contextHashTable).length < 2 ^ 32) :
    (rsGetPidCounts s).2.toNat = s.blockedContexts := by
  have hloop : (rsGetPidCounts s).2 = (Chained.entries s.contextHashTable).foldl
      (fun blocked ctx => if ctx.isBlocked = true then blocked + 1 else blocked) 0 := by
    rw [rsGetPidCounts, Chained.entries, List.foldl_flatMap]
  rw [hloop, foldl_count_if _ _ (by rwa [UInt32.toNat_zero, Nat.zero_add]), UInt32.toNat_zero,
    Nat.zero_add, DriverState.blockedContexts]
  simp only [Bool.decide_eq_true]

theorem length_rsGetBlockedPids_le (s : DriverState) (maxEntries : ℕ) :
    (rsGetBlockedPids s maxEntries).length ≤ maxEntries := by
  rw [rsGetBlockedPids_eq]
  exact List.length_take_le _ _

/-- **A reported process is blocked**, and the entry is that of its context. -/
theorem lookup_of_mem_rsGetBlockedPids {s : DriverState} (hs : s.WellFormed) {maxEntries : ℕ}
    {e : RsBlockedPidEntry} (he : e ∈ rsGetBlockedPids s maxEntries) :
    ∃ ctx, rsLookupProcessContext s e.processId = some ctx ∧ ctx.isBlocked = true ∧
      e = ctx.blockedEntry := by
  rw [rsGetBlockedPids_eq] at he
  obtain ⟨ctx, hctx, rfl⟩ := List.mem_map.1 (List.mem_of_mem_take he)
  obtain ⟨hmem, hb⟩ := List.mem_filter.1 hctx
  exact ⟨ctx, hs.lookup_of_mem hmem, hb, rfl⟩

end RansomShield
