import RansomShield.Pool.Basic
import RansomShield.Tracker.Lookup

/-!
# What the locked sections do to the pool

The lookups, the recording of an operation and the reports work in place: they read and write
contexts that are in the table, and leave the chains alone (`State.InPlace`).  Besides that there
are four moves of a block: `RsCreateProcessContext` hands it to the call, `InsertHeadList` puts it
into the table, the loser of a race frees its own, and removal frees one of the table.  All of them
keep the heap, the chains and the accesses in order (`State.Sound`).
-/

namespace RansomShield

namespace Pool

open Heap (Owner Accounts)

namespace State

@[simp] theorem start_calls (s : State) (c : CallId) (call : Call) :
    (s.start c call).calls = Function.update s.calls c (some call) := rfl

@[simp] theorem setPhase_calls (s : State) (c : CallId) (call : Call) (phase : CallPhase) :
    (s.setPhase c call phase).calls =
      Function.update s.calls c (some { call with phase := phase }) := rfl

@[simp] theorem touch_touch (s : State) (l l' : List ℕ) :
    (s.touch l).touch l' = s.touch (l ++ l') := by
  simp [touch]

@[simp] theorem touch_nil (s : State) : s.touch [] = s := by simp [touch]

/-- The heap, the chains and the accesses are in order.  `holds` says who holds blocks privately:
in the middle of a locked section it is ahead of the phases of the calls. -/
structure Sound (owner : ℕ → Owner CallId) (holds : CallId → Option ℕ) (s : State) : Prop where
  accounts : Accounts owner s.allocated {b | b ∈ s.linked} holds s.freed
  valid : Chained.Valid s.key rsHashProcessId s.contextHashTable
  tracked : ∀ b ∈ s.linked, s.key b ≠ 0 ∧ s.key b ≠ 4
  accessed : ∀ a ∈ s.accesses, a.block ∈ Chained.entries a.table

variable {owner : ℕ → Owner CallId} {holds : CallId → Option ℕ} {s s' : State} {b : ℕ} {c : CallId}

theorem Sound.touch (hs : Sound owner holds s) {bs : List ℕ} (hbs : ∀ b ∈ bs, b ∈ s.linked) :
    Sound owner holds (s.touch bs) where
  accounts := hs.accounts
  valid := hs.valid
  tracked := hs.tracked
  accessed a ha := by
    rcases List.mem_append.1 ha with ha | ha
    · exact hs.accessed a ha
    · obtain ⟨b, hb, rfl⟩ := List.mem_map.1 ha
      exact hbs b hb

theorem key_write (s : State) {b : ℕ} {ctx : RsProcessContext} (hctx : ctx.processId = s.key b)
    (b' : ℕ) : (s.write b ctx).key b' = s.key b' := by
  by_cases hb : b' = b
  · subst hb
    simp [key, write, hctx]
  · simp [key, write, touch, hb]

theorem Sound.write (hs : Sound owner holds s) {ctx : RsProcessContext} (hb : b ∈ s.linked)
    (hctx : ctx.processId = s.key b) : Sound owner holds (s.write b ctx) where
  accounts := hs.accounts
  valid := hs.valid.congr fun b' _ => key_write s hctx b'
  tracked b' hb' := by
    rw [key_write s hctx b']
    exact hs.tracked b' hb'
  accessed := (hs.touch (List.forall_mem_singleton.2 hb)).accessed

/-! ### In place -/

/-- Reads, and writes of contexts in the table that keep their `ProcessId`. -/
structure InPlace (s s' : State) : Prop where
  table : s'.contextHashTable = s.contextHashTable
  count : s'.trackedPidCount = s.trackedPidCount
  calls : s'.calls = s.calls
  key : s'.key = s.key
  contents : ∀ b ∉ s.linked, s'.contents b = s.contents b
  sound : ∀ {owner holds}, Sound owner holds s → Sound owner holds s'

namespace InPlace

theorem linked (h : InPlace s s') : s'.linked = s.linked := by
  rw [State.linked, h.table, State.linked]

theorem trans {s'' : State} (h : InPlace s s') (h' : InPlace s' s'') : InPlace s s'' where
  table := h'.table.trans h.table
  count := h'.count.trans h.count
  calls := h'.calls.trans h.calls
  key := h'.key.trans h.key
  contents b hb := (h'.contents b (by rwa [h.linked])).trans (h.contents b hb)
  sound hs := h'.sound (h.sound hs)

theorem touch {bs : List ℕ} (hbs : ∀ b ∈ bs, b ∈ s.linked) : InPlace s (s.touch bs) :=
  ⟨rfl, rfl, rfl, rfl, fun _ _ => rfl, fun hs => hs.touch hbs⟩

theorem write {ctx : RsProcessContext} (hb : b ∈ s.linked) (hctx : ctx.processId = s.key b) :
    InPlace s (s.write b ctx) where
  table := rfl
  count := rfl
  calls := rfl
  key := funext (key_write s hctx)
  contents _ hb' := Function.update_of_ne (ne_of_mem_of_not_mem hb hb').symm _ _
  sound hs := hs.write hb hctx

end InPlace

/-! ### The functions that work in place -/

theorem mem_linked : b ∈ s.linked ↔ ∃ i, b ∈ s.contextHashTable i := Chained.mem_entries

theorem lookupChain_eq (processId : UInt32) (chain : List ℕ) (s : State) :
    ∃ visited ⊆ chain, lookupChain processId chain s =
      (s.touch visited, chain.find? fun b => s.key b = processId) := by
  induction chain generalizing s with
  | nil => exact ⟨[], List.Subset.refl _, by simp [lookupChain]⟩
  | cons b chain ih =>
    by_cases hb : s.key b = processId
    · refine ⟨[b], by simp, ?_⟩
      have hread : (s.read b).2.processId = processId := hb
      simp only [lookupChain, hread, if_true]
      rw [List.find?_cons_of_pos (by simpa using hb)]
      rfl
    · obtain ⟨visited, hsub, heq⟩ := ih (s.touch [b])
      refine ⟨b :: visited, List.cons_subset_cons b hsub, ?_⟩
      have hread : (s.read b).2.processId ≠ processId := hb
      simp only [lookupChain, if_neg hread]
      rw [List.find?_cons_of_neg (by simpa using hb)]
      exact heq.trans (by rw [touch_touch]; rfl)

/-- **The lookup** reads contexts of the table, and finds the one with the PID. -/
theorem rsLookupProcessContext_eq (s : State) (processId : UInt32) :
    ∃ visited, (∀ b ∈ visited, b ∈ s.linked) ∧ s.rsLookupProcessContext processId =
      (s.touch visited, Chained.lookup s.key rsHashProcessId s.contextHashTable processId) := by
  obtain ⟨visited, hsub, heq⟩ :=
    lookupChain_eq processId (s.contextHashTable (rsHashProcessId processId)) s
  exact ⟨visited, fun b hb => mem_linked.2 ⟨_, hsub hb⟩, heq⟩

theorem InPlace.recordAndEvaluate (hb : b ∈ s.linked) (t : Int64) :
    InPlace s (s.recordAndEvaluate b t).1 :=
  (InPlace.touch (List.forall_mem_singleton.2 hb)).trans
    (.write hb (recordAndEvaluate_processId _ _ _))

theorem recordInContext_eq (s : State) (b : ℕ) (t : Int64) : s.recordInContext b t =
    if (s.contents b).isBlocked then (s.touch [b], .alreadyBlocked)
    else (s.touch [b]).recordAndEvaluate b t := rfl

theorem InPlace.recordInContext (hb : b ∈ s.linked) (t : Int64) :
    InPlace s (s.recordInContext b t).1 := by
  have hread : InPlace s (s.touch [b]) := .touch (by simpa using hb)
  rw [recordInContext_eq]
  split_ifs
  · exact hread
  · exact hread.trans (.recordAndEvaluate (hread.linked ▸ hb) t)

theorem InPlace.recordFirstSection (s : State) (processId : UInt32) (t : Int64) :
    InPlace s (s.recordFirstSection processId t).1 := by
  obtain ⟨visited, hvisited, heq⟩ := rsLookupProcessContext_eq s processId
  have htouch : InPlace s (s.touch visited) := .touch hvisited
  cases hlookup : Chained.lookup s.key rsHashProcessId s.contextHashTable processId with
  | none =>
    simp only [State.recordFirstSection, heq, hlookup]
    exact htouch
  | some b =>
    simp only [State.recordFirstSection, heq, hlookup]
    have hb : b ∈ (s.touch visited).linked := Chained.mem_entries_of_lookup hlookup
    exact htouch.trans (.recordInContext hb t)

/-! ### The reports -/

/-- The entries that `RsGetBlockedPids` adds for a chain. -/
def blockedEntries (contents : ℕ → RsProcessContext) (maxEntries : ℕ)
    (written : List RsBlockedPidEntry) (chain : List ℕ) : List RsBlockedPidEntry :=
  chain.foldl
    (fun written b =>
      if written.length < maxEntries ∧ (contents b).isBlocked = true then
        written ++ [(contents b).blockedEntry]
      else written)
    written

theorem blockedEntries_of_full {contents : ℕ → RsProcessContext} {maxEntries : ℕ}
    {written : List RsBlockedPidEntry} (h : ¬written.length < maxEntries) (chain : List ℕ) :
    blockedEntries contents maxEntries written chain = written := by
  induction chain with
  | nil => rfl
  | cons b chain ih =>
    rw [blockedEntries, List.foldl_cons, if_neg fun hb => h hb.1]
    exact ih

theorem blockedChain_eq (maxEntries : ℕ) (chain : List ℕ) (s : State)
    (written : List RsBlockedPidEntry) : ∃ visited ⊆ chain,
      blockedChain maxEntries chain (s, written) =
        (s.touch visited, blockedEntries s.contents maxEntries written chain) := by
  induction chain generalizing s written with
  | nil => exact ⟨[], List.Subset.refl _, by rw [touch_nil]; rfl⟩
  | cons b chain ih =>
    -- a full buffer ends the loop before the next context is read
    by_cases hlen : written.length < maxEntries
    · obtain ⟨visited, hsub, heq⟩ := ih (s.touch [b])
        (if (s.contents b).isBlocked = true then written ++ [(s.contents b).blockedEntry]
          else written)
      refine ⟨b :: visited, List.cons_subset_cons b hsub, ?_⟩
      rw [touch_touch] at heq
      rw [blockedChain, if_pos hlen, blockedEntries, List.foldl_cons]
      simp only [hlen, true_and]
      exact heq
    · refine ⟨[], List.nil_subset _, ?_⟩
      rw [blockedChain, if_neg hlen, touch_nil, blockedEntries_of_full hlen]

/-- The count of the blocked contexts of a chain, on top of `blocked`. -/
def countedBlocked (contents : ℕ → RsProcessContext) (blocked : UInt32) (chain : List ℕ) : UInt32 :=
  chain.foldl (fun blocked b => if (contents b).isBlocked then blocked + 1 else blocked) blocked

theorem countChain_eq (chain : List ℕ) (s : State) (blocked : UInt32) :
    countChain chain (s, blocked) = (s.touch chain, countedBlocked s.contents blocked chain) := by
  induction chain generalizing s blocked with
  | nil =>
    rw [touch_nil]
    rfl
  | cons b chain ih =>
    refine (ih (s.touch [b]) _).trans ?_
    rw [touch_touch]
    rfl

/-- The entries that `RsGetBlockedPids` adds for a bucket. -/
def bucketEntries (s : State) (maxEntries : ℕ) (written : List RsBlockedPidEntry)
    (i : Fin rsHashTableSize) : List RsBlockedPidEntry :=
  if written.length < maxEntries then
    blockedEntries s.contents maxEntries written (s.contextHashTable i)
  else written

/-- The count of the blocked contexts of a bucket, on top of `blocked`. -/
def bucketCount (s : State) (blocked : UInt32) (i : Fin rsHashTableSize) : UInt32 :=
  countedBlocked s.contents blocked (s.contextHashTable i)

/-- A loop over the buckets that only reads contexts of the table. -/
theorem foldl_touch {σ : Type*} (s : State) (body : State × σ → Fin rsHashTableSize → State × σ)
    (f : σ → Fin rsHashTableSize → σ)
    (hbody : ∀ l x i, ∃ visited, (∀ b ∈ visited, b ∈ s.linked) ∧
      body (s.touch l, x) i = (s.touch (l ++ visited), f x i))
    (buckets : List (Fin rsHashTableSize)) (x : σ) :
    ∃ visited, (∀ b ∈ visited, b ∈ s.linked) ∧
      (buckets.foldl body (s, x)).1 = s.touch visited ∧
      (buckets.foldl body (s, x)).2 = buckets.foldl f x := by
  -- the accesses so far are a parameter of the induction
  have hloop (l : List ℕ) (hl : ∀ b ∈ l, b ∈ s.linked) : ∃ visited, (∀ b ∈ visited, b ∈ s.linked) ∧
      (buckets.foldl body (s.touch l, x)).1 = s.touch visited ∧
      (buckets.foldl body (s.touch l, x)).2 = buckets.foldl f x := by
    induction buckets generalizing l x with
    | nil => exact ⟨l, hl, rfl, rfl⟩
    | cons i buckets ih =>
      obtain ⟨visited, hvisited, heq⟩ := hbody l x i
      rw [List.foldl_cons, List.foldl_cons, heq]
      exact ih _ _ fun b hb => (List.mem_append.1 hb).elim (hl b) (hvisited b)
  have hstart := hloop [] (List.forall_mem_nil _)
  rwa [touch_nil] at hstart

/-- **`RsGetBlockedPids`** reads contexts of the table. -/
theorem rsGetBlockedPids_eq (s : State) (maxEntries : ℕ) :
    ∃ visited, (∀ b ∈ visited, b ∈ s.linked) ∧
      (s.rsGetBlockedPids maxEntries).1 = s.touch visited ∧
      (s.rsGetBlockedPids maxEntries).2 =
        (List.finRange rsHashTableSize).foldl (s.bucketEntries maxEntries) [] := by
  refine foldl_touch s (blockedBucket maxEntries) (s.bucketEntries maxEntries)
    ?_ _ []
  intro l written i
  unfold blockedBucket bucketEntries
  by_cases hlen : written.length < maxEntries
  · obtain ⟨visited, hsub, heq⟩ :=
      blockedChain_eq maxEntries (s.contextHashTable i) (s.touch l) written
    refine ⟨visited, fun b hb => mem_linked.2 ⟨i, hsub hb⟩, ?_⟩
    rw [touch_touch] at heq
    rw [if_pos hlen, if_pos hlen]
    exact heq
  · refine ⟨[], List.forall_mem_nil _, ?_⟩
    rw [if_neg hlen, if_neg hlen, List.append_nil]

/-- **`RsGetPidCounts`** reads the contexts of the table. -/
theorem countBlocked_eq (s : State) :
    ∃ visited, (∀ b ∈ visited, b ∈ s.linked) ∧ s.countBlocked.1 = s.touch visited ∧
      s.countBlocked.2 = (List.finRange rsHashTableSize).foldl s.bucketCount 0 := by
  refine foldl_touch s countBucket s.bucketCount ?_ _ 0
  intro l blocked i
  refine ⟨s.contextHashTable i, fun b hb => mem_linked.2 ⟨i, hb⟩, ?_⟩
  rw [← touch_touch]
  exact countChain_eq _ _ _

theorem InPlace.rsGetBlockedPids (s : State) (maxEntries : ℕ) :
    InPlace s (s.rsGetBlockedPids maxEntries).1 := by
  obtain ⟨visited, hvisited, heq, -⟩ := rsGetBlockedPids_eq s maxEntries
  rw [heq]
  exact .touch hvisited

theorem InPlace.rsGetPidCounts (s : State) : InPlace s s.rsGetPidCounts.1 := by
  obtain ⟨visited, hvisited, heq, -⟩ := countBlocked_eq s
  rw [State.rsGetPidCounts, Prod.map_fst, id_eq, heq]
  exact .touch hvisited

/-! ### The moves of a block -/

theorem Sound.create (hs : Sound owner holds s) (hc : holds c = none) (processId : UInt32)
    (processImageName : Option UnicodeString) :
    Sound (Function.update owner s.allocated (.held c))
      (Function.update holds c (some s.allocated))
      (s.rsCreateProcessContext processId processImageName).1 := by
  have hold (b : ℕ) (hb : b ∈ s.linked) :
      (s.rsCreateProcessContext processId processImageName).1.key b = s.key b := by
    have hne : b ≠ s.allocated := (hs.accounts.lt_of_mem (Set.mem_ofPred.2 hb)).ne
    simp [key, State.rsCreateProcessContext, hne]
  exact
    { accounts := hs.accounts.allocate hc
      valid := hs.valid.congr hold
      tracked := fun b hb => by
        rw [hold b hb]
        exact hs.tracked b hb
      accessed := hs.accessed }

theorem Sound.discard (hs : Sound owner holds s) (hb : holds c = some b) :
    Sound (Function.update owner b .freed) (Function.update holds c none)
      (s.exFreePoolWithTag b) where
  accounts := hs.accounts.discard hb
  valid := hs.valid
  tracked := hs.tracked
  accessed := hs.accessed

theorem mem_head {bucket : Fin rsHashTableSize}
    (hb : b ∈ (s.contextHashTable bucket).head?.toList) : b ∈ s.linked :=
  mem_linked.2 ⟨bucket, List.mem_of_mem_head? (Option.mem_toList.1 hb)⟩

theorem insertHeadList_table (s : State) (b : ℕ) :
    (s.insertHeadList (rsHashProcessId (s.key b)) b).contextHashTable =
      Chained.insert s.key rsHashProcessId s.contextHashTable b := rfl

theorem mem_linked_insertHeadList {b' : ℕ} :
    b' ∈ (s.insertHeadList (rsHashProcessId (s.key b)) b).linked ↔ b' = b ∨ b' ∈ s.linked := by
  rw [linked, insertHeadList_table]
  exact Chained.mem_entries_insert

theorem Sound.insert (hs : Sound owner holds s) (hb : holds c = some b)
    (hkey : s.key b ≠ 0 ∧ s.key b ≠ 4)
    (hnone : Chained.lookup s.key rsHashProcessId s.contextHashTable (s.key b) = none) :
    Sound (Function.update owner b .shared) (Function.update holds c none)
      (s.insertHeadList (rsHashProcessId (s.key b)) b) where
  accounts := by
    have hset : {b' | b' ∈ (s.insertHeadList (rsHashProcessId (s.key b)) b).linked} =
        Insert.insert b {b' | b' ∈ s.linked} := by
      ext b'
      rw [Set.mem_insert_iff, Set.mem_ofPred, Set.mem_ofPred, mem_linked_insertHeadList]
    rw [hset]
    exact hs.accounts.share hb
  valid := hs.valid.insert hnone
  tracked b' hb' := by
    rcases mem_linked_insertHeadList.1 hb' with rfl | hb'
    · exact hkey
    · exact hs.tracked b' hb'
  accessed a ha := by
    rcases List.mem_append.1 ha with ha | ha
    · exact (hs.touch fun _ hb' => mem_head hb').accessed a ha
    · have hmem : b ∈ (s.insertHeadList (rsHashProcessId (s.key b)) b).linked :=
        mem_linked_insertHeadList.2 (.inl rfl)
      obtain rfl := List.mem_singleton.1 ha
      exact hmem

/-- A block is unlinked and freed. -/
def release (s : State) (b : ℕ) : State :=
  { s with
    contextHashTable := Chained.unlink s.contextHashTable b
    freed := s.freed ++ [b] }

theorem Sound.mem_linked_release (hs : Sound owner holds s) {b' : ℕ} :
    b' ∈ (s.release b).linked ↔ b' ∈ s.linked ∧ b' ≠ b := by
  rw [linked, linked, release]
  exact hs.valid.mem_entries_unlink

theorem Sound.release (hs : Sound owner holds s) (hb : b ∈ s.linked) :
    Sound (Function.update owner b .freed) holds (s.release b) where
  accounts := by
    have hset : {b' | b' ∈ (s.release b).linked} = {b' | b' ∈ s.linked} \ {b} := by
      ext b'
      rw [Set.mem_sdiff, Set.mem_singleton_iff, Set.mem_ofPred, Set.mem_ofPred,
        hs.mem_linked_release]
    rw [hset]
    exact hs.accounts.withdraw (Set.mem_ofPred.2 hb)
  valid := hs.valid.unlink b
  tracked b' hb' := hs.tracked b' (hs.mem_linked_release.1 hb').1
  accessed := hs.accessed

theorem mem_of_mem_neighbours {b' : ℕ} {chain : List ℕ} (h : b' ∈ neighbours b chain) :
    b' ∈ chain := by
  induction chain using neighbours.induct b with
  | case1 y chain =>
    rw [neighbours, if_pos rfl] at h
    exact List.mem_cons_of_mem _ (List.mem_cons.2 (.inl (List.mem_singleton.1 h)))
  | case2 x chain hx =>
    rw [neighbours, if_neg hx, if_pos rfl] at h
    rcases List.mem_cons.1 h with rfl | h
    · exact List.mem_cons_self
    · have := List.mem_of_mem_head? (Option.mem_toList.1 h)
      exact List.mem_cons_of_mem _ (List.mem_cons_of_mem _ this)
  | case3 x y chain hx hy ih =>
    rw [neighbours, if_neg hx, if_neg hy] at h
    exact List.mem_cons_of_mem x (ih h)
  | case4 chain hchain =>
    rw [neighbours] at h
    · cases h
    · exact hchain

end State

end Pool

end RansomShield
