import Mathlib.Logic.Function.Basic
import RansomShield.Machine.Basic

/-!
# A shared value and its copies

Clients that share a value without talking to each other (`replicas`): each fetches a copy, applies
its updates to the copy, and writes the whole copy back with every update.  Nothing merges the
updates of different clients.  What a client writes is made of the value that it has fetched and its
own updates (`copy_of_run`); so it undoes whatever the others have written since
(`value_of_commit_alone`).  If every client fetches after the last write of the others, then no
update is lost (`value_of_undisturbed`).

An update may be refused, and then nothing is written.  A value may look different when it is
fetched (`seen`), as when a part of it cannot be read back.
-/

namespace RansomShield

/-- The shared value, and the copies of the clients. -/
structure Replicas (K V : Type*) where
  value : V
  copies : K → Option V

/-- The actions of the clients. -/
inductive ReplicaAction (K U : Type*)
  | fetch (k : K)
  /-- An update of the copy, which is written back. -/
  | commit (k : K) (u : U)

section

variable {K V U : Type*} [DecidableEq K] (seen : V → V) (apply : V → U → Option V)

/-- The client of an action. -/
def ReplicaAction.client : ReplicaAction K U → K
  | .fetch k => k
  | .commit k _ => k

/-- The update of an action, if it is one of the client. -/
def ReplicaAction.ownUpdate (k : K) : ReplicaAction K U → Option U
  | .fetch _ => none
  | .commit k' u => if k' = k then some u else none

/-- The update of an action. -/
def ReplicaAction.update : ReplicaAction K U → Option U
  | .fetch _ => none
  | .commit _ u => some u

/-- The value after an update that may be refused. -/
def updated (v : V) (u : U) : V := (apply v u).getD v

/-- The clients and the shared value. -/
def replicas : Machine (Replicas K V) (ReplicaAction K U) where
  step s
    | .fetch k => some { s with copies := Function.update s.copies k (some (seen s.value)) }
    | .commit k u =>
      (s.copies k).map fun v =>
        match apply v u with
        | none => s
        | some v' => { value := v', copies := Function.update s.copies k (some v') }

variable {seen apply} {s s' : Replicas K V} {k k' : K} {u : U} {v : V}
  {as : List (ReplicaAction K U)}

/-! ### What a client writes -/

/-- **A commit**: the copy of the client is updated, and written if the update is not refused. -/
theorem commit_cases (h : (replicas seen apply).step s (.commit k u) = some s') :
    ∃ v, s.copies k = some v ∧ s'.copies k = some (updated apply v u) ∧
      (∀ k' ≠ k, s'.copies k' = s.copies k') ∧
      s'.value = (apply v u).getD s.value := by
  obtain ⟨v, hv, rfl⟩ := Option.map_eq_some_iff.1 h
  refine ⟨v, hv, ?_⟩
  rw [updated]
  cases apply v u with
  | none => exact ⟨hv, fun _ _ => rfl, rfl⟩
  | some v' =>
    refine ⟨Function.update_self .., fun k' hk' => ?_, rfl⟩
    exact Function.update_of_ne hk' ..

theorem copies_of_ne {a : ReplicaAction K U} (ha : a.client ≠ k)
    (h : (replicas seen apply).step s a = some s') : s'.copies k = s.copies k := by
  cases a with
  | fetch k' =>
    cases h
    exact Function.update_of_ne (Ne.symm ha) ..
  | commit k' u =>
    obtain ⟨_, -, -, hother, -⟩ := commit_cases h
    exact hother k (Ne.symm ha)

/-- **The copy of a client** consists of what it has fetched and its own updates. -/
theorem copy_of_run (hfetch : .fetch k ∉ as) (hcopy : s.copies k = some v)
    (h : (replicas seen apply).run s as = some s') :
    s'.copies k = some ((as.filterMap (ReplicaAction.ownUpdate k)).foldl (updated apply) v) := by
  induction as generalizing s v with
  | nil =>
    cases h
    exact hcopy
  | cons a as ih =>
    obtain ⟨s₁, hs₁, hrest⟩ := Option.bind_eq_some_iff.1 h
    rw [List.mem_cons, not_or] at hfetch
    cases a with
    | fetch k' =>
      have hne : k' ≠ k := fun heq => hfetch.1 (by rw [heq])
      have hsame : s₁.copies k = s.copies k := copies_of_ne (a := .fetch k') hne hs₁
      exact ih hfetch.2 (hsame.trans hcopy) hrest
    | commit k' u =>
      by_cases hk : k' = k
      · subst hk
        obtain ⟨w, hw, hnew, -, -⟩ := commit_cases hs₁
        cases hcopy.symm.trans hw
        have hown : ReplicaAction.ownUpdate k' (.commit k' u) = some u := if_pos rfl
        rw [List.filterMap_cons_some hown]
        exact ih hfetch.2 hnew hrest
      · have hown : ReplicaAction.ownUpdate k (.commit k' u) = none := if_neg hk
        have hsame : s₁.copies k = s.copies k := copies_of_ne (a := .commit k' u) hk hs₁
        rw [List.filterMap_cons_none hown]
        exact ih hfetch.2 (hsame.trans hcopy) hrest

theorem copy_of_fetch (hfetch : .fetch k ∉ as)
    (h : (replicas seen apply).run s (.fetch k :: as) = some s') :
    s'.copies k = some ((as.filterMap (ReplicaAction.ownUpdate k)).foldl (updated apply)
      (seen s.value)) := by
  obtain ⟨s₁, hs₁, hrest⟩ := Option.bind_eq_some_iff.1 h
  cases hs₁
  exact copy_of_run hfetch (Function.update_self k (some (seen s.value)) s.copies) hrest

theorem filterMap_ownUpdate_filter (as : List (ReplicaAction K U)) (k : K) :
    (as.filter fun a => a.client = k).filterMap (ReplicaAction.ownUpdate k) =
      as.filterMap (ReplicaAction.ownUpdate k) := by
  have hsame : (fun a : ReplicaAction K U =>
      if decide (a.client = k) = true then a.ownUpdate k else none) =
        ReplicaAction.ownUpdate k := by
    funext a
    cases a with
    | fetch k' => simp [ReplicaAction.ownUpdate]
    | commit k' u =>
      by_cases hk : k' = k <;> simp [ReplicaAction.client, ReplicaAction.ownUpdate, hk]
  rw [List.filterMap_filter, hsame]

variable (seen apply) in
/-- A client that has a copy can go on alone. -/
theorem exists_run_of_own (hcopy : (s.copies k).isSome) (hown : ∀ a ∈ as, a.client = k) :
    ∃ s', (replicas seen apply).run s as = some s' ∧ (s'.copies k).isSome := by
  induction as generalizing s with
  | nil => exact ⟨s, rfl, hcopy⟩
  | cons a as ih =>
    have hnext : ∃ s₁, (replicas seen apply).step s a = some s₁ ∧ (s₁.copies k).isSome := by
      have ha := hown a List.mem_cons_self
      cases a with
      | fetch k' =>
        obtain rfl : k' = k := ha
        exact ⟨_, rfl, by simp⟩
      | commit k' u =>
        obtain rfl : k' = k := ha
        obtain ⟨v, hv⟩ := Option.isSome_iff_exists.1 hcopy
        have hstep : ∃ s₁, (replicas seen apply).step s (.commit k' u) = some s₁ :=
          ⟨_, Option.map_eq_some_iff.2 ⟨v, hv, rfl⟩⟩
        obtain ⟨s₁, hs₁⟩ := hstep
        obtain ⟨_, -, hnew, -, -⟩ := commit_cases hs₁
        exact ⟨s₁, hs₁, by rw [hnew]; rfl⟩
    obtain ⟨s₁, hs₁, hcopy₁⟩ := hnext
    obtain ⟨s', hs', hcopy'⟩ := ih hcopy₁ fun b hb => hown b (List.mem_cons_of_mem a hb)
    refine ⟨s', ?_, hcopy'⟩
    rw [Machine.run_cons, hs₁]
    exact hs'

/-- **A client undoes what the others have written** since it has fetched its copy: it leaves the
value that it would leave if they had done nothing. -/
theorem value_of_commit_alone {s₁ s₂ : Replicas K V} (hfetch : .fetch k ∉ as)
    (h : (replicas seen apply).run s (.fetch k :: as) = some s₁)
    (hcommit : (replicas seen apply).step s₁ (.commit k u) = some s₂)
    (haccepted : ∃ v, s₁.copies k = some v ∧ (apply v u).isSome) :
    ∃ t, (replicas seen apply).run s
        (.fetch k :: (as.filter fun a => a.client = k) ++ [.commit k u]) = some t ∧
      t.value = s₂.value := by
  obtain ⟨v, hv, haccepted⟩ := haccepted
  obtain ⟨v', hv'⟩ := Option.isSome_iff_exists.1 haccepted
  have hown : ∀ a ∈ (as.filter fun a => a.client = k) ++ [.commit k u], a.client = k := by
    intro a ha
    rcases List.mem_append.1 ha with ha | ha
    · simpa using (List.mem_filter.1 ha).2
    · cases List.mem_singleton.1 ha
      rfl
  obtain ⟨t, ht, -⟩ := exists_run_of_own seen apply
    (s := { s with copies := Function.update s.copies k (some (seen s.value)) })
    (by simp) hown
  have hrun : (replicas seen apply).run s
      (.fetch k :: (as.filter fun a => a.client = k) ++ [.commit k u]) = some t := ht
  refine ⟨t, hrun, ?_⟩
  obtain ⟨t₁, ht₁, htcommit⟩ := Machine.run_concat_eq_some hrun
  have hcopy := copy_of_fetch (fun hmem => hfetch (List.mem_filter.1 hmem).1) ht₁
  rw [filterMap_ownUpdate_filter, ← copy_of_fetch hfetch h, hv] at hcopy
  obtain ⟨w, hw, -, -, hvalue⟩ := commit_cases hcommit
  obtain ⟨w', hw', -, -, hvalue'⟩ := commit_cases htcommit
  cases hv.symm.trans hw
  cases hcopy.symm.trans hw'
  rw [hvalue, hvalue', hv']
  rfl

/-! ### When no update is lost -/

/-- Every client that writes has fetched its copy after the last write of the others. -/
def Undisturbed (as : List (ReplicaAction K U)) : Prop :=
  ∀ bs k u, bs ++ [.commit k u] <+: as → ∃ cs ds, bs = cs ++ .fetch k :: ds ∧
    ∀ k' u', .commit k' u' ∈ ds → k' = k

omit [DecidableEq K] in
theorem Undisturbed.append {as bs : List (ReplicaAction K U)} (has : Undisturbed as)
    (hbs : Undisturbed bs) : Undisturbed (as ++ bs) := by
  intro cs k u hbegin
  rcases List.prefix_or_prefix_of_prefix hbegin (List.prefix_append as bs) with hshort | hlong
  · exact has cs k u hshort
  · obtain ⟨es, hes⟩ := hlong
    rw [← hes, List.prefix_append_right_inj] at hbegin
    rcases List.eq_nil_or_concat es with rfl | ⟨ds, d, rfl⟩
    · rw [List.append_nil] at hes
      exact has cs k u (hes ▸ List.prefix_refl as)
    · rw [List.concat_eq_append] at hes hbegin
      rw [← List.append_assoc] at hes
      obtain ⟨rfl, rfl⟩ := List.append_singleton_inj.1 hes
      obtain ⟨fs, gs, rfl, hothers⟩ := hbs ds k u hbegin
      exact ⟨as ++ fs, gs, (List.append_assoc ..).symm, hothers⟩

omit [DecidableEq K] in
theorem undisturbed_updates (k : K) (us : List U) :
    Undisturbed (.fetch k :: us.map (.commit k)) := by
  intro bs k' u hbegin
  cases bs with
  | nil =>
    obtain ⟨_, heq⟩ := hbegin
    cases heq
  | cons b bs =>
    rw [List.cons_append, List.cons_prefix_cons] at hbegin
    obtain ⟨rfl, hbegin⟩ := hbegin
    have hown : ∀ a ∈ bs ++ [.commit k' u], ∃ u, a = .commit k u := by
      intro a ha
      obtain ⟨u, -, rfl⟩ := List.mem_map.1 (hbegin.subset ha)
      exact ⟨u, rfl⟩
    obtain ⟨_, hlast⟩ := hown (.commit k' u) (by simp)
    cases hlast
    refine ⟨[], bs, rfl, fun k'' u' hmem => ?_⟩
    obtain ⟨_, heq⟩ := hown _ (List.mem_append_left _ hmem)
    cases heq
    rfl

section

variable (Good : V → Prop) (s₀ : V)

/-- After some actions: the value has all updates so far, and a client that nobody has disturbed has
it as its copy. -/
structure Accumulated (as : List (ReplicaAction K U)) (s : Replicas K V)
    (apply : V → U → Option V) : Prop where
  good : Good s.value
  value : s.value = (as.filterMap ReplicaAction.update).foldl (updated apply) s₀
  current : ∀ k cs ds, as = cs ++ .fetch k :: ds → (∀ k' u, .commit k' u ∈ ds → k' = k) →
    s.copies k = some s.value

variable {Good s₀}

omit [DecidableEq K] in
/-- What is behind the last fetch of another client was there before. -/
theorem split_concat {b : ReplicaAction K U} {bs cs ds : List (ReplicaAction K U)}
    (h : bs ++ [b] = cs ++ .fetch k :: ds) :
    (b = .fetch k ∧ ds = []) ∨ ∃ es, ds = es ++ [b] ∧ bs = cs ++ .fetch k :: es := by
  rcases List.eq_nil_or_concat ds with rfl | ⟨es, d, rfl⟩
  · exact .inl ⟨(List.append_singleton_inj.1 h).2, rfl⟩
  · rw [List.concat_eq_append, ← List.cons_append, ← List.append_assoc] at h
    obtain ⟨rfl, rfl⟩ := List.append_singleton_inj.1 h
    exact .inr ⟨es, List.concat_eq_append, rfl⟩

theorem Accumulated.fetch (hI : Accumulated Good s₀ as s apply) (hseen : ∀ v, Good v → seen v = v)
    (hstep : (replicas seen apply).step s (.fetch k) = some s') :
    Accumulated Good s₀ (as ++ [.fetch k]) s' apply := by
  cases hstep
  refine ⟨hI.good, ?_, fun k' cs ds heq hds => ?_⟩
  · rw [List.filterMap_append, List.foldl_append]
    exact hI.value
  show Function.update s.copies k _ k' = _
  by_cases hk : k' = k
  · rw [hk, Function.update_self, hseen _ hI.good]
  · rw [Function.update_of_ne hk]
    rcases split_concat heq with ⟨hfetch, -⟩ | ⟨es, rfl, rfl⟩
    · cases hfetch
      exact absurd rfl hk
    · exact hI.current k' cs es rfl fun k'' u hmem => hds k'' u (List.mem_append_left _ hmem)

theorem Accumulated.commit (hI : Accumulated Good s₀ as s apply)
    (hgood : ∀ v v', Good v → apply v u = some v' → Good v')
    (hcurrent : s.copies k = some s.value)
    (hstep : (replicas seen apply).step s (.commit k u) = some s') :
    Accumulated Good s₀ (as ++ [.commit k u]) s' apply := by
  obtain ⟨v, hv, hnew, -, hvalue⟩ := commit_cases hstep
  cases hcurrent.symm.trans hv
  have hupdated : s'.value = updated apply s.value u := hvalue
  refine ⟨?_, ?_, fun k' cs ds heq hds => ?_⟩
  · rw [hvalue]
    cases happly : apply s.value u with
    | none => exact hI.good
    | some v' => exact hgood _ v' hI.good happly
  · rw [hupdated, hI.value, List.filterMap_append, List.foldl_append]
    rfl
  · -- whoever has written last is up to date
    rcases split_concat heq with ⟨hfetch, -⟩ | ⟨es, rfl, -⟩
    · cases hfetch
    · rw [← hds k u (by simp), hnew, hupdated]

/-- **No update is lost** when nobody is disturbed: the value is the first one with all updates, in
the order in which they were made.  `Good` values look as they are when they are fetched. -/
theorem value_of_undisturbed (hseen : ∀ v, Good v → seen v = v)
    (hgood : ∀ k u, .commit k u ∈ as → ∀ v v', Good v → apply v u = some v' → Good v')
    (hs : Good s.value) (has : Undisturbed as) (h : (replicas seen apply).run s as = some s') :
    Accumulated Good s.value as s' apply := by
  refine Machine.run_induction (I := fun bs t => Accumulated Good s.value bs t apply) h
    ⟨hs, rfl, fun k cs ds hnil => by simp at hnil⟩ ?_
  intro bs b t t' hbegin _ hI hstep
  cases b with
  | fetch k => exact hI.fetch hseen hstep
  | commit k u =>
    obtain ⟨cs, ds, rfl, hds⟩ := has bs k u hbegin
    exact hI.commit (hgood k u (Machine.mem_of_concat hbegin)) (hI.current k cs ds rfl hds) hstep

end

end

end RansomShield
