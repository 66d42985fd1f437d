import NetworkEnforcer.Sync.Guarantees

/-!
# Where the violations of a status come from

The runs of the sync again, with what they do not keep themselves: the observations that were recorded
and the versions of the policies so far (`Traced`).  The steps are those of `Sync.system`; a cache holds
versions of the policies, old or new, and the API server stores what its schema admits.

* `Traced.exec_after`, `Traced.exists_env` — the history takes no step away;
* `Traceable.stable`, `Within.commit` — the others, and a status patch that succeeds;
* `sync_traceable` — a whole cycle;
* `stored_violations_traceable` — at every moment, every violation of a stored status was there from the
  start, or is that of an observation of a workload that the policy was for.
-/

namespace NetworkEnforcer.Sync

open NetworkEnforcer.Lib NetworkEnforcer.Api NetworkEnforcer.Attribution NetworkEnforcer.Ringbuf
open NetworkEnforcer.Status NetworkEnforcer.Workload

/-! ## Runs with their history -/

/-- The world, with all that was recorded and all versions of the policies. -/
structure Traced where
  world : World
  seen : List Observation
  versions : List WorkloadNetworkPolicy

/-- Targets are of the kinds that the schema admits. -/
def Schema (wnps : List WorkloadNetworkPolicy) : Prop :=
  ∀ wnp ∈ wnps, wnp.spec.targetRef.kind ∈ supportedKinds

/-- A cache holds versions of the policies. -/
def CacheOf (t : Traced) : (r : Request) → r.Resp → Prop
  | .cache, c => ∀ wnp ∈ c.wnps, wnp ∈ t.versions
  | _, _ => True

/-- What is stored next is added to the versions. -/
structure Next (t t' : Traced) : Prop where
  versions : t'.versions = t'.world.stored.values ++ t.versions
  schema : Schema t'.world.stored.values

/-- `Sync.system` with its history.  Every step of it within the schema is one of `traced`: an answer by
`Traced.exec_after`, what others do by `Traced.exists_env`. -/
def traced (limit : Nat) : System Request.Resp Traced where
  exec r t x t' := Answers r t.world x t'.world ∧ CacheOf t r x ∧ t'.seen = t.seen ∧ Next t t'
  env t t' := Interference limit t.world t'.world ∧ Next t t' ∧
    -- a policy is written, or an observation is recorded
    ((t'.world.buffer = t.world.buffer ∧ t'.seen = t.seen) ∨ ∃ obs, t'.world.stored = t.world.stored ∧
      t'.world.buffer = (t.world.buffer.record obs).2 ∧ t'.seen = obs :: t.seen)

section Lift

variable {limit : Nat} {t : Traced} {w : World}

/-- The history after a step to this world. -/
def Traced.after (t : Traced) (w : World) : Traced := ⟨w, t.seen, w.stored.values ++ t.versions⟩

lemma Traced.exec_after {r : Request} {x : r.Resp} (hx : Answers r t.world x w) (hcache : CacheOf t r x)
    (hschema : Schema w.stored.values) : (traced limit).exec r t x (t.after w) :=
  ⟨hx, hcache, rfl, rfl, hschema⟩

/-- Everything that others may do, they may do here, within the schema. -/
lemma Traced.exists_env (h : Interference limit t.world w) (hschema : Schema w.stored.values) :
    ∃ t', t'.world = w ∧ (traced limit).env t t' := by
  cases h with
  | record obs hlt =>
    exact ⟨{ t.after _ with seen := obs :: t.seen }, rfl, .record obs hlt, ⟨rfl, hschema⟩,
      Or.inr ⟨obs, rfl, rfl, rfl⟩⟩
  | edit hold hsame hnew => exact ⟨t.after _, rfl, .edit hold hsame hnew, ⟨rfl, hschema⟩, Or.inl ⟨rfl, rfl⟩⟩
  | create hnone hzero hnew =>
    exact ⟨t.after _, rfl, .create hnone hzero hnew, ⟨rfl, hschema⟩, Or.inl ⟨rfl, rfl⟩⟩

end Lift

/-- More was recorded and stored. -/
structure Later (t t' : Traced) : Prop where
  seen : t.seen ⊆ t'.seen
  versions : t.versions ⊆ t'.versions

lemma Next.later {t t' : Traced} (h : Next t t') (hseen : t'.seen = t.seen) : Later t t' := by
  refine ⟨fun obs hobs => by rw [hseen]; exact hobs, fun wnp hwnp => ?_⟩
  rw [h.versions]
  exact List.mem_append_right _ hwnp

/-! ## Where a record comes from -/

/-- The same but for the identifier and the time. -/
def SameFlow (r r₀ : ViolationRecord) : Prop := { r with id := r₀.id, timestamp := r₀.timestamp } = r₀

/-- The policy was for the workload of the observation, in its direction. -/
def Belongs (versions : List WorkloadNetworkPolicy) (obs : Observation) (k : NamespacedName) : Prop :=
  ∃ s, ∃ wnp ∈ versions, violationSubject obs = some s ∧ wnp.key = k ∧
    targets s.ns (targetRefOf s) obs.direction wnp = true

inductive Comes (start : World) (t : Traced) (k : NamespacedName) (r : ViolationRecord) : Prop
  | stored {p : WorkloadNetworkPolicy} {r₀ : ViolationRecord} : start.stored.lookup k = some p →
      r₀ ∈ storedRecords p.status → SameFlow r r₀ → Comes start t k r
  | observed {obs : Observation} : obs ∈ t.seen → Belongs t.versions obs k →
      SameFlow r (violationRecord k obs) → Comes start t k r

section Comes

variable {start : World} {t t' : Traced} {k : NamespacedName} {r : ViolationRecord}

lemma Belongs.mono {versions versions' : List WorkloadNetworkPolicy} {obs : Observation}
    (h : Belongs versions obs k) (hsub : versions ⊆ versions') : Belongs versions' obs k := by
  obtain ⟨s, wnp, hwnp, hrest⟩ := h
  exact ⟨s, wnp, hsub hwnp, hrest⟩

lemma Comes.mono (h : Comes start t k r) (hlater : Later t t') : Comes start t' k r := by
  cases h with
  | stored hp hr₀ hsame => exact .stored hp hr₀ hsame
  | observed hobs hbelongs hsame => exact .observed (hlater.seen hobs) (hbelongs.mono hlater.versions) hsame

/-- The identifier and the time do not matter. -/
lemma Comes.change (h : Comes start t k r) (id : Int) (timestamp : Time) :
    Comes start t k { r with id := id, timestamp := timestamp } := by
  cases h with
  | stored hp hr₀ hsame => exact .stored hp hr₀ hsame
  | observed hobs hbelongs hsame => exact .observed hobs hbelongs hsame

lemma Comes.refresh (h : Comes start t k r) (v : ViolationRecord) : Comes start t k (r.refresh v) := by
  unfold ViolationRecord.refresh
  split
  · exact h.change r.id v.timestamp
  · exact h

/-- **A call of `RecomputeStatus` invents no record.** -/
lemma Comes.recomputed {w w' : WorkloadNetworkPolicy} {scraped : List ViolationRecord} {now : Time}
    {acks : List AcknowledgedViolationRecord} (hrec : Recomputed w scraped now w' acks)
    (hold : ∀ r ∈ storedRecords w.status, Comes start t k r) (hnew : ∀ v ∈ scraped, Comes start t k v) :
    ∀ r ∈ storedRecords w'.status, Comes start t k r := by
  intro r hr
  have hmerged := hrec.storedRecords_subperm.subset hr
  rw [storedRecords, mergeScrapedViolations_acknowledgedViolations, List.mem_append] at hmerged
  rcases hmerged with hactive | hacknowledged
  · exact mergeScrapedViolations_forall (P := Comes start t k) (fun r v hr _ => hr.refresh v)
      (fun v i hv => hv.change i v.timestamp) (fun r hr => hold r (List.mem_append_left _ hr)) hnew r hactive
  · exact hold r (List.mem_append_right _ hacknowledged)

end Comes

/-- **An observation that is attributed belongs to the policy.** -/
lemma belongs_of_attributed {t : Traced} {c : IndexedCache} {obs : Observation} {snap : Snapshot}
    {ownedIndex : GoMap NamespacedName (Option NamespacedName)} {duplicates : List WnpTarget}
    {k : NamespacedName} (hcache : ∀ wnp ∈ c.wnps, wnp ∈ t.versions) (hschema : Schema t.versions)
    (hsnap : ∀ wnp ∈ snap.values, wnp ∈ t.versions)
    (h : (attributeViolation c obs ownedIndex snap duplicates).1 = .ok k) : Belongs t.versions obs k := by
  cases hs : violationSubject obs with
  | none => simp [attributeViolation, hs] at h
  | some s =>
    have hsub := violationSubject_spec hs
    have hu := unambiguous_of_supportedKinds obs.direction hsub.kind_mem
      fun wnp hwnp => hschema wnp (hcache wnp hwnp)
    by_cases hd : ⟨s.ns, wnpTargetIndexKey s.ownerKind s.ownerName obs.direction⟩ ∈ duplicates
    · simp [attributeViolation, hs, hd] at h
    rcases attributeViolation_cases hs hd with hfall | ⟨wnp, hwnp, htargets, hrep⟩
    · -- by the cache
      obtain ⟨-, wnp, hone, hkey⟩ := attributeByTarget_ok hsub.complete hu (hfall.symm.trans h)
      obtain ⟨hmem, htargets⟩ := List.mem_filter.1 (hone ▸ List.mem_singleton_self wnp)
      exact ⟨s, wnp, hcache wnp hmem, hs, hkey, htargets⟩
    · -- by the report, which names a policy of the snapshot
      rcases hrep with ⟨_, -, he⟩ | ⟨-, he⟩ | ⟨-, he⟩
      · rw [he] at h
        cases h
      · rw [he] at h
        cases h
      · rw [he] at h
        exact ⟨s, wnp, hsnap wnp (Store.mem_of_lookup hwnp), hs, Except.ok.inj h, htargets⟩

/-! ## The invariant -/

structure Traceable (start : World) (t : Traced) : Prop where
  buffered : ∀ obs ∈ t.world.buffer.drain.1, obs ∈ t.seen
  records {k : NamespacedName} {p : WorkloadNetworkPolicy} : t.world.stored.lookup k = some p →
    ∀ r ∈ storedRecords p.status, Comes start t k r
  storable {k : NamespacedName} {p : WorkloadNetworkPolicy} : t.world.stored.lookup k = some p → Storable p
  current : ∀ wnp ∈ t.world.stored.values, wnp ∈ t.versions
  schema : Schema t.versions

/-- A buffer holds what was recorded. -/
lemma mem_drain_record {T : Type} {b : Buffer T} {x y : T} (h : y ∈ (b.record x).2.drain.1) :
    y = x ∨ y ∈ b.drain.1 := by
  obtain ⟨i, hi, rfl⟩ := List.mem_map.1 h
  have hi : i < min (b.pos + 1) b.capacity := List.mem_range.1 hi
  show Function.update b.buf (b.slot b.pos) x (b.slot (b.pos + 1 - 1 - i)) = x ∨
    Function.update b.buf (b.slot b.pos) x (b.slot (b.pos + 1 - 1 - i)) ∈ b.drain.1
  cases i with
  | zero => exact Or.inl (Function.update_self ..)
  | succ j =>
    have hindex : b.pos + 1 - 1 - (j + 1) = b.pos - 1 - j := by omega
    rw [hindex, Function.update_apply]
    split
    · exact Or.inl rfl
    · exact Or.inr (List.mem_map.2 ⟨j, List.mem_range.2 (by unfold Buffer.size; omega), rfl⟩)

section Keep

variable {start : World} {limit : Nat} {t t' : Traced}

lemma Next.schema_versions (h : Next t t') (hschema : Schema t.versions) : Schema t'.versions := by
  intro wnp hwnp
  rw [h.versions] at hwnp
  rcases List.mem_append.1 hwnp with hwnp | hwnp
  · exact h.schema wnp hwnp
  · exact hschema wnp hwnp

lemma Next.current (h : Next t t') : ∀ wnp ∈ t'.world.stored.values, wnp ∈ t'.versions := by
  intro wnp hwnp
  rw [h.versions]
  exact List.mem_append_left _ hwnp

/-- A step that leaves the policies as they are. -/
lemma Traceable.unchanged (h : Traceable start t) (hnext : Next t t') (hlater : Later t t')
    (hstored : t'.world.stored = t.world.stored) (hbuffer : ∀ obs ∈ t'.world.buffer.drain.1, obs ∈ t'.seen) :
    Traceable start t' where
  buffered := hbuffer
  records hp r hr := by
    rw [hstored] at hp
    exact (h.records hp r hr).mono hlater
  storable hp := by
    rw [hstored] at hp
    exact h.storable hp
  current := hnext.current
  schema := hnext.schema_versions h.schema

/-- A step that writes one policy. -/
lemma Traceable.put (h : Traceable start t) (hnext : Next t t') (hseen : t'.seen = t.seen)
    (hbuffer : t'.world.buffer = t.world.buffer) {new : WorkloadNetworkPolicy}
    (hstored : t'.world.stored = t.world.stored.put new) (hstorable : Storable new)
    (hnew : ∀ r ∈ storedRecords new.status, Comes start t new.key r) : Traceable start t' where
  buffered obs hobs := by
    rw [hbuffer] at hobs
    rw [hseen]
    exact h.buffered obs hobs
  records {k p} hp r hr := by
    rw [hstored] at hp
    rcases Store.lookup_put_cases hp with ⟨rfl, rfl⟩ | ⟨-, hp⟩
    · exact (hnew r hr).mono (hnext.later hseen)
    · exact (h.records hp r hr).mono (hnext.later hseen)
  storable {k p} hp := by
    rw [hstored] at hp
    rcases Store.lookup_put_cases hp with ⟨rfl, rfl⟩ | ⟨-, hp⟩
    · exact hstorable
    · exact h.storable hp
  current := hnext.current
  schema := hnext.schema_versions h.schema

lemma later_of_env (h : (traced limit).env t t') : Later t t' := by
  obtain ⟨-, hnext, ⟨-, hseen⟩ | ⟨obs, -, -, hseen⟩⟩ := h
  · exact hnext.later hseen
  · refine ⟨fun o ho => by rw [hseen]; exact List.mem_cons_of_mem _ ho, fun wnp hwnp => ?_⟩
    rw [hnext.versions]
    exact List.mem_append_right _ hwnp

/-- **The others.** -/
lemma Traceable.stable : (traced limit).Stable (Traceable start) := by
  intro t t' h hs
  obtain ⟨hinterference, hnext, hbuffer⟩ := id hs
  rcases hbuffer with ⟨hbuffer, hseen⟩ | ⟨obs, hstored, hbuffer, hseen⟩
  · rcases t' with ⟨w', seen', versions'⟩
    cases hinterference with
    | record obs hlt =>
      refine h.unchanged hnext (hnext.later hseen) rfl fun o ho => ?_
      rw [show (_ : Buffer Observation) = t.world.buffer from hbuffer] at ho
      rw [hseen]
      exact h.buffered o ho
    | edit hold hsame hnew =>
      refine h.put hnext hseen hbuffer rfl hnew fun r hr => ?_
      rw [hsame.storedRecords] at hr
      exact h.records hold r hr
    | create hnone hzero hnew =>
      refine h.put hnext hseen hbuffer rfl hnew fun r hr => ?_
      rw [hzero] at hr
      exact absurd hr List.not_mem_nil
  · have hlater : Later t t' := later_of_env hs
    have hbuffered : ∀ o ∈ t'.world.buffer.drain.1, o ∈ t'.seen := by
      intro o ho
      rw [hbuffer] at ho
      rw [hseen]
      rcases mem_drain_record ho with rfl | ho
      · exact List.mem_cons_self ..
      · exact List.mem_cons_of_mem _ (h.buffered o ho)
    exact h.unchanged hnext hlater hstored hbuffered

/-- A request that changes neither the policies nor the buffer. -/
lemma Traceable.answered (h : Traceable start t) {r : Request} {x : r.Resp} (hx : (traced limit).exec r t x t')
    (hstored : t'.world.stored = t.world.stored) (hbuffer : t'.world.buffer = t.world.buffer) :
    Traceable start t' ∧ Later t t' := by
  obtain ⟨-, -, hseen, hnext⟩ := hx
  refine ⟨h.unchanged hnext (hnext.later hseen) hstored fun obs hobs => ?_, hnext.later hseen⟩
  rw [hbuffer] at hobs
  rw [hseen]
  exact h.buffered obs hobs

end Keep

/-! ## The cycle -/

/-- The middle of a cycle: these observations were drained, these policies are to be written, with
these records. -/
structure Within (start : World) (observations : List Observation) (m : ViolationsByWNP)
    (wnps : List WorkloadNetworkPolicy) (t : Traced) : Prop where
  traceable : Traceable start t
  drained : ∀ obs ∈ observations, obs ∈ t.seen
  found : ∀ k, ∀ v ∈ (m.lookup k).getD [], Comes start t k v
  current : ∀ wnp ∈ wnps, Current t.world.stored wnp
  listed : ∀ wnp ∈ wnps, wnp ∈ t.versions ∧ Storable wnp

section Cycle

variable {start : World} {limit : Nat} {observations : List Observation} {m : ViolationsByWNP}
  {wnps : List WorkloadNetworkPolicy} {t t' : Traced}

/-- What is known in the middle of a cycle stays known. -/
lemma Within.later (h : Within start observations m wnps t) (hlater : Later t t') (htraceable : Traceable start t')
    (hcurrent : ∀ wnp ∈ wnps, Current t'.world.stored wnp) : Within start observations m wnps t' where
  traceable := htraceable
  drained obs hobs := hlater.seen (h.drained obs hobs)
  found k v hv := (h.found k v hv).mono hlater
  current := hcurrent
  listed wnp hwnp := ⟨hlater.versions (h.listed wnp hwnp).1, (h.listed wnp hwnp).2⟩

lemma Within.stable : (traced limit).Stable (Within start observations m wnps) := fun _ _ h hs =>
  h.later (later_of_env hs) (Traceable.stable h.traceable hs)
    fun wnp hwnp => Current.stable wnp (h.current wnp hwnp) hs.1

/-- A request that changes neither the policies nor the buffer. -/
lemma Within.answered (h : Within start observations m wnps t) {r : Request} {x : r.Resp}
    (hx : (traced limit).exec r t x t') (hstored : t'.world.stored = t.world.stored)
    (hbuffer : t'.world.buffer = t.world.buffer) : Within start observations m wnps t' := by
  obtain ⟨htraceable, hlater⟩ := h.traceable.answered hx hstored hbuffer
  refine h.later hlater htraceable fun wnp hwnp => ?_
  rw [hstored]
  exact h.current wnp hwnp

/-- One more record with an origin. -/
lemma Within.push (h : Within start observations m wnps t) {key : NamespacedName} {record : ViolationRecord}
    (hrecord : Comes start t key record) : Within start observations (m.push key record) wnps t where
  traceable := h.traceable
  drained := h.drained
  found k v hv := by
    by_cases hk : k = key
    · subst hk
      rw [GoMap.lookup_push_self] at hv
      rcases List.mem_append.1 hv with hv | hv
      · exact h.found k v hv
      · rw [List.mem_singleton.1 hv]
        exact hrecord
    · rw [GoMap.lookup_push_ne m _ hk] at hv
      exact h.found k v hv
  current := h.current
  listed := h.listed

variable {ownedIndex : GoMap NamespacedName (Option NamespacedName)} {snap : Snapshot}
  {duplicates : List WnpTarget}

/-- Counting a disagreement changes nothing here. -/
lemma recordDisagreement_traceable {α : Type} {Q : α → Traced → Prop} {obs : Observation} {disagree : Bool}
    {p : SyncM α} (hp : ∀ t, Within start observations m wnps t →
      Safe (traced limit) (Traceable start) (fun _ _ => True) Q p t)
    (h : Within start observations m wnps t) :
    Safe (traced limit) (Traceable start) (fun _ _ => True) Q
      (if disagree = true then ask (.recordDisagreement obs) >>= fun _ => p else p) t := by
  split
  · refine Safe.ask_bind Within.stable h (fun t ht => ⟨ht.traceable, trivial⟩) fun t _ t' ht hx => ?_
    have hworld : t'.world = { t.world with disagreements := obs :: t.world.disagreements } := hx.1
    exact hp t' (ht.answered hx (by rw [hworld]) (by rw [hworld]))
  · exact hp t h

/-- One observation. -/
lemma correlateViolation_traceable {obs : Observation} (h : Within start (obs :: observations) m snap.values t) :
    Safe (traced limit) (Traceable start) (fun _ _ => True) (fun m' => Within start observations m' snap.values)
      (correlateViolation ownedIndex snap duplicates m obs) t := by
  unfold correlateViolation
  refine Safe.ask_bind Within.stable h (fun t ht => ⟨ht.traceable, trivial⟩) fun t c t' ht hx => ?_
  have hsame : t'.world = t.world := hx.1
  have hversions : t.versions ⊆ t'.versions := (hx.2.2.2.later hx.2.2.1).versions
  have hcache : ∀ wnp ∈ c.wnps, wnp ∈ t'.versions := fun wnp hwnp => hversions (hx.2.1 wnp hwnp)
  have ht' := ht.answered hx (by rw [hsame]) (by rw [hsame])
  have hrest : Within start observations m snap.values t' :=
    { ht' with drained := fun o ho => ht'.drained o (List.mem_cons_of_mem _ ho) }
  cases houtcome : (attributeViolation c obs ownedIndex snap duplicates).1 with
  | error reason =>
    simp only [houtcome]
    refine recordDisagreement_traceable (fun t ht => ?_) hrest
    refine Safe.ask_bind Within.stable ht (fun t ht => ⟨ht.traceable, trivial⟩) fun t _ t' ht hx => ?_
    have hworld : t'.world = { t.world with unattributed := (obs, reason) :: t.world.unattributed } := hx.1
    exact Safe.ret Within.stable (ht.answered hx (by rw [hworld]) (by rw [hworld])) fun t ht => ⟨ht.traceable, ht⟩
  | ok wnpKey =>
    have hbelongs : Belongs t'.versions obs wnpKey :=
      belongs_of_attributed hcache ht'.traceable.schema (fun wnp hwnp => (ht'.listed wnp hwnp).1) houtcome
    have hrecord : Comes start t' wnpKey (violationRecord wnpKey obs) :=
      .observed (ht'.drained obs (List.mem_cons_self ..)) hbelongs rfl
    simp only [houtcome]
    refine recordDisagreement_traceable (fun t ht => ?_) (hrest.push hrecord)
    exact Safe.ret Within.stable ht fun t ht => ⟨ht.traceable, ht⟩

lemma correlate_traceable (h : Within start observations ∅ snap.values t) :
    Safe (traced limit) (Traceable start) (fun _ _ => True) (fun m' => Within start [] m' snap.values)
      (correlateViolationsToWNPs observations ownedIndex snap duplicates) t :=
  Safe.foldlM (I := fun rest m => Within start rest m snap.values) (fun _ => Within.stable)
    (fun _ _ ht => ht.traceable) observations (fun _ _ _ _ _ ht => correlateViolation_traceable ht) h

/-- A policy is written; the other snapshots stay current. -/
lemma Within.put (h : Within start [] m wnps t) {r : Request} {x : r.Resp} (hx : (traced limit).exec r t x t')
    (hbuffer : t'.world.buffer = t.world.buffer) {new : WorkloadNetworkPolicy}
    (hstored : t'.world.stored = t.world.stored.put new) (hstorable : Storable new)
    (hnew : ∀ r ∈ storedRecords new.status, Comes start t new.key r)
    (hcurrent : ∀ wnp ∈ wnps, Current (t.world.stored.put new) wnp) : Within start [] m wnps t' := by
  obtain ⟨-, -, hseen, hnext⟩ := hx
  refine h.later (hnext.later hseen) (h.traceable.put hnext hseen hbuffer hstored hstorable hnew) ?_
  rw [hstored]
  exact hcurrent

/-- The first policy is done. -/
lemma Within.tail {wnp : WorkloadNetworkPolicy} (h : Within start observations m (wnp :: wnps) t) :
    Within start observations m wnps t :=
  { h with
    current := fun wnp' hw' => h.current wnp' (List.mem_cons_of_mem _ hw')
    listed := fun wnp' hw' => h.listed wnp' (List.mem_cons_of_mem _ hw') }

/-- **A status patch that succeeds** stores records with an origin only. -/
lemma Within.commit {lib : Apimachinery} {wnp new old : WorkloadNetworkPolicy} {now : Time}
    {acks : List AcknowledgedViolationRecord} (h : Within start [] m (wnp :: wnps) t)
    (hkey : wnp.key ∉ wnps.map WorkloadNetworkPolicy.key) {r : Request} {x : r.Resp}
    (hx : (traced limit).exec r t x t') (hold : t.world.stored.lookup wnp.key = some old)
    (hrec : wnp.recomputeStatus lib ((m.lookup wnp.key).getD []) now = some (new, acks))
    (hbuffer : t'.world.buffer = t.world.buffer)
    (hstored : t'.world.stored = t.world.stored.put (patchStatus (mergeFrom wnp new) old)) :
    Within start [] m wnps t' := by
  have hspec := recomputeStatus_spec hrec
  have hwnp : Storable wnp := (h.listed wnp (List.mem_cons_self ..)).2
  have holdStorable : Storable old := h.traceable.storable hold
  obtain ⟨p, hp, hsame⟩ := h.current wnp (List.mem_cons_self ..)
  obtain rfl : old = p := Option.some.inj (hold.symm.trans hp)
  have hstatus := patchStatus_commit hsame hwnp.times holdStorable.times hspec.conditions
  have hcommittedKey : (patchStatus (mergeFrom wnp new) old).key = wnp.key := by
    rw [patchStatus_key]
    exact Store.key_of_lookup hold
  have hcomputed : ∀ r ∈ storedRecords new.status, Comes start t wnp.key r := by
    refine Comes.recomputed hspec (fun r hr => ?_) (h.found wnp.key)
    rw [← hsame.storedRecords] at hr
    exact h.traceable.records hold r hr
  refine h.tail.put hx hbuffer hstored ⟨holdStorable.backend, ?_⟩ (fun r hr => ?_) fun wnp' hw' => ?_
  · rw [hstatus]
    exact storedStatus_storedStatus (congrArg WorkloadNetworkPolicyStatus.conditions holdStorable.times)
  · -- the API server cuts the times to seconds
    rw [hstatus] at hr
    have hr : r ∈ storedRecords (storedStatus new.status) := hr
    rw [storedRecords_storedStatus] at hr
    obtain ⟨r', hr', rfl⟩ := List.mem_map.1 hr
    rw [hcommittedKey]
    exact (hcomputed r' hr').change r'.id _
  · refine (h.tail.current wnp' hw').put_ne fun he => hkey ?_
    rw [← hcommittedKey, ← he]
    exact List.mem_map_of_mem hw'

lemma emit_traceable (acks : List AcknowledgedViolationRecord) (h : Within start [] m wnps t) :
    Safe (traced limit) (Traceable start) (fun _ _ => True) (fun _ => Within start [] m wnps)
      (emitAcknowledgedViolations acks) t := by
  refine Safe.forM (I := fun _ => Within start [] m wnps) Within.stable (fun _ ht => ht.traceable) acks
    (fun ack _ _ t ht => ?_) h
  refine Safe.call Within.stable ht (fun t ht => ⟨ht.traceable, trivial⟩) fun t _ t' ht hx => ?_
  have hworld : t'.world = { t.world with emitted := ack :: t.world.emitted } := hx.1
  exact Safe.ret Within.stable (ht.answered hx (by rw [hworld]) (by rw [hworld])) fun t ht => ⟨ht.traceable, ht⟩

/-- The patch of the annotations leaves the records alone, whether it succeeds or not. -/
lemma Within.patchObject {obj base : WorkloadNetworkPolicy} {err : Option Err} (h : Within start [] m wnps t)
    (hx : (traced limit).exec (.patch obj base) t err t') : Within start [] m wnps t' := by
  obtain ⟨stored', hpatch, hworld⟩ : ∃ stored',
    PatchAnswers obj base Sync.patchObject t.world.stored err stored' ∧
      t'.world = { t.world with stored := stored' } := hx.1
  have hbuffer : t'.world.buffer = t.world.buffer := by rw [hworld]
  have hstored : t'.world.stored = stored' := by rw [hworld]
  cases err with
  | some err =>
    obtain rfl := hpatch
    exact h.answered hx hstored hbuffer
  | none =>
    obtain ⟨old, hold, -, rfl⟩ := hpatch
    have hstorable := h.traceable.storable hold
    have hkey : (Sync.patchObject (mergeFrom base obj) old).key = base.key := by
      rw [patchObject_key]
      exact Store.key_of_lookup hold
    refine h.put hx hbuffer hstored ⟨hstorable.backend, hstorable.times⟩ (fun r hr => ?_) fun wnp hwnp => ?_
    · rw [hkey]
      exact h.traceable.records hold r hr
    · refine (h.current wnp hwnp).put ?_ (SameViolations.refl old.status)
      rw [hkey]
      exact hold

lemma process_traceable {lib : Apimachinery} {wnp : WorkloadNetworkPolicy}
    (hkey : wnp.key ∉ wnps.map WorkloadNetworkPolicy.key) (h : Within start [] m (wnp :: wnps) t) :
    Safe (traced limit) (Traceable start) (fun _ _ => True) (fun _ => Within start [] m wnps)
      (processWorkloadNetworkPolicy lib wnp ((m.lookup wnp.key).getD [])) t := by
  unfold processWorkloadNetworkPolicy
  refine Safe.ask_bind Within.stable h (fun t ht => ⟨ht.traceable, trivial⟩) fun t now t' ht hx => ?_
  have hworld : t'.world = t.world := hx.1
  have ht := ht.answered hx (by rw [hworld]) (by rw [hworld])
  obtain ⟨new, acks, hrec⟩ :=
    recomputeStatus_isSome lib (ht.listed wnp (List.mem_cons_self ..)).2.backend ((m.lookup wnp.key).getD []) now
  simp only [hrec]
  refine Safe.ask_bind Within.stable ht (fun t ht => ⟨ht.traceable, trivial⟩) fun t err t' ht hx => ?_
  obtain ⟨stored', hpatch, hworld⟩ := id hx.1
  have hbuffer : t'.world.buffer = t.world.buffer := by rw [hworld]
  have hstored : t'.world.stored = stored' := by rw [hworld]
  cases err with
  | some err =>
    obtain rfl := hpatch
    exact Safe.ret Within.stable (ht.answered hx hstored hbuffer).tail fun t ht => ⟨ht.traceable, ht⟩
  | none =>
    obtain ⟨old, hold, -, rfl⟩ := hpatch
    refine Safe.bind (emit_traceable acks (ht.commit hkey hx hold hrec hbuffer hstored)) fun _ t ht => ?_
    refine Safe.ask_bind Within.stable ht (fun t ht => ⟨ht.traceable, trivial⟩) fun t err t' ht hx => ?_
    have hpatched := ht.patchObject hx
    cases err with
    | some err => exact Safe.ret Within.stable hpatched fun t ht => ⟨ht.traceable, ht⟩
    | none => exact Safe.ret Within.stable hpatched fun t ht => ⟨ht.traceable, ht⟩

lemma processAll_traceable {lib : Apimachinery} (hnodup : (wnps.map WorkloadNetworkPolicy.key).Nodup)
    (h : Within start [] m wnps t) :
    Safe (traced limit) (Traceable start) (fun _ _ => True) (fun _ => Within start [] m [])
      (wnps.forM fun wnp => do
        let _ ← processWorkloadNetworkPolicy lib wnp ((m.lookup wnp.key).getD [])) t := by
  refine Safe.mono (Safe.forM (I := fun rest t => Within start [] m rest t ∧
    (rest.map WorkloadNetworkPolicy.key).Nodup) (fun t t' ht hs => ⟨Within.stable ht.1 hs, ht.2⟩)
    (fun _ ht => ht.1.traceable) wnps (fun wnp _ rest t ht => ?_) ⟨h, hnodup⟩) fun _ _ ht => ht.1
  obtain ⟨ht, hnodup⟩ := ht
  rw [List.map_cons, List.nodup_cons] at hnodup
  refine Safe.bind (process_traceable hnodup.1 ht) fun _ t ht => ?_
  exact Safe.ret Within.stable ht fun t ht => ⟨ht.traceable, ht, hnodup.2⟩

/-- **A whole cycle.** -/
theorem sync_traceable (lib : Apimachinery) (h : Traceable start t) :
    Safe (traced limit) (Traceable start) (fun _ _ => True) (fun _ => Traceable start) (sync lib) t := by
  unfold sync
  refine Safe.ask_bind Traceable.stable h (fun t ht => ⟨ht, trivial⟩) fun t listed t' ht hx => ?_
  obtain ⟨hworld, hlist⟩ := id hx.1
  obtain ⟨ht', hlater⟩ := ht.answered hx (by rw [hworld]) (by rw [hworld])
  cases listed with
  | error err => exact Safe.ret Traceable.stable ht' fun t ht => ⟨ht, ht⟩
  | ok items =>
    have hitems : items.Perm t'.world.stored.values := by
      rw [hworld]
      exact hlist items rfl
    have hwithin : Within start [] ∅ (wnpByKey items).values t' := by
      refine ⟨ht', List.forall_mem_nil _, fun k v hv => ?_, current_of_perm hitems, fun wnp hwnp => ?_⟩
      · simp at hv
      · have hitem : wnp ∈ items := (GoMap.lookup_indexBy (Store.mem_values.1 hwnp)).1
        have hmem := hitems.subset hitem
        exact ⟨ht'.current wnp hmem, ht'.storable (Store.mem_values.1 hmem)⟩
    refine Safe.ask_bind Within.stable hwithin (fun t ht => ⟨ht.traceable, trivial⟩) fun t nps t' ht hx => ?_
    have hworld : t'.world = t.world := hx.1
    have ht := ht.answered hx (by rw [hworld]) (by rw [hworld])
    cases nps with
    | error err => exact Safe.ret Within.stable ht fun t ht => ⟨ht.traceable, ht.traceable⟩
    | ok nps =>
      refine Safe.ask_bind Within.stable ht (fun t ht => ⟨ht.traceable, trivial⟩) fun t observations t' ht hx => ?_
      obtain ⟨hdrained, hworld⟩ := id hx.1
      have hlater : Later t t' := hx.2.2.2.later hx.2.2.1
      have hempty : ∀ obs ∈ t'.world.buffer.drain.1, obs ∈ t'.seen := by
        intro obs hobs
        rw [hworld, List.eq_nil_of_length_eq_zero ((Buffer.drain_length _).trans (Buffer.drain_size _))] at hobs
        exact absurd hobs List.not_mem_nil
      have htraceable : Traceable start t' := ht.traceable.unchanged hx.2.2.2 hlater (by rw [hworld]) hempty
      have hwithin : Within start [] ∅ (wnpByKey items).values t' := by
        refine ht.later hlater htraceable fun wnp hwnp => ?_
        rw [show t'.world.stored = t.world.stored by rw [hworld]]
        exact ht.current wnp hwnp
      have hobserved : ∀ obs ∈ observations, obs ∈ t'.seen := by
        intro obs hobs
        rw [hdrained] at hobs
        exact hlater.seen (ht.traceable.buffered obs hobs)
      refine Safe.bind (correlate_traceable { hwithin with drained := hobserved }) fun m t ht => ?_
      split
      · exact Safe.ret Within.stable ht fun t ht => ⟨ht.traceable, ht.traceable⟩
      · refine Safe.bind (processAll_traceable (Store.map_key_values_nodup _) ht) fun _ t ht => ?_
        exact Safe.ret Within.stable ht fun t ht => ⟨ht.traceable, ht.traceable⟩

end Cycle

/-! ## Whole runs -/

/-- What a run starts from: an empty buffer, and policies as the API server stores them. -/
structure TraceStart (w : World) : Prop where
  buffer : w.buffer.drain.1 = []
  storable {k : NamespacedName} {p : WorkloadNetworkPolicy} : w.stored.lookup k = some p → Storable p
  schema : Schema w.stored.values

def Traced.start (w : World) : Traced := ⟨w, [], w.stored.values⟩

lemma TraceStart.traceable {w : World} (h : TraceStart w) : Traceable w (.start w) where
  buffered obs hobs := by
    have hobs : obs ∈ w.buffer.drain.1 := hobs
    rw [h.buffer] at hobs
    exact absurd hobs List.not_mem_nil
  records hp r hr := .stored hp hr rfl
  storable hp := h.storable hp
  current wnp hwnp := hwnp
  schema := h.schema

/-- **No violation is made up.**  At every moment of every run of the sync, whatever is recorded and
whichever policies others create and edit meanwhile, however old the cache is and whichever patches fail:
every record in a stored status, active or acknowledged, is but for its identifier and its time one that the
policy had at the start, or that of an observation that was recorded before, of a workload that a version of
the policy was for in the direction of the flow. -/
theorem stored_violations_traceable {lib : Apimachinery} {limit : Nat} {start : World} (hstart : TraceStart start)
    {t : Traced} {p : SyncM (Option Err)}
    (hrun : (traced limit).Runs (sync lib) (.start start, .ret none) (t, p)) {k : NamespacedName}
    {wnp : WorkloadNetworkPolicy} (hstored : t.world.stored.lookup k = some wnp) {r : ViolationRecord}
    (hr : r ∈ storedRecords wnp.status) : Comes start t k r := by
  have hsafe : Safe (traced limit) (Traceable start) (fun _ _ => True) (fun _ => Traceable start)
      (.ret none : SyncM (Option Err)) (.start start) :=
    Safe.ret Traceable.stable hstart.traceable fun t ht => ⟨ht, ht⟩
  have hend := (hsafe.reachable (fun _ t ht => sync_traceable lib ht) hrun).inv_holds
  exact hend.records hstored r hr

/-! One observation, recorded for the policy of its workload. -/

/-- The observation is recorded. -/
def observed : Traced :=
  let w := worldWith webPolicy
  ⟨{ w with buffer := (w.buffer.record webObservation).2, recorded := 1, overwritten := 0 },
    [webObservation], w.stored.values ++ w.stored.values⟩

lemma schema_worldWith : Schema (worldWith webPolicy).stored.values := by
  intro wnp hwnp
  rw [List.mem_singleton.1 hwnp]
  decide

/-- What the cycle computes for the policy, and what its status patch stores. -/
def recordedPolicy : WorkloadNetworkPolicy :=
  ((webPolicy.recomputeStatus .documented
    [violationRecord webPolicy.key webObservation] 0).map Prod.fst).getD webPolicy

def reportedPolicy : WorkloadNetworkPolicy := patchStatus (mergeFrom webPolicy recordedPolicy) webPolicy

lemma run_reported : ∃ (t : Traced) (p : SyncM (Option Err)),
    (traced 1).Runs (sync .documented) (.start (worldWith webPolicy), .ret none) (t, p) ∧
      t.seen = [webObservation] ∧ t.world.stored.lookup webPolicy.key = some reportedPolicy := by
  refine ⟨?after, ?rest, ?run, ?seen, ?stored⟩
  case run =>
    have hobserved : (traced 1).env (.start (worldWith webPolicy)) observed :=
      ⟨.record webObservation Nat.zero_lt_one, ⟨rfl, schema_worldWith⟩,
        Or.inr ⟨webObservation, rfl, rfl, rfl⟩⟩
    refine .head (.env hobserved) ?_
    refine .head .restart ?_
    refine .head (.call (x := Except.ok [webPolicy])
      (Traced.exec_after ⟨rfl, fun items h => ?_⟩ trivial schema_worldWith)) ?_
    · obtain rfl := Except.ok.inj h
      exact List.Perm.refl _
    refine .head (.call (x := Except.ok []) (Traced.exec_after rfl trivial schema_worldWith)) ?_
    refine .head (.call (x := [webObservation]) (Traced.exec_after ⟨rfl, rfl⟩ trivial schema_worldWith)) ?_
    refine .head (.call (x := cacheOf webPolicy) (Traced.exec_after rfl ?_ schema_worldWith)) ?_
    · intro wnp hwnp
      rw [List.mem_singleton.1 hwnp]
      exact List.mem_cons_self ..
    refine .head (.call (r := Request.now) (x := (0 : Int)) (Traced.exec_after rfl trivial schema_worldWith)) ?_
    refine .head (.call (x := (none : Option Err))
      (Traced.exec_after ⟨_, patchAnswers_ok webPolicy ?_ ?_, rfl⟩ trivial ?_)) ?_
    · rfl
    · rfl
    · intro wnp hwnp
      rw [List.mem_singleton.1 hwnp]
      decide
    exact .refl
  case seen => rfl
  case stored => rfl

theorem stored_violations_traceable_web : ∃ (t : Traced) (r : ViolationRecord), t.seen = [webObservation] ∧
    reportedPolicy.status.violations = [r] ∧ Comes (worldWith webPolicy) t webPolicy.key r := by
  obtain ⟨t, p, hrun, hseen, hstored⟩ := run_reported
  have hone : reportedPolicy.status.violations.length = 1 := by decide +kernel
  obtain ⟨r, hr⟩ := List.length_eq_one_iff.1 hone
  have hstart : TraceStart (worldWith webPolicy) :=
    ⟨rfl, fun h => (start_worldWith rfl (by decide)).storable h, schema_worldWith⟩
  refine ⟨t, r, hseen, hr, stored_violations_traceable hstart hrun hstored ?_⟩
  rw [storedRecords, hr]
  exact List.mem_append_left _ (List.mem_singleton_self r)

end NetworkEnforcer.Sync
