import NetworkEnforcer.Status.Invariant
import NetworkEnforcer.Sync.ThreeWay
import NetworkEnforcer.Sync.Program

/-!
# The invariant of the status sync

`Ledger` balances the observations of a run: every one that was recorded is overwritten, buffered,
counted as unattributed, part of a stored `violationCount`, part of a status patch that failed, or
pending in the cycle that runs.  `Numbered` is about the events that were emitted, or are about to be:
each identifier at most once, and never one that a stored status still lists.

Both are kept by the others (`SyncInvariant.stable`), by a status patch that succeeds
(`SyncInvariant.commit`) and by one that fails (`SyncInvariant.refuse`).
-/

namespace NetworkEnforcer.Sync

open NetworkEnforcer.Lib NetworkEnforcer.Api NetworkEnforcer.Status NetworkEnforcer.Ringbuf

/-! ## The ledger -/

/-- The counter of a policy at the start of the run; a policy that was created later starts at zero. -/
def countAtStart (start : World) (k : NamespacedName) : Int :=
  ((start.stored.lookup k).map (·.status.violationCount)).getD 0

/-- How much the stored counters have grown, over all policies. -/
def increase (start w : World) : Int :=
  w.stored.sum fun p => p.status.violationCount - countAtStart start p.key

/-- How much the status patches that failed would have added. -/
def lost (w : World) : Int :=
  (w.refused.map fun r => r.1.status.violationCount - r.2.status.violationCount).sum

structure Ledger (start : World) (limit pending : Nat) (w : World) : Prop where
  balance : (w.recorded : Int) =
    w.overwritten + w.buffer.size + w.unattributed.length + increase start w + lost w + pending
  recorded_le : w.recorded ≤ limit
  lost_nonneg : 0 ≤ lost w
  /-- No policy is deleted, no counter goes back. -/
  kept {k : NamespacedName} : w.stored.lookup k = none → start.stored.lookup k = none
  grows {k : NamespacedName} {p : WorkloadNetworkPolicy} :
    w.stored.lookup k = some p → countAtStart start k ≤ p.status.violationCount
  storable {k : NamespacedName} {p : WorkloadNetworkPolicy} : w.stored.lookup k = some p → Storable p

/-- What a run starts from: an empty ledger, and counters that cannot overflow. -/
structure Start (limit : Nat) (w : World) : Prop where
  buffer : w.buffer.size = 0
  unattributed : w.unattributed = []
  emitted : w.emitted = []
  recorded : w.recorded = 0
  overwritten : w.overwritten = 0
  refused : w.refused = []
  limit_lt : limit < 2 ^ 63
  count {k : NamespacedName} {p : WorkloadNetworkPolicy} : w.stored.lookup k = some p →
    0 ≤ p.status.violationCount ∧ p.status.violationCount + limit < 2 ^ 63
  storable {k : NamespacedName} {p : WorkloadNetworkPolicy} : w.stored.lookup k = some p → Storable p

lemma Start.countAtStart_lt {limit : Nat} {w : World} (h : Start limit w) (k : NamespacedName) :
    0 ≤ countAtStart w k ∧ countAtStart w k + limit < 2 ^ 63 := by
  unfold countAtStart
  cases hl : w.stored.lookup k with
  | none => simpa using h.limit_lt
  | some p => exact h.count hl

lemma increase_start (w : World) : increase w w = 0 := by
  unfold increase Store.sum
  have hzero : w.stored.values.map (fun p => p.status.violationCount - countAtStart w p.key) =
      w.stored.values.map fun _ => (0 : Int) := by
    refine List.map_congr_left fun p hp => ?_
    rw [countAtStart, Store.mem_values.1 hp]
    simp
  rw [hzero]
  simp

lemma Start.ledger {limit : Nat} {w : World} (h : Start limit w) : Ledger w limit 0 w where
  balance := by
    rw [increase_start, lost, h.recorded, h.overwritten, h.buffer, h.unattributed, h.refused]
    rfl
  recorded_le := by rw [h.recorded]; exact Nat.zero_le _
  lost_nonneg := by rw [lost, h.refused]; exact le_rfl
  kept hl := hl
  grows hl := by rw [countAtStart, hl]; exact le_rfl
  storable hl := h.storable hl

section Ledger

variable {start w : World} {limit pending : Nat}

/-- What is pending fits into every counter. -/
lemma Ledger.count_lt (h : Ledger start limit pending w) (hstart : Start limit start)
    {k : NamespacedName} {p : WorkloadNetworkPolicy} (hp : w.stored.lookup k = some p) :
    0 ≤ p.status.violationCount ∧ p.status.violationCount + pending < 2 ^ 63 := by
  have hgrow := h.grows hp
  have h0 := hstart.countAtStart_lt k
  have hkey : p.key = k := Store.key_of_lookup hp
  have hle : p.status.violationCount - countAtStart start p.key ≤ increase start w := by
    refine Store.le_sum (f := fun p => p.status.violationCount - countAtStart start p.key)
      (fun q hq => ?_) (Store.mem_of_lookup hp)
    have := h.grows (Store.mem_values.1 hq)
    omega
  have hb := h.balance
  have hr := h.recorded_le
  have hl := h.lost_nonneg
  rw [hkey] at hle
  constructor
  · omega
  · omega

/-- A policy is written, and what it adds to the counters was pending. -/
lemma Ledger.put (h : Ledger start limit pending w) {new : WorkloadNetworkPolicy} {rest : Nat}
    (hincrease : increase start { w with stored := w.stored.put new } + rest = increase start w + pending)
    (hgrows : countAtStart start new.key ≤ new.status.violationCount) (hnew : Storable new) :
    Ledger start limit rest { w with stored := w.stored.put new } := by
  refine ⟨?_, h.recorded_le, h.lost_nonneg, ?_, ?_, ?_⟩
  · have hb := h.balance
    simp only [lost] at hb ⊢
    omega
  · exact fun hl => h.kept (Store.lookup_of_put_eq_none hl)
  · intro k p hp
    rcases Store.lookup_put_cases hp with ⟨rfl, rfl⟩ | ⟨-, hp⟩
    · exact hgrows
    · exact h.grows hp
  · intro k p hp
    rcases Store.lookup_put_cases hp with ⟨rfl, rfl⟩ | ⟨-, hp⟩
    · exact hnew
    · exact h.storable hp

end Ledger

/-! ## Statuses that agree on violations -/

section SameViolations

variable {s s' s'' : WorkloadNetworkPolicyStatus}

lemma SameViolations.refl (s : WorkloadNetworkPolicyStatus) : SameViolations s s := rfl

lemma SameViolations.symm (h : SameViolations s s') : SameViolations s' s := by
  unfold SameViolations at *
  rw [h]

lemma SameViolations.trans (h : SameViolations s s') (h' : SameViolations s' s'') : SameViolations s s'' := by
  unfold SameViolations at *
  rw [h', h]

lemma SameViolations.violationCount (h : SameViolations s s') : s'.violationCount = s.violationCount := by
  rw [h]

lemma SameViolations.violations (h : SameViolations s s') : s'.violations = s.violations := by rw [h]

lemma SameViolations.storedRecords (h : SameViolations s s') : storedRecords s' = storedRecords s := by
  rw [h]
  rfl

lemma SameViolations.allocated {assigned : List ViolationRecord} (hs : SameViolations s s')
    (h : Allocated s assigned) : Allocated s' assigned := by
  rw [hs]
  exact ⟨h.keys, h.ids, h.log, h.range, h.mem⟩

/-- Cutting times to seconds changes neither identifiers nor keys. -/
lemma storedRecords_storedStatus (s : WorkloadNetworkPolicyStatus) :
    Status.storedRecords (storedStatus s) = (Status.storedRecords s).map storedRecord := by
  simp [Status.storedRecords, storedStatus, storedAcknowledged]

lemma allocated_storedStatus {assigned : List ViolationRecord} (h : Allocated s assigned) :
    Allocated (storedStatus s) assigned where
  keys := by
    have := h.keys
    rwa [storedStatus, List.map_map]
  ids := by
    have := h.ids
    rwa [storedRecords_storedStatus, List.map_map]
  log := h.log
  range := h.range
  mem := by
    intro r hr
    rw [storedRecords_storedStatus] at hr
    obtain ⟨r', hr', rfl⟩ := List.mem_map.1 hr
    exact h.mem r' hr'

end SameViolations

/-! ## The events -/

/-- The policy a record belongs to. -/
def policyOf (r : ViolationRecord) : NamespacedName := ⟨r.denyingPolicyNamespace, r.denyingPolicyName⟩

/-- The violations of one policy that events are about. -/
def eventIDs (k : NamespacedName) (events : List AcknowledgedViolationRecord) : List Int :=
  (events.filter fun a => policyOf a.violation = k).map (·.violation.id)

/-- What holds of a status and the events of its policy. -/
structure PolicyNumbered (k : NamespacedName) (s : WorkloadNetworkPolicyStatus)
    (events : List AcknowledgedViolationRecord) : Prop where
  /-- An identifier that an event was about is never given out again. -/
  log : ∃ assigned, Allocated s assigned ∧ ∀ i ∈ eventIDs k events, i ∈ assigned.map (·.id)
  named : ∀ r ∈ storedRecords s, policyOf r = k
  once : (eventIDs k events).Nodup
  gone : ∀ i ∈ eventIDs k events, i ∉ s.violations.map (·.id)

structure Numbered (events : List AcknowledgedViolationRecord) (stored : Store WorkloadNetworkPolicy.key) :
    Prop where
  policy {k : NamespacedName} {p : WorkloadNetworkPolicy} :
    stored.lookup k = some p → PolicyNumbered k p.status events
  known : ∀ a ∈ events, (stored.lookup (policyOf a.violation)).isSome

/-- What the numbering starts from: any statuses that calls of `RecomputeStatus` can have left. -/
def StartNumbered (stored : Store WorkloadNetworkPolicy.key) : Prop :=
  ∀ k p, stored.lookup k = some p →
    (∃ assigned, Allocated p.status assigned) ∧ ∀ r ∈ storedRecords p.status, policyOf r = k

lemma eventIDs_append (k : NamespacedName) (l m : List AcknowledgedViolationRecord) :
    eventIDs k (l ++ m) = eventIDs k l ++ eventIDs k m := by
  simp [eventIDs]

lemma eventIDs_of_forall {k : NamespacedName} {l : List AcknowledgedViolationRecord}
    (h : ∀ a ∈ l, policyOf a.violation = k) : eventIDs k l = l.map (·.violation.id) := by
  rw [eventIDs, List.filter_eq_self.2 (by simpa using h)]

lemma eventIDs_of_ne {k k' : NamespacedName} {l : List AcknowledgedViolationRecord}
    (h : ∀ a ∈ l, policyOf a.violation = k) (hk : k' ≠ k) : eventIDs k' l = [] := by
  have hnil : (l.filter fun a => policyOf a.violation = k') = [] := by
    rw [List.filter_eq_nil_iff]
    intro a ha
    simpa [h a ha] using hk.symm
  rw [eventIDs, hnil]
  rfl

lemma StartNumbered.numbered {stored : Store WorkloadNetworkPolicy.key} (h : StartNumbered stored) :
    Numbered [] stored where
  policy hp := by
    obtain ⟨⟨assigned, halloc⟩, hnamed⟩ := h _ _ hp
    exact ⟨⟨assigned, halloc, by simp [eventIDs]⟩, hnamed, by simp [eventIDs], by simp [eventIDs]⟩
  known := by simp

section Events

variable {k : NamespacedName} {s s' : WorkloadNetworkPolicyStatus}
  {events acks : List AcknowledgedViolationRecord}

lemma PolicyNumbered.sameViolations (h : PolicyNumbered k s events) (hs : SameViolations s s') :
    PolicyNumbered k s' events := by
  obtain ⟨⟨assigned, halloc, hlog⟩, hnamed, honce, hgone⟩ := h
  refine ⟨⟨assigned, hs.allocated halloc, hlog⟩, ?_, honce, ?_⟩
  · rw [hs.storedRecords]
    exact hnamed
  · rw [hs.violations]
    exact hgone

lemma PolicyNumbered.storedStatus (h : PolicyNumbered k s events) :
    PolicyNumbered k (storedStatus s) events := by
  obtain ⟨⟨assigned, halloc, hlog⟩, hnamed, honce, hgone⟩ := h
  refine ⟨⟨assigned, allocated_storedStatus halloc, hlog⟩, ?_, honce, ?_⟩
  · intro r hr
    rw [storedRecords_storedStatus] at hr
    obtain ⟨r', hr', rfl⟩ := List.mem_map.1 hr
    exact hnamed r' hr'
  · intro i hi hmem
    rw [Sync.storedStatus, List.map_map] at hmem
    exact hgone i hi hmem

/-- Events of another policy do not matter. -/
lemma PolicyNumbered.append_other (h : PolicyNumbered k s events) {k' : NamespacedName}
    (hacks : ∀ a ∈ acks, policyOf a.violation = k') (hk : k ≠ k') : PolicyNumbered k s (acks ++ events) := by
  have hevents : eventIDs k (acks ++ events) = eventIDs k events := by
    rw [eventIDs_append, eventIDs_of_ne hacks hk, List.nil_append]
  obtain ⟨hlog, hnamed, honce, hgone⟩ := h
  rw [← hevents] at hlog honce hgone
  exact ⟨hlog, hnamed, honce, hgone⟩

/-- Records of the same policy are merged into records of that policy. -/
lemma policyOf_merged {scraped : List ViolationRecord} (hold : ∀ r ∈ storedRecords s, policyOf r = k)
    (hnew : ∀ v ∈ scraped, policyOf v = k) :
    ∀ r ∈ storedRecords (mergeScrapedViolations s scraped), policyOf r = k := by
  intro r hr
  rw [storedRecords, mergeScrapedViolations_acknowledgedViolations, List.mem_append] at hr
  rcases hr with hr | hr
  · refine mergeScrapedViolations_forall (P := fun r => policyOf r = k) ?_ (fun _ _ h => h)
      (fun r hr => hold r (List.mem_append_left _ hr)) hnew r hr
    intro r v hr _
    unfold ViolationRecord.refresh
    split
    · exact hr
    · exact hr
  · exact hold r (List.mem_append_right _ hr)

/-- **A call of `RecomputeStatus` acknowledges what no event was about**, and for good. -/
theorem PolicyNumbered.recomputed {w w' : WorkloadNetworkPolicy} {scraped : List ViolationRecord}
    {now : Time} (h : PolicyNumbered k w.status events) (hrec : Recomputed w scraped now w' acks)
    (hnew : ∀ v ∈ scraped, policyOf v = k) (h0 : 0 ≤ w.status.violationCount)
    (hlt : w.status.violationCount + scraped.length < 2 ^ 63) :
    PolicyNumbered k w'.status (acks ++ events) ∧ ∀ a ∈ acks, policyOf a.violation = k := by
  obtain ⟨⟨assigned, halloc, hlog⟩, hnamed, honce, hgone⟩ := h
  obtain ⟨hnodup, hids⟩ := hrec.outcome_ids halloc h0 hlt
  have halloc' := hrec.allocated halloc h0 hlt
  have hmerged := policyOf_merged hnamed hnew
  have hmem : ∀ a ∈ acks, a.violation ∈ (mergeScrapedViolations w.status scraped).violations := by
    intro a ha
    exact hrec.outcome_subperm.subset (List.mem_append_left _ (List.mem_map_of_mem ha))
  have hacks : ∀ a ∈ acks, policyOf a.violation = k := fun a ha =>
    hmerged _ (List.mem_append_left _ (hmem a ha))
  -- no identifier of this call is one of an earlier event
  have hfresh : ∀ i ∈ (outcome w' acks).map (·.id), i ∉ eventIDs k events := by
    intro i hi he
    rcases hids i hi with hold | hnew
    · exact hgone i he hold
    · exact hnew (hlog i he)
  rw [outcome, List.map_append, List.map_map] at hnodup hfresh
  have hevents : eventIDs k (acks ++ events) = acks.map (·.violation.id) ++ eventIDs k events := by
    rw [eventIDs_append, eventIDs_of_forall hacks]
  refine ⟨⟨⟨_, halloc', ?_⟩, ?_, ?_, ?_⟩, hacks⟩
  · intro i hi
    rw [hevents, List.mem_append] at hi
    rcases hi with hi | hi
    · obtain ⟨a, ha, rfl⟩ := List.mem_map.1 hi
      obtain ⟨b, hb, hid, -⟩ := (halloc.mergeScrapedViolations scraped h0 hlt).mem _
        (List.mem_append_left _ (hmem a ha))
      exact List.mem_map.2 ⟨b, hb, hid⟩
    · rw [List.map_append]
      exact List.mem_append_left _ (hlog i hi)
  · exact fun r hr => hmerged r (hrec.storedRecords_subperm.subset hr)
  · rw [hevents, List.nodup_append']
    exact ⟨hnodup.of_append_left, honce, fun i hi he => hfresh i (List.mem_append_left _ hi) he⟩
  · intro i hi hact
    rw [hevents, List.mem_append] at hi
    rcases hi with hi | hi
    · exact List.disjoint_of_nodup_append hnodup hi hact
    · exact hfresh i (List.mem_append_right _ hact) hi

/-- No event was about a policy that does not exist. -/
lemma Numbered.eventIDs_eq_nil {stored : Store WorkloadNetworkPolicy.key} (h : Numbered events stored)
    (hnone : stored.lookup k = none) : eventIDs k events = [] := by
  rw [eventIDs, List.map_eq_nil_iff, List.filter_eq_nil_iff]
  intro a ha heq
  have hsome := h.known a ha
  rw [of_decide_eq_true heq, hnone] at hsome
  cases hsome

/-- A policy is written, with events about it. -/
lemma Numbered.put {stored : Store WorkloadNetworkPolicy.key} (h : Numbered events stored)
    {new : WorkloadNetworkPolicy} (hacks : ∀ a ∈ acks, policyOf a.violation = new.key)
    (hpolicy : PolicyNumbered new.key new.status (acks ++ events)) :
    Numbered (acks ++ events) (stored.put new) := by
  refine ⟨fun hp => ?_, fun a ha => ?_⟩
  · rcases Store.lookup_put_cases hp with ⟨rfl, rfl⟩ | ⟨hk, hp⟩
    · exact hpolicy
    · exact (h.policy hp).append_other hacks hk
  · rcases List.mem_append.1 ha with ha | ha
    · rw [hacks a ha, Store.lookup_put]
      rfl
    · exact Store.lookup_put_isSome (h.known a ha)

end Events

/-! ## The invariant -/

/-- The ledger with so much pending, and the numbering with these events still to be emitted. -/
structure SyncInvariant (start : World) (limit pending : Nat) (toEmit : List AcknowledgedViolationRecord)
    (w : World) : Prop where
  ledger : Ledger start limit pending w
  numbered : StartNumbered start.stored → Numbered (toEmit ++ w.emitted) w.stored

/-- The stored policy still has the violation fields of the snapshot. -/
def Current (stored : Store WorkloadNetworkPolicy.key) (wnp : WorkloadNetworkPolicy) : Prop :=
  ∃ p, stored.lookup wnp.key = some p ∧ SameViolations wnp.status p.status

section Keep

variable {start w : World} {limit pending : Nat} {toEmit : List AcknowledgedViolationRecord}

lemma Start.syncInvariant (h : Start limit start) : SyncInvariant start limit 0 [] start where
  ledger := h.ledger
  numbered hn := by
    rw [h.emitted]
    exact hn.numbered

lemma SyncInvariant.record (h : SyncInvariant start limit pending toEmit w) (obs : Observation)
    (hlt : w.recorded < limit) : SyncInvariant start limit pending toEmit { w with
      buffer := (w.buffer.record obs).2
      recorded := w.recorded + 1
      overwritten := w.overwritten + if (w.buffer.record obs).1 then 1 else 0 } where
  ledger :=
    { balance := by
        have hb := h.ledger.balance
        have hs := w.buffer.record_size obs
        simp only [increase, lost] at hb ⊢
        omega
      recorded_le := hlt
      lost_nonneg := h.ledger.lost_nonneg
      kept := h.ledger.kept
      grows := h.ledger.grows
      storable := h.ledger.storable }
  numbered := h.numbered

/-- A policy whose violation fields stay. -/
lemma SyncInvariant.edit (h : SyncInvariant start limit pending toEmit w)
    {old new : WorkloadNetworkPolicy} (hold : w.stored.lookup new.key = some old)
    (hsame : SameViolations old.status new.status) (hnew : Storable new) :
    SyncInvariant start limit pending toEmit { w with stored := w.stored.put new } := by
  have hkey : old.key = new.key := Store.key_of_lookup hold
  have hgrows := h.ledger.grows hold
  rw [← hsame.violationCount] at hgrows
  refine ⟨h.ledger.put ?_ hgrows hnew, fun hn => ?_⟩
  · simp only [increase]
    rw [Store.sum_put_of_lookup _ hold, hsame.violationCount, hkey]
    omega
  · exact (h.numbered hn).put (List.forall_mem_nil _)
      (((h.numbered hn).policy hold).sameViolations hsame)

/-- A policy that was not there. -/
lemma SyncInvariant.create (h : SyncInvariant start limit pending toEmit w) {new : WorkloadNetworkPolicy}
    (hnone : w.stored.lookup new.key = none) (hzero : new.status = {}) (hnew : Storable new) :
    SyncInvariant start limit pending toEmit { w with stored := w.stored.put new } := by
  have hcount : countAtStart start new.key = 0 := by
    rw [countAtStart, h.ledger.kept hnone]
    rfl
  refine ⟨h.ledger.put ?_ (by rw [hcount, hzero]) hnew, fun hn => ?_⟩
  · simp only [increase]
    rw [Store.sum_put_of_none _ hnone, hcount, hzero]
    simp
  · have hnil := (h.numbered hn).eventIDs_eq_nil hnone
    refine (h.numbered hn).put (List.forall_mem_nil _) ?_
    rw [hzero]
    refine ⟨⟨[], ⟨?_, ?_, ?_, ?_, ?_⟩, ?_⟩, ?_, ?_, ?_⟩ <;> simp [hnil, storedRecords]

/-- **The others keep the invariant.** -/
theorem SyncInvariant.stable : (system limit).Stable (SyncInvariant start limit pending toEmit) := by
  intro w w' h hs
  cases hs with
  | record obs hlt => exact h.record obs hlt
  | edit hold hsame hnew => exact h.edit hold hsame hnew
  | create hnone hzero hnew => exact h.create hnone hzero hnew

lemma Current.put {stored : Store WorkloadNetworkPolicy.key} {wnp old new : WorkloadNetworkPolicy}
    (h : Current stored wnp) (hold : stored.lookup new.key = some old)
    (hsame : SameViolations old.status new.status) : Current (stored.put new) wnp := by
  obtain ⟨p, hp, hs⟩ := h
  by_cases hk : wnp.key = new.key
  · rw [hk, hold] at hp
    obtain rfl := Option.some.inj hp
    exact ⟨new, by rw [hk]; exact Store.lookup_put stored new, hs.trans hsame⟩
  · exact ⟨p, by rw [Store.lookup_put_ne hk]; exact hp, hs⟩

lemma Current.put_ne {stored : Store WorkloadNetworkPolicy.key} {wnp new : WorkloadNetworkPolicy}
    (h : Current stored wnp) (hk : wnp.key ≠ new.key) : Current (stored.put new) wnp := by
  obtain ⟨p, hp, hs⟩ := h
  exact ⟨p, by rw [Store.lookup_put_ne hk]; exact hp, hs⟩

/-- **The others keep snapshots current.** -/
theorem Current.stable (wnp : WorkloadNetworkPolicy) :
    (system limit).Stable fun w => Current w.stored wnp := by
  intro w w' h hs
  cases hs with
  | record obs hlt => exact h
  | edit hold hsame hnew => exact h.put hold hsame
  | create hnone hzero hnew =>
    refine h.put_ne fun hk => ?_
    obtain ⟨p, hp, -⟩ := h
    rw [hk, hnone] at hp
    cases hp

end Keep

end NetworkEnforcer.Sync
