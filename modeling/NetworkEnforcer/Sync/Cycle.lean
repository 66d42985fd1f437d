import NetworkEnforcer.Attribution.Soundness
import NetworkEnforcer.Sync.Invariant

/-!
# One cycle keeps the invariant

First what each request of the sync does to the invariant, then the program itself, part by part:
`correlateViolationsToWNPs` (`correlate_safe`), `processWorkloadNetworkPolicy` (`process_safe`) and the
whole cycle (`sync_safe`), each between assertions that the others keep.
-/

namespace NetworkEnforcer.Sync

open NetworkEnforcer.Lib NetworkEnforcer.Api NetworkEnforcer.Status NetworkEnforcer.Attribution

/-! ## Requests -/

section Requests

variable {start w : World} {limit pending : Nat} {toEmit : List AcknowledgedViolationRecord}

lemma SyncInvariant.drain (h : SyncInvariant start limit 0 toEmit w) :
    SyncInvariant start limit w.buffer.drain.1.length toEmit { w with buffer := w.buffer.drain.2 } where
  ledger :=
    { h.ledger with
      balance := by
        have hb := h.ledger.balance
        simp only [increase, lost, Ringbuf.Buffer.drain_length, Ringbuf.Buffer.drain_size] at hb ⊢
        omega }
  numbered := h.numbered

lemma SyncInvariant.recordUnattributed (h : SyncInvariant start limit (pending + 1) toEmit w)
    (obs : Observation) (reason : UnattributedReason) :
    SyncInvariant start limit pending toEmit
      { w with unattributed := (obs, reason) :: w.unattributed } where
  ledger :=
    { h.ledger with
      balance := by
        have hb := h.ledger.balance
        simp only [increase, lost, List.length_cons] at hb ⊢
        omega }
  numbered := h.numbered

lemma SyncInvariant.recordDisagreement (h : SyncInvariant start limit pending toEmit w)
    (obs : Observation) :
    SyncInvariant start limit pending toEmit { w with disagreements := obs :: w.disagreements } where
  ledger := { h.ledger with balance := h.ledger.balance }
  numbered := h.numbered

lemma Numbered.perm {events events' : List AcknowledgedViolationRecord}
    {stored : Store WorkloadNetworkPolicy.key} (h : Numbered events stored) (hp : events.Perm events') :
    Numbered events' stored where
  policy {k p} hl := by
    obtain ⟨⟨assigned, halloc, hlog⟩, hnamed, honce, hgone⟩ := h.policy hl
    have hids : (eventIDs k events).Perm (eventIDs k events') := (hp.filter _).map _
    exact ⟨⟨assigned, halloc, fun i hi => hlog i (hids.symm.subset hi)⟩, hnamed, hids.nodup_iff.1 honce,
      fun i hi => hgone i (hids.symm.subset hi)⟩
  known a ha := h.known a (hp.symm.subset ha)

lemma SyncInvariant.emit {ack : AcknowledgedViolationRecord}
    (h : SyncInvariant start limit pending (ack :: toEmit) w) :
    SyncInvariant start limit pending toEmit { w with emitted := ack :: w.emitted } where
  ledger := { h.ledger with balance := h.ledger.balance }
  numbered hn := (h.numbered hn).perm List.perm_middle.symm

/-- The event is about a record that the stored status of its policy does not list. -/
def Gone (ack : AcknowledgedViolationRecord) (stored : Store WorkloadNetworkPolicy.key) : Prop :=
  ∃ p, stored.lookup (policyOf ack.violation) = some p ∧
    ack.violation.id ∉ p.status.violations.map (·.id)

lemma Numbered.gone {events : List AcknowledgedViolationRecord} {stored : Store WorkloadNetworkPolicy.key}
    (h : Numbered events stored) {ack : AcknowledgedViolationRecord} (hack : ack ∈ events) :
    Gone ack stored := by
  obtain ⟨p, hp⟩ := Option.isSome_iff_exists.1 (h.known ack hack)
  refine ⟨p, hp, (h.policy hp).gone _ (List.mem_map.2 ⟨ack, List.mem_filter.2 ⟨hack, ?_⟩, rfl⟩)⟩
  exact decide_eq_true rfl

end Requests

/-! ## The status patch -/

section Patch

variable {lib : Apimachinery} {wnp new old : WorkloadNetworkPolicy} {violations : List ViolationRecord}
  {now : Time} {acks : List AcknowledgedViolationRecord}

/-- **What a successful status patch stores**: the status that was computed, with the conditions that
are stored by then. -/
theorem patchStatus_commit (hsame : SameViolations wnp.status old.status)
    (hwnp : storedStatus wnp.status = wnp.status) (hold : storedStatus old.status = old.status)
    (hcond : new.status.conditions = wnp.status.conditions) :
    (patchStatus (mergeFrom wnp new) old).status =
      { storedStatus new.status with conditions := old.status.conditions } := by
  rw [patchStatus_status, hwnp, hold]
  have hconditions : (storedStatus new.status).conditions = wnp.status.conditions := by
    rw [← hwnp]
    simp only [storedStatus, hcond]
  rw [hsame]
  simp only [mergeStatus, hconditions, merge3_stored, merge3_unchanged]

variable {start w : World} {limit pending : Nat}

/-- The counter that a call computes. -/
lemma violationCount_of_recomputeStatus (hrec : wnp.recomputeStatus lib violations now = some (new, acks))
    (h0 : 0 ≤ wnp.status.violationCount) (hlt : wnp.status.violationCount + violations.length < 2 ^ 63) :
    new.status.violationCount = wnp.status.violationCount + violations.length := by
  rw [(recomputeStatus_spec hrec).violationCount, mergeScrapedViolations_violationCount h0 hlt]

/-- **A status patch that succeeds.** -/
theorem SyncInvariant.commit (h : SyncInvariant start limit (violations.length + pending) [] w)
    (hstart : Start limit start) (hold : w.stored.lookup wnp.key = some old)
    (hsame : SameViolations wnp.status old.status) (hwnp : Storable wnp)
    (hrec : wnp.recomputeStatus lib violations now = some (new, acks))
    (hnamed : ∀ v ∈ violations, policyOf v = wnp.key) :
    SyncInvariant start limit pending acks
      { w with stored := w.stored.put (patchStatus (mergeFrom wnp new) old) } := by
  have hspec := recomputeStatus_spec hrec
  have hkey : old.key = wnp.key := Store.key_of_lookup hold
  have hbound := h.ledger.count_lt hstart hold
  have hcount := hsame.violationCount
  rw [hcount] at hbound
  push_cast at hbound
  have hnew := violationCount_of_recomputeStatus hrec hbound.1 (by omega)
  have hstored := h.ledger.storable hold
  have hstatus := patchStatus_commit hsame hwnp.times hstored.times hspec.conditions
  set committed := patchStatus (mergeFrom wnp new) old with hcommitted
  have hckey : committed.key = wnp.key := hkey
  have hccount : committed.status.violationCount = old.status.violationCount + violations.length := by
    rw [hstatus, hcount]
    exact hnew
  have hold' : w.stored.lookup committed.key = some old := by rw [hckey]; exact hold
  have hcstorable : Storable committed := by
    refine ⟨hstored.backend, ?_⟩
    rw [hstatus]
    exact storedStatus_storedStatus (congrArg WorkloadNetworkPolicyStatus.conditions hstored.times)
  refine ⟨h.ledger.put ?_ ?_ hcstorable, fun hn => ?_⟩
  · simp only [increase]
    rw [Store.sum_put_of_lookup _ hold', hccount, hkey, hckey]
    push_cast
    omega
  · have := h.ledger.grows hold'
    omega
  · have hnumbered := h.numbered hn
    rw [List.nil_append] at hnumbered
    obtain ⟨hpolicy, hacks⟩ := ((hnumbered.policy hold).sameViolations hsame.symm).recomputed hspec hnamed
      hbound.1 (by omega)
    rw [← hckey] at hacks
    refine hnumbered.put hacks ?_
    rw [hckey, hstatus]
    exact hpolicy.storedStatus.sameViolations rfl

/-- **A status patch that fails**: what was pending is lost. -/
theorem SyncInvariant.refuse (h : SyncInvariant start limit (violations.length + pending) [] w)
    (hstart : Start limit start) (hold : w.stored.lookup wnp.key = some old)
    (hsame : SameViolations wnp.status old.status)
    (hrec : wnp.recomputeStatus lib violations now = some (new, acks)) :
    SyncInvariant start limit pending [] { w with refused := (new, wnp) :: w.refused } := by
  have hbound := h.ledger.count_lt hstart hold
  rw [hsame.violationCount] at hbound
  push_cast at hbound
  have hnew := violationCount_of_recomputeStatus hrec hbound.1 (by omega)
  have hb := h.ledger.balance
  have hl := h.ledger.lost_nonneg
  simp only [increase, lost] at hb hl
  refine ⟨{ h.ledger with balance := ?_, lost_nonneg := ?_ }, h.numbered⟩
  · simp only [increase, lost, List.map_cons, List.sum_cons]
    push_cast at hb
    omega
  · simp only [lost, List.map_cons, List.sum_cons]
    omega

end Patch

/-! ## Assertions -/

/-- The records a policy gets in this cycle. -/
def recordsFor (m : ViolationsByWNP) (wnp : WorkloadNetworkPolicy) : List ViolationRecord :=
  (m.lookup wnp.key).getD []

/-- How many records the policies of a list get. -/
def pendingFor (m : ViolationsByWNP) (wnps : List WorkloadNetworkPolicy) : Nat :=
  (wnps.map fun wnp => (recordsFor m wnp).length).sum

/-- Every record names the policy it is for. -/
def RecordsNamed (m : ViolationsByWNP) : Prop :=
  ∀ k, ∀ v ∈ (m.lookup k).getD [], policyOf v = k

/-- The world in the middle of a cycle: so much pending, these events to be emitted, and the snapshots
of these policies still current. -/
structure Between (start : World) (limit pending : Nat) (toEmit : List AcknowledgedViolationRecord)
    (wnps : List WorkloadNetworkPolicy) (w : World) : Prop where
  invariant : SyncInvariant start limit pending toEmit w
  current : ∀ wnp ∈ wnps, Current w.stored wnp

/-- What holds at every moment. -/
def Always (start : World) (limit : Nat) (w : World) : Prop :=
  ∃ pending toEmit, SyncInvariant start limit pending toEmit w

/-- What holds of a request when it is made: the program never crashes, and an event is about a record
that the stored status has given up. -/
def Before (start : World) : Request → World → Prop
  | .crash, _ => False
  | .emit ack, w => StartNumbered start.stored → Gone ack w.stored
  | _, _ => True

section Cycle

variable {start : World} {limit pending : Nat} {toEmit : List AcknowledgedViolationRecord}
  {wnps : List WorkloadNetworkPolicy}

lemma Between.stable : (system limit).Stable (Between start limit pending toEmit wnps) :=
  fun _ _ h hs => ⟨SyncInvariant.stable h.invariant hs, fun wnp hw => Current.stable wnp (h.current wnp hw) hs⟩

lemma Between.always {w : World} (h : Between start limit pending toEmit wnps w) : Always start limit w :=
  ⟨_, _, h.invariant⟩

/-- A policy whose violation fields stay, as the patch of the annotations leaves them. -/
lemma Between.edit {w : World} (h : Between start limit pending toEmit wnps w)
    {old new : WorkloadNetworkPolicy} (hold : w.stored.lookup new.key = some old)
    (hsame : SameViolations old.status new.status) (hnew : Storable new) :
    Between start limit pending toEmit wnps { w with stored := w.stored.put new } :=
  ⟨h.invariant.edit hold hsame hnew, fun wnp hw => (h.current wnp hw).put hold hsame⟩

/-! ## Correlating -/

lemma recordsNamed_push {m : ViolationsByWNP} (h : RecordsNamed m) (k : NamespacedName)
    (obs : Observation) : RecordsNamed (m.push k (violationRecord k obs)) := by
  intro k' v hv
  by_cases hk : k' = k
  · subst hk
    rw [GoMap.lookup_push_self, List.mem_append, List.mem_singleton] at hv
    rcases hv with hv | rfl
    · exact h k' v hv
    · rfl
  · rw [GoMap.lookup_push_ne m _ hk] at hv
    exact h k' v hv

/-- A record that is pushed is pending, if its policy is on the list. -/
lemma pendingFor_push (m : ViolationsByWNP) (v : ViolationRecord) {k : NamespacedName}
    (hnodup : (wnps.map WorkloadNetworkPolicy.key).Nodup)
    (hk : k ∈ wnps.map WorkloadNetworkPolicy.key) :
    pendingFor (m.push k v) wnps = pendingFor m wnps + 1 := by
  induction wnps with
  | nil => cases hk
  | cons wnp wnps ih =>
    simp only [List.map_cons, List.nodup_cons] at hnodup
    simp only [pendingFor, List.map_cons, List.sum_cons] at ih ⊢
    by_cases hkey : k = wnp.key
    · -- this policy gets the record, the others have other keys
      have hothers : ∀ wnp' ∈ wnps, recordsFor (m.push k v) wnp' = recordsFor m wnp' := by
        intro wnp' hw'
        rw [recordsFor, GoMap.lookup_push_ne, recordsFor]
        exact fun he => hnodup.1 (hkey ▸ he ▸ List.mem_map_of_mem hw')
      have hself : (recordsFor (m.push k v) wnp).length = (recordsFor m wnp).length + 1 := by
        rw [recordsFor, ← hkey, GoMap.lookup_push_self, recordsFor, hkey, List.length_append]
        rfl
      rw [hself, List.map_congr_left fun wnp' hw' => congrArg List.length (hothers wnp' hw')]
      omega
    · have hmem : k ∈ wnps.map WorkloadNetworkPolicy.key := (List.mem_cons.1 hk).resolve_left hkey
      have hself : recordsFor (m.push k v) wnp = recordsFor m wnp := by
        rw [recordsFor, GoMap.lookup_push_ne _ _ (Ne.symm hkey), recordsFor]
      rw [hself, ih hnodup.2 hmem]
      omega

variable {ownedIndex : GoMap NamespacedName (Option NamespacedName)} {snap : Snapshot}
  {duplicates : List WnpTarget}

/-- Counting a disagreement changes nothing here. -/
lemma recordDisagreement_safe {α : Type} {Q : α → World → Prop} {n : Nat} {wnps : List WorkloadNetworkPolicy}
    {obs : Observation} {disagree : Bool} {p : SyncM α}
    (hp : ∀ w, Between start limit n [] wnps w →
      Safe (system limit) (Always start limit) (Before start) Q p w)
    {w : World} (h : Between start limit n [] wnps w) :
    Safe (system limit) (Always start limit) (Before start) Q
      (if disagree = true then ask (.recordDisagreement obs) >>= fun _ => p else p) w := by
  split
  · refine Safe.ask_bind Between.stable h (fun w hw => ⟨hw.always, trivial⟩) fun w _ w' hw hx => ?_
    obtain rfl := hx
    exact hp _ ⟨hw.invariant.recordDisagreement obs, hw.current⟩
  · exact hp w h

/-- An observation stops being pending, or its record is. -/
lemma correlateViolation_safe {m : ViolationsByWNP} (hm : RecordsNamed m) (obs : Observation) {w : World}
    (h : Between start limit (pending + 1 + pendingFor m snap.values) [] snap.values w) :
    Safe (system limit) (Always start limit) (Before start)
      (fun m' w => RecordsNamed m' ∧
        Between start limit (pending + pendingFor m' snap.values) [] snap.values w)
      (correlateViolation ownedIndex snap duplicates m obs) w := by
  unfold correlateViolation
  refine Safe.ask_bind Between.stable h (fun w hw => ⟨hw.always, trivial⟩) fun w c w' hw hx => ?_
  obtain rfl : w' = w := hx
  refine recordDisagreement_safe (fun w hw => ?_) hw
  cases houtcome : (attributeViolation c obs ownedIndex snap duplicates).1 with
  | error reason =>
    refine Safe.ask_bind Between.stable hw (fun w hw => ⟨hw.always, trivial⟩) fun w _ w' hw hx => ?_
    obtain rfl := hx
    have hinv : SyncInvariant start limit (pending + pendingFor m snap.values + 1) [] w := by
      have := hw.invariant
      rwa [Nat.add_right_comm] at this
    have hbetween : Between start limit (pending + pendingFor m snap.values) [] snap.values
        { w with unattributed := (obs, reason) :: w.unattributed } :=
      ⟨hinv.recordUnattributed obs reason, hw.current⟩
    exact Safe.ret Between.stable hbetween fun w hw => ⟨hw.always, hm, hw⟩
  | ok wnpKey =>
    have hpush := pendingFor_push m (violationRecord wnpKey obs) snap.map_key_values_nodup
      (Store.mem_map_key_values.2 (attributeViolation_known houtcome))
    rw [show pending + 1 + pendingFor m snap.values =
      pending + pendingFor (m.push wnpKey (violationRecord wnpKey obs)) snap.values by omega] at hw
    exact Safe.ret Between.stable hw fun w hw => ⟨hw.always, recordsNamed_push hm wnpKey obs, hw⟩

lemma pendingFor_empty (wnps : List WorkloadNetworkPolicy) : pendingFor ∅ wnps = 0 := by
  simp [pendingFor, recordsFor]

/-- **Every drained observation is counted as unattributed or pending for a policy of the snapshot.** -/
theorem correlate_safe (observations : List Observation) {w : World}
    (h : Between start limit observations.length [] snap.values w) :
    Safe (system limit) (Always start limit) (Before start)
      (fun m w => RecordsNamed m ∧ Between start limit (pendingFor m snap.values) [] snap.values w)
      (correlateViolationsToWNPs observations ownedIndex snap duplicates) w := by
  have hnone : RecordsNamed ∅ := fun k v hv => by simp at hv
  have hloop : Safe (system limit) (Always start limit) (Before start)
      (fun m w => RecordsNamed m ∧
        Between start limit (([] : List Observation).length + pendingFor m snap.values) [] snap.values w)
      (correlateViolationsToWNPs observations ownedIndex snap duplicates) w :=
    Safe.foldlM (I := fun (rest : List Observation) m w => RecordsNamed m ∧
        Between start limit (rest.length + pendingFor m snap.values) [] snap.values w)
      (fun m w w' hw hs => ⟨hw.1, Between.stable hw.2 hs⟩) (fun _ _ hw => hw.2.always) observations
      (fun obs _ rest m w hw => correlateViolation_safe hw.1 obs hw.2)
      ⟨hnone, by rwa [pendingFor_empty]⟩
  simpa using hloop

/-! ## Processing one policy -/

lemma emit_safe {acks : List AcknowledgedViolationRecord} {w : World}
    (h : Between start limit pending acks wnps w) :
    Safe (system limit) (Always start limit) (Before start)
      (fun _ => Between start limit pending [] wnps) (emitAcknowledgedViolations acks) w := by
  refine Safe.forM (I := fun toEmit => Between start limit pending toEmit wnps) Between.stable
    (fun _ hw => hw.always) acks (fun ack _ toEmit w hw => ?_) h
  refine Safe.call Between.stable hw (fun w hw => ⟨hw.always, fun hn => ?_⟩) fun w _ w' hw hx => ?_
  · exact (hw.invariant.numbered hn).gone (List.mem_append_left _ (List.mem_cons_self ..))
  · obtain rfl := hx
    have hnext : Between start limit pending toEmit wnps { w with emitted := ack :: w.emitted } :=
      ⟨hw.invariant.emit, hw.current⟩
    exact Safe.ret Between.stable hnext fun w hw => ⟨hw.always, hw⟩

/-- The patch of the annotations leaves the violation fields alone, whether it succeeds or not. -/
lemma Between.patchObject {obj base : WorkloadNetworkPolicy} {w : World} {err : Option Err}
    {stored' : Store WorkloadNetworkPolicy.key} (h : Between start limit pending toEmit wnps w)
    (hpatch : PatchAnswers obj base patchObject w.stored err stored') :
    Between start limit pending toEmit wnps { w with stored := stored' } := by
  cases err with
  | some e =>
    obtain rfl := hpatch
    exact h
  | none =>
    obtain ⟨old, hold, -, rfl⟩ := hpatch
    have hlookup : w.stored.lookup (Sync.patchObject (mergeFrom base obj) old).key = some old := by
      rw [patchObject_key, Store.key_of_lookup hold]
      exact hold
    refine h.edit hlookup ?_ ⟨?_, ?_⟩
    · rw [patchObject_status]
      exact SameViolations.refl old.status
    · rw [patchObject_spec]
      exact (h.invariant.ledger.storable hold).backend
    · rw [patchObject_status]
      exact (h.invariant.ledger.storable hold).times

/-- **Processing a policy** commits its records or loses them, and emits its events. -/
theorem process_safe {lib : Apimachinery} (hstart : Start limit start) {wnp : WorkloadNetworkPolicy}
    (hwnp : Storable wnp) (hkey : wnp.key ∉ wnps.map WorkloadNetworkPolicy.key)
    {violations : List ViolationRecord} (hnamed : ∀ v ∈ violations, policyOf v = wnp.key) {w : World}
    (h : Between start limit (violations.length + pending) [] (wnp :: wnps) w) :
    Safe (system limit) (Always start limit) (Before start)
      (fun _ => Between start limit pending [] wnps) (processWorkloadNetworkPolicy lib wnp violations) w := by
  unfold processWorkloadNetworkPolicy
  refine Safe.ask_bind Between.stable h (fun w hw => ⟨hw.always, trivial⟩) fun w now w' hw hx => ?_
  obtain rfl : w' = w := hx
  obtain ⟨new, acks, hrec⟩ := recomputeStatus_isSome lib hwnp.backend violations now
  simp only [hrec]
  refine Safe.ask_bind Between.stable hw (fun w hw => ⟨hw.always, trivial⟩) fun w err w' hw hx => ?_
  obtain ⟨stored', hpatch, rfl⟩ := hx
  obtain ⟨old, hold, hsame⟩ := hw.current wnp (List.mem_cons_self ..)
  cases err with
  | some err =>
    obtain rfl := hpatch
    have hlost : Between start limit pending [] wnps { w with refused := (new, wnp) :: w.refused } :=
      ⟨hw.invariant.refuse hstart hold hsame hrec, fun wnp' hw' => hw.current wnp' (List.mem_cons_of_mem _ hw')⟩
    exact Safe.ret Between.stable hlost fun w hw => ⟨hw.always, hw⟩
  | none =>
    obtain ⟨old', hold', -, rfl⟩ := hpatch
    obtain rfl : old = old' := Option.some.inj (hold.symm.trans hold')
    have hcommit : Between start limit pending acks wnps
        { w with stored := w.stored.put (patchStatus (mergeFrom wnp new) old) } := by
      refine ⟨hw.invariant.commit hstart hold hsame hwnp hrec hnamed, fun wnp' hw' => ?_⟩
      -- the other snapshots are of other policies
      refine (hw.current wnp' (List.mem_cons_of_mem _ hw')).put_ne fun he => hkey ?_
      have hold' : old.key = wnp.key := Store.key_of_lookup hold
      rw [← hold', ← patchStatus_key (mergeFrom wnp new), ← he]
      exact List.mem_map_of_mem hw'
    refine Safe.bind (emit_safe hcommit) fun _ w hw => ?_
    refine Safe.ask_bind Between.stable hw (fun w hw => ⟨hw.always, trivial⟩) fun w err w' hw hx => ?_
    obtain ⟨stored', hpatch, rfl⟩ := hx
    have hpatched := hw.patchObject hpatch
    cases err with
    | some err => exact Safe.ret Between.stable hpatched fun w hw => ⟨hw.always, hw⟩
    | none => exact Safe.ret Between.stable hpatched fun w hw => ⟨hw.always, hw⟩

/-! ## The cycle -/

/-- A list of what is stored is current. -/
lemma current_of_perm {stored : Store WorkloadNetworkPolicy.key} {items : List WorkloadNetworkPolicy}
    (h : items.Perm stored.values) : ∀ wnp ∈ (wnpByKey items).values, Current stored wnp := by
  intro wnp hw
  have hitem : wnp ∈ items := (GoMap.lookup_indexBy (Store.mem_values.1 hw)).1
  exact ⟨wnp, Store.mem_values.1 (h.subset hitem), SameViolations.refl _⟩

/-- The loop over the policies: in front of every turn, the records of the policies to come are
pending. -/
lemma processAll_safe {lib : Apimachinery} (hstart : Start limit start) {m : ViolationsByWNP}
    (hnamed : RecordsNamed m) (hstorable : ∀ wnp ∈ wnps, Storable wnp)
    (hnodup : (wnps.map WorkloadNetworkPolicy.key).Nodup) {w : World}
    (h : Between start limit (pendingFor m wnps) [] wnps w) :
    Safe (system limit) (Always start limit) (Before start) (fun _ => Between start limit 0 [] [])
      (wnps.forM fun wnp => do
        let _ ← processWorkloadNetworkPolicy lib wnp ((m.lookup wnp.key).getD [])) w := by
  refine Safe.mono (Safe.forM (I := fun rest w => Between start limit (pendingFor m rest) [] rest w ∧
    (rest.map WorkloadNetworkPolicy.key).Nodup) (fun w w' hw hs => ⟨Between.stable hw.1 hs, hw.2⟩)
    (fun _ hw => hw.1.always) wnps (fun wnp hmem rest w hw => ?_) ⟨h, hnodup⟩) fun _ _ hw => hw.1
  obtain ⟨hw, hnodup⟩ := hw
  rw [List.map_cons, List.nodup_cons] at hnodup
  refine Safe.bind (process_safe hstart (hstorable wnp hmem) hnodup.1 (hnamed wnp.key) hw) fun _ w hw => ?_
  exact Safe.ret Between.stable hw fun w hw => ⟨hw.always, hw, hnodup.2⟩

/-- **A whole cycle**, from nothing pending to nothing pending. -/
theorem sync_safe (lib : Apimachinery) (hstart : Start limit start) {w : World}
    (h : SyncInvariant start limit 0 [] w) :
    Safe (system limit) (Always start limit) (Before start)
      (fun _ => SyncInvariant start limit 0 []) (sync lib) w := by
  unfold sync
  refine Safe.ask_bind SyncInvariant.stable h (fun w hw => ⟨⟨_, _, hw⟩, trivial⟩) fun w listed w' hw hx => ?_
  obtain ⟨rfl, hlist⟩ := hx
  cases listed with
  | error err => exact Safe.ret SyncInvariant.stable hw fun w hw => ⟨⟨_, _, hw⟩, hw⟩
  | ok items =>
    have hcurrent := current_of_perm (hlist items rfl)
    have hstorable : ∀ wnp ∈ (wnpByKey items).values, Storable wnp := by
      intro wnp hmem
      have hitem : wnp ∈ items := (GoMap.lookup_indexBy (Store.mem_values.1 hmem)).1
      exact hw.ledger.storable (Store.mem_values.1 ((hlist items rfl).subset hitem))
    have hbetween : Between start limit 0 [] (wnpByKey items).values w' := ⟨hw, hcurrent⟩
    refine Safe.ask_bind Between.stable hbetween (fun w hw => ⟨hw.always, trivial⟩) fun w nps w' hw hx => ?_
    obtain rfl : w' = w := hx
    cases nps with
    | error err => exact Safe.ret Between.stable hw fun w hw => ⟨hw.always, hw.invariant⟩
    | ok nps =>
      refine Safe.ask_bind Between.stable hw (fun w hw => ⟨hw.always, trivial⟩)
        fun w observations w' hw hx => ?_
      obtain ⟨rfl, rfl⟩ := hx
      refine Safe.bind (correlate_safe _ ⟨hw.invariant.drain, hw.current⟩) fun m w hm => ?_
      obtain ⟨hnamed, hw⟩ := hm
      split
      · rename_i hempty
        rw [List.isEmpty_iff.1 hempty] at hw
        exact Safe.ret Between.stable hw fun w hw => ⟨hw.always, hw.invariant⟩
      · refine Safe.bind (processAll_safe hstart hnamed hstorable (Store.map_key_values_nodup _) hw)
          fun _ w hw => ?_
        exact Safe.ret Between.stable hw fun w hw => ⟨hw.always, hw.invariant⟩

end Cycle

end NetworkEnforcer.Sync
