import Mathlib.Algebra.Order.BigOperators.Group.List
import NetworkEnforcer.Status.Recompute

/-!
# The invariant of the status over whole runs

A run is a list of calls of `RecomputeStatus`; before each call the spec, the annotations and the
generation of the policy may have been edited in any way.  The log `assigned` collects the records the
merge loops gave an identifier to, in every call of the run.

`StatusInvariant` is what holds after every call (`runCalls_invariant`).  Its inductive core is
`Allocated`, kept by the merge (`Allocated.mergeScrapedViolations`) and by everything after it, which
only moves and drops records (`Recomputed.storedRecords_subperm`).
-/

namespace NetworkEnforcer.Status

open NetworkEnforcer.Lib NetworkEnforcer.Api

/-! ## Runs -/

/-- One call of `RecomputeStatus`, with the edits made to the policy before it. -/
structure Call where
  spec : WorkloadNetworkPolicySpec
  annotations : GoMap String String
  generation : Int
  scraped : List ViolationRecord
  now : Time

/-- The policy as the call finds it. -/
def Call.edit (c : Call) (w : WorkloadNetworkPolicy) : WorkloadNetworkPolicy :=
  { w with spec := c.spec, annotations := c.annotations, generation := c.generation }

/-- The policy, and the records that were given an identifier so far. -/
structure RunState where
  policy : WorkloadNetworkPolicy
  assigned : List ViolationRecord := []

/-- One call of a run; `none` if it would dereference a nil pointer. -/
def Call.run (lib : Apimachinery) (st : RunState) (c : Call) : Option RunState :=
  let w := c.edit st.policy
  match w.recomputeStatus lib c.scraped c.now with
  | some (w', _) =>
    some ⟨w', st.assigned ++ mergeAssigned (w.status, indexByKey w.status.violations) c.scraped⟩
  | none => none

/-- A whole run. -/
def runCalls (lib : Apimachinery) (st : RunState) : List Call → Option RunState
  | [] => some st
  | c :: calls =>
    match Call.run lib st c with
    | some st' => runCalls lib st' calls
    | none => none

lemma runCalls_concat (lib : Apimachinery) (calls : List Call) (c : Call) :
    ∀ st : RunState, runCalls lib st (calls ++ [c]) = (runCalls lib st calls).bind (Call.run lib · c) := by
  induction calls with
  | nil =>
    intro st
    simp only [List.nil_append, runCalls, Option.bind_some]
    cases Call.run lib st c <;> rfl
  | cons c' calls ih =>
    intro st
    simp only [List.cons_append, runCalls]
    cases Call.run lib st c' with
    | none => rfl
    | some st' => exact ih st'

/-- The number of records scraped in a run. -/
def scrapedTotal (calls : List Call) : Nat := (calls.map (·.scraped.length)).sum

/-! ## The invariant -/

/-- The status after a call: `assigned` is the log of the run, `total` the number of records scraped. -/
structure StatusInvariant (s : WorkloadNetworkPolicyStatus) (assigned : List ViolationRecord)
    (total : Nat) : Prop where
  /-- The identifiers of both lists together are pairwise distinct, … -/
  ids_nodup : (s.violations.map (·.id) ++ s.acknowledgedViolations.map (·.violation.id)).Nodup
  /-- … lie below the counter, … -/
  ids_range : ∀ i ∈ s.violations.map (·.id) ++ s.acknowledgedViolations.map (·.violation.id),
    0 ≤ i ∧ i < s.violationCount
  /-- … and no identifier was given to two records in the whole run: … -/
  assigned_nodup : (assigned.map (·.id)).Nodup
  /-- … a stored record is still the one its identifier was given to. -/
  stored_assigned : ∀ r ∈ storedRecords s, ∃ a ∈ assigned, a.id = r.id ∧ a.key = r.key
  /-- No violation is listed twice. -/
  keys_nodup : (s.violations.map ViolationRecord.key).Nodup
  /-- Active violations are ordered newest first, … -/
  violations_newest : s.violations.Pairwise fun a b => b.timestamp ≤ a.timestamp
  /-- … acknowledged ones by the time of their acknowledgement, … -/
  acknowledged_newest :
    s.acknowledgedViolations.Pairwise fun a b => b.acknowledgedAt ≤ a.acknowledgedAt
  /-- … and both lists are short. -/
  violations_length : s.violations.length ≤ maxViolationRecords
  acknowledged_length : s.acknowledgedViolations.length ≤ maxViolationRecords
  /-- The two counters. -/
  active : s.activeViolationCount = s.violations.length
  count : s.violationCount = total

/-- The invariant together with what the next call needs of the log. -/
structure RunInvariant (st : RunState) (total : Nat) : Prop where
  status : StatusInvariant st.policy.status st.assigned total
  allocated : Allocated st.policy.status st.assigned

/-! ## One call -/

lemma Allocated.mergeScrapedViolations {s : WorkloadNetworkPolicyStatus}
    {assigned : List ViolationRecord} (h : Allocated s assigned) (scraped : List ViolationRecord)
    (h0 : 0 ≤ s.violationCount) (hlt : s.violationCount + scraped.length < 2 ^ 63) :
    Allocated (mergeScrapedViolations s scraped)
      (assigned ++ mergeAssigned (s, indexByKey s.violations) scraped) := by
  have hloop := Allocated.foldl_mergeStep scraped (indexed_positions h.keys) h h0 hlt
  have hsub : (Api.mergeScrapedViolations s scraped).violations.Subperm (mergeLoop s scraped).violations :=
    sortAndTrim_subperm _ _
  refine hloop.subperm hsub ?_ le_rfl
  exact hsub.append (List.Subperm.refl _)

/-- After the merge, records move and drop, but none is made. -/
lemma Recomputed.storedRecords_subperm {w w' : WorkloadNetworkPolicy} {scraped : List ViolationRecord}
    {now : Time} {acks : List AcknowledgedViolationRecord} (h : Recomputed w scraped now w' acks) :
    (storedRecords w'.status).Subperm (storedRecords (mergeScrapedViolations w.status scraped)) := by
  obtain ⟨cleared, hsub, hv, ha, -⟩ := h.stages
  unfold storedRecords
  rw [mergeScrapedViolations_acknowledgedViolations]
  rcases h.acknowledged with ⟨-, hk⟩ | hk
  · rw [hk, hv]
    exact (List.Sublist.append (List.filter_sublist.trans hsub) (List.Sublist.refl _)).subperm
  · have h1 : (w'.status.acknowledgedViolations.map (·.violation)).Subperm
        (w.status.acknowledgedViolations.map (·.violation) ++
          cleared.filter (isAcknowledged w.annotations)) := by
      rw [hk, ← ha, ← List.map_append]
      exact subperm_map _ (sortAndTrim_subperm _ _)
    have h2 : (cleared.filter (isAcknowledged w.annotations) ++
        cleared.filter fun v => !isAcknowledged w.annotations v).Perm cleared :=
      List.filter_append_perm _ cleared
    rw [hv]
    refine ((List.Subperm.refl _).append h1).trans ?_
    refine (List.perm_append_comm.append_left _).subperm.trans ?_
    rw [← List.append_assoc]
    exact ((List.perm_append_comm.trans h2).append_right _).subperm.trans
      (hsub.append (List.Sublist.refl _)).subperm

lemma Recomputed.violations_sublist {w w' : WorkloadNetworkPolicy} {scraped : List ViolationRecord}
    {now : Time} {acks : List AcknowledgedViolationRecord} (h : Recomputed w scraped now w' acks) :
    w'.status.violations.Sublist (mergeScrapedViolations w.status scraped).violations := by
  obtain ⟨cleared, hsub, hv, -, -⟩ := h.stages
  rw [hv]
  exact List.filter_sublist.trans hsub

lemma Recomputed.allocated {w w' : WorkloadNetworkPolicy} {scraped : List ViolationRecord} {now : Time}
    {acks : List AcknowledgedViolationRecord} (h : Recomputed w scraped now w' acks)
    {assigned : List ViolationRecord} (halloc : Allocated w.status assigned)
    (h0 : 0 ≤ w.status.violationCount) (hlt : w.status.violationCount + scraped.length < 2 ^ 63) :
    Allocated w'.status (assigned ++ mergeAssigned (w.status, indexByKey w.status.violations) scraped) :=
  (halloc.mergeScrapedViolations scraped h0 hlt).subperm h.violations_sublist.subperm
    h.storedRecords_subperm h.violationCount.ge

/-- The records a call acknowledges and those it leaves active, together. -/
def outcome (w' : WorkloadNetworkPolicy) (acks : List AcknowledgedViolationRecord) : List ViolationRecord :=
  acks.map (·.violation) ++ w'.status.violations

lemma Recomputed.outcome_subperm {w w' : WorkloadNetworkPolicy} {scraped : List ViolationRecord}
    {now : Time} {acks : List AcknowledgedViolationRecord} (h : Recomputed w scraped now w' acks) :
    (outcome w' acks).Subperm (mergeScrapedViolations w.status scraped).violations := by
  obtain ⟨cleared, hsub, hv, ha, -⟩ := h.stages
  rw [outcome, hv, ha]
  exact (List.filter_append_perm _ cleared).subperm.trans hsub.subperm

/-- **No record is acknowledged and left active**, and the identifier of either was active before or has
never been given out. -/
theorem Recomputed.outcome_ids {w w' : WorkloadNetworkPolicy} {scraped : List ViolationRecord}
    {now : Time} {acks : List AcknowledgedViolationRecord} (h : Recomputed w scraped now w' acks)
    {assigned : List ViolationRecord} (halloc : Allocated w.status assigned)
    (h0 : 0 ≤ w.status.violationCount) (hlt : w.status.violationCount + scraped.length < 2 ^ 63) :
    ((outcome w' acks).map (·.id)).Nodup ∧
      ∀ i ∈ (outcome w' acks).map (·.id), i ∈ w.status.violations.map (·.id) ∨ i ∉ assigned.map (·.id) := by
  have hmerged := halloc.mergeScrapedViolations scraped h0 hlt
  have hids : ((mergeScrapedViolations w.status scraped).violations.map (·.id)).Nodup := by
    have := hmerged.ids
    rw [storedRecords, List.map_append] at this
    exact this.of_append_left
  refine ⟨nodup_of_subperm (subperm_map _ h.outcome_subperm) hids, fun i hi => ?_⟩
  -- the loop keeps the old identifiers and adds the ones it logs
  have hloop : i ∈ (mergeLoop w.status scraped).violations.map (·.id) :=
    (subperm_map _ (h.outcome_subperm.trans (sortAndTrim_subperm _ _))).subset hi
  rw [mergeLoop, foldl_mergeStep_ids, List.mem_append] at hloop
  refine hloop.imp_right fun hnew hold => ?_
  have hlog := hmerged.log
  rw [List.map_append] at hlog
  exact (List.disjoint_of_nodup_append hlog) hold hnew

/-- **What one call keeps.** -/
theorem RunInvariant.step {st : RunState} {total : Nat} (h : RunInvariant st total)
    (lib : Apimachinery) (c : Call) (hcrd : c.spec.backend = .kubernetes → c.spec.kubernetes.isSome)
    (hlt : total + c.scraped.length < 2 ^ 63) :
    ∃ st', Call.run lib st c = some st' ∧ RunInvariant st' (total + c.scraped.length) := by
  obtain ⟨w', acks, hrun⟩ := recomputeStatus_isSome lib (w := c.edit st.policy) hcrd c.scraped c.now
  have hspec := recomputeStatus_spec hrun
  have hcount : (c.edit st.policy).status.violationCount = total := h.status.count
  have h0 : 0 ≤ (c.edit st.policy).status.violationCount := by rw [hcount]; omega
  have hbound : (c.edit st.policy).status.violationCount + c.scraped.length < 2 ^ 63 := by
    rw [hcount]; omega
  have halloc : Allocated (c.edit st.policy).status st.assigned := h.allocated
  have halloc' := hspec.allocated halloc h0 hbound
  have hvsub := hspec.violations_sublist
  have hlen : w'.status.violations.length ≤ maxViolationRecords :=
    hvsub.length_le.trans (sortAndTrim_length_le _ _)
  have hids : w'.status.violations.map (·.id) ++ w'.status.acknowledgedViolations.map (·.violation.id) =
      (storedRecords w'.status).map (·.id) := by
    simp [storedRecords, Function.comp_def]
  refine ⟨⟨w', _⟩, ?_, ?_, halloc'⟩
  · simp only [Call.run, hrun]
  · refine ⟨?_, ?_, halloc'.log, halloc'.mem, halloc'.keys, ?_, ?_, hlen, ?_, ?_, ?_⟩
    · rw [hids]; exact halloc'.ids
    · intro i hi
      rw [hids] at hi
      obtain ⟨r, hr, rfl⟩ := List.mem_map.1 hi
      exact halloc'.id_lt hr
    · exact (sortAndTrim_pairwise _ _).sublist hvsub
    · rcases hspec.acknowledged with ⟨-, hk⟩ | hk
      · rw [hk]; exact h.status.acknowledged_newest
      · rw [hk]; exact sortAndTrim_pairwise _ _
    · rcases hspec.acknowledged with ⟨-, hk⟩ | hk
      · rw [hk]; exact h.status.acknowledged_length
      · rw [hk]; exact sortAndTrim_length_le _ _
    · rw [hspec.activeViolationCount]
      unfold maxViolationRecords at hlen
      exact wrap64_of_lt (by omega) (by omega)
    · rw [hspec.violationCount, mergeScrapedViolations_violationCount h0 hbound, hcount]
      push_cast
      rfl

/-! ## Whole runs -/

lemma RunInvariant.zero {w : WorkloadNetworkPolicy} (h : w.status = {}) : RunInvariant ⟨w, []⟩ 0 := by
  constructor <;> simp only [h]
  · constructor <;> simp [storedRecords]
  · constructor <;> simp [storedRecords]

theorem RunInvariant.run (lib : Apimachinery) (calls : List Call) :
    ∀ {st : RunState} {total : Nat}, RunInvariant st total →
      (∀ c ∈ calls, c.spec.backend = .kubernetes → c.spec.kubernetes.isSome) →
      total + scrapedTotal calls < 2 ^ 63 →
      ∃ st', runCalls lib st calls = some st' ∧ RunInvariant st' (total + scrapedTotal calls) := by
  induction calls with
  | nil =>
    intro st total h _ _
    exact ⟨st, rfl, h⟩
  | cons c calls ih =>
    intro st total h hcrd hlt
    simp only [scrapedTotal, List.map_cons, List.sum_cons] at hlt ⊢
    obtain ⟨st₁, hrun, h₁⟩ := h.step lib c (hcrd c (List.mem_cons_self ..)) (by omega)
    obtain ⟨st₂, hruns, h₂⟩ := ih h₁ (fun c' hc' => hcrd c' (List.mem_cons_of_mem _ hc')) (by
      simp only [scrapedTotal]; omega)
    refine ⟨st₂, ?_, ?_⟩
    · rw [runCalls, hrun]
      exact hruns
    · rw [← Nat.add_assoc]
      exact h₂

/-- **The status invariant.**  Start from the zero status and make any calls, with any edits of the
spec and the annotations between them; `spec.kubernetes` is there whenever the backend asks for it, and
fewer than `2 ^ 63` records are scraped in total.  Then after every call the invariant holds. -/
theorem runCalls_invariant (lib : Apimachinery) (w : WorkloadNetworkPolicy) (hw : w.status = {})
    (calls : List Call) (hcrd : ∀ c ∈ calls, c.spec.backend = .kubernetes → c.spec.kubernetes.isSome)
    (htotal : scrapedTotal calls < 2 ^ 63) (n : Nat) :
    ∃ st, runCalls lib ⟨w, []⟩ (calls.take n) = some st ∧
      StatusInvariant st.policy.status st.assigned (scrapedTotal (calls.take n)) := by
  have hle : scrapedTotal (calls.take n) + scrapedTotal (calls.drop n) = scrapedTotal calls := by
    rw [scrapedTotal, scrapedTotal, ← List.sum_append, ← List.map_append, List.take_append_drop, scrapedTotal]
  obtain ⟨st, hrun, h⟩ := RunInvariant.run lib (calls.take n) (RunInvariant.zero hw)
    (fun c hc => hcrd c (List.mem_of_mem_take hc)) (by omega)
  rw [Nat.zero_add] at h
  exact ⟨st, hrun, h.status⟩

/-- Two scraped records of a policy that is put into protect mode, and whose first violation is acknowledged. -/
theorem runCalls_invariant_two_calls :
    let target : WorkloadTargetingSpec := ⟨⟨workloadKindDeployment, "web"⟩, .ingress⟩
    let template : NetworkPolicySpec :=
      { podSelector := { matchLabels := AList.singleton "app" "web" }, policyTypes := [.ingress] }
    let first : Call := ⟨⟨⟨.kubernetes, some template, none⟩, target, .monitor⟩, ∅, 1, [{ timestamp := 5 }], 6⟩
    let second : Call := ⟨⟨⟨.kubernetes, some template, none⟩, target, .protect⟩,
      AList.singleton (violationAcknowledgePrefix ++ "0") "expected", 2, [{ dstPort := 80 }], 9⟩
    let w : WorkloadNetworkPolicy := { ns := "shop", name := "web", spec := first.spec }
    ∃ st, runCalls .documented ⟨w, []⟩ ([first, second].take 2) = some st ∧
      StatusInvariant st.policy.status st.assigned (scrapedTotal ([first, second].take 2)) := by
  intro target template first second w
  exact runCalls_invariant .documented w rfl [first, second] (by decide) (by decide) 2

end NetworkEnforcer.Status
