import NetworkEnforcer.Lib.StableSort
import NetworkEnforcer.Status.Merge

/-!
# What `RecomputeStatus` does, said once

`recomputeStatus_spec` is the one description of a call that every later argument uses: which records
leave the active list, which of them are acknowledged, what happens to the annotations and what is
left alone.  `recomputeStatus_isSome` is the only place where the nil dereference is looked at, and
`recomputeStatus_transplant` says what a call depends on.
-/

namespace NetworkEnforcer.Status

open NetworkEnforcer.Lib NetworkEnforcer.Api

/-! ## Sorting and trimming -/

section Trim

variable {α : Type} (f : α → Time) (l : List α)

lemma sortAndTrim_subperm : (sortAndTrim f l).Subperm l :=
  (List.take_sublist _ _).subperm.trans (List.perm_insertionSort _ l).subperm

lemma sortAndTrim_length_le : (sortAndTrim f l).length ≤ maxViolationRecords :=
  List.length_take_le _ _

lemma newestFirst_pairwise : (newestFirst f l).Pairwise fun a b => f b ≤ f a := sortDesc_pairwise f l

lemma sortAndTrim_pairwise : (sortAndTrim f l).Pairwise fun a b => f b ≤ f a :=
  (newestFirst_pairwise f l).sublist (List.take_sublist _ _)

end Trim

/-! ## Clearing -/

lemma clearAllowedViolations_eq {lib : Apimachinery} {w w' : WorkloadNetworkPolicy}
    (h : w.clearAllowedViolations lib = some w') :
    ∃ del, w' = { w with status := w.status.deleteViolations del } := by
  have hsame : w = { w with status := w.status.deleteViolations fun _ => false } := by
    simp [WorkloadNetworkPolicyStatus.deleteViolations]
  unfold WorkloadNetworkPolicy.clearAllowedViolations at h
  split at h
  · unfold WorkloadNetworkPolicy.clearAllowedKubernetesViolations at h
    split at h
    · exact ⟨_, (Option.some.inj h).symm⟩
    · split at h
      · exact ⟨_, (Option.some.inj h).symm.trans hsame⟩
      · cases h
  · have h := Option.some.inj h
    unfold WorkloadNetworkPolicy.clearAllowedIstioViolations at h
    split at h
    · exact ⟨_, h.symm⟩
    · exact ⟨_, h.symm.trans hsame⟩
  · exact ⟨_, (Option.some.inj h).symm.trans hsame⟩

lemma clearAllowedViolations_isSome (lib : Apimachinery) {w : WorkloadNetworkPolicy}
    (h : w.spec.backend = .kubernetes → w.spec.kubernetes.isSome) :
    (w.clearAllowedViolations lib).isSome := by
  unfold WorkloadNetworkPolicy.clearAllowedViolations
  split
  · rename_i hb
    obtain ⟨t, ht⟩ := Option.isSome_iff_exists.1 (h hb)
    simp [WorkloadNetworkPolicy.clearAllowedKubernetesViolations, ht]
  · rfl
  · rfl

/-! ## Acknowledging -/

/-- The violation with this identifier is acknowledged by an annotation. -/
def isAcknowledged (annotations : GoMap String String) (v : ViolationRecord) : Bool :=
  ((acknowledges annotations).lookup v.id).isSome

/-- The annotation keys that acknowledging these violations consumes. -/
def consumedKeys (annotations : GoMap String String) (violations : List ViolationRecord) :
    List String :=
  violations.filterMap fun v => ((acknowledges annotations).lookup v.id).map Prod.fst

/-- What `acknowledgeViolationsFromAnnotations` does to a policy. -/
structure Acknowledged (w w' : WorkloadNetworkPolicy) (acks : List AcknowledgedViolationRecord)
    (now : Time) : Prop where
  /-- The acknowledged violations leave the active list. -/
  violations : w'.status.violations = w.status.violations.filter fun v => !isAcknowledged w.annotations v
  /-- They are the ones that are returned, in order. -/
  returned : acks.map (·.violation) = w.status.violations.filter (isAcknowledged w.annotations)
  /-- All at the same time. -/
  time : ∀ a ∈ acks, a.acknowledgedAt = now
  /-- The acknowledged list is untouched, or sorted and trimmed with the new ones at its end. -/
  acknowledged : (acks = [] ∧ w'.status.acknowledgedViolations = w.status.acknowledgedViolations) ∨
    w'.status.acknowledgedViolations =
      sortAndTrim (·.acknowledgedAt) (w.status.acknowledgedViolations ++ acks)
  /-- The annotations that acknowledged them are gone, and only those. -/
  annotations : w'.annotations =
    (consumedKeys w.annotations w.status.violations).foldl (fun a k => a.erase k) w.annotations
  /-- The rest of the policy is as before. -/
  frame : w' = { w with annotations := w'.annotations, status := { w.status with
    violations := w'.status.violations, acknowledgedViolations := w'.status.acknowledgedViolations } }

lemma filterMap_map_isSome {α β γ : Type} (l : List α) (f : α → Option β) (g : α → β → γ) (h : γ → α)
    (hg : ∀ a b, h (g a b) = a) :
    (l.filterMap fun a => (f a).map (g a)).map h = l.filter fun a => (f a).isSome := by
  induction l with
  | nil => rfl
  | cons a l ih =>
    cases hf : f a with
    | none => simpa [List.filterMap_cons, hf] using ih
    | some b => simpa [List.filterMap_cons, hf, hg] using ih

theorem acknowledge_spec (w : WorkloadNetworkPolicy) (now : Time) :
    Acknowledged w (w.acknowledgeViolationsFromAnnotations now).1
      (w.acknowledgeViolationsFromAnnotations now).2 now := by
  by_cases hnil : (acknowledges w.annotations).entries = []
  · -- no annotation acknowledges anything
    simp only [WorkloadNetworkPolicy.acknowledgeViolationsFromAnnotations, if_pos hnil]
    have hnone : ∀ id, (acknowledges w.annotations).lookup id = none := by
      intro id
      rw [AList.lookup_eq_none, AList.mem_keys, AList.keys, hnil]
      simp
    refine ⟨?_, ?_, by simp, Or.inl ⟨rfl, rfl⟩, ?_, rfl⟩
    · simp [isAcknowledged, hnone]
    · simp [isAcknowledged, hnone]
    · simp [consumedKeys, hnone]
  · simp only [WorkloadNetworkPolicy.acknowledgeViolationsFromAnnotations, if_neg hnil]
    refine ⟨rfl, ?_, ?_, Or.inr rfl, ?_, rfl⟩
    · simp only [List.map_map]
      exact filterMap_map_isSome w.status.violations _ _
        (fun m : String × AcknowledgedViolationRecord => m.2.violation) fun _ _ => rfl
    · intro a ha
      obtain ⟨⟨k, a'⟩, hm, rfl⟩ := List.mem_map.1 ha
      obtain ⟨v, -, hv⟩ := List.mem_filterMap.1 hm
      obtain ⟨info, -, he⟩ := Option.map_eq_some_iff.1 hv
      exact (congrArg (fun m : String × AcknowledgedViolationRecord => m.2.acknowledgedAt) he).symm
    · simp only [consumedKeys]
      generalize w.status.violations = vs
      generalize w.annotations = annotations at *
      -- the loop erases the key of every moved record, in order
      have key : ∀ (vs : List ViolationRecord) (b : GoMap String String),
          (vs.filterMap fun v => ((acknowledges annotations).lookup v.id).map fun info =>
            (info.1, (⟨v, info.2, now⟩ : AcknowledgedViolationRecord))).foldl (fun a m => a.erase m.1) b =
          (vs.filterMap fun v => ((acknowledges annotations).lookup v.id).map Prod.fst).foldl
            (fun a k => a.erase k) b := by
        intro vs
        induction vs with
        | nil => intro b; rfl
        | cons v vs ih =>
          intro b
          cases hv : (acknowledges annotations).lookup v.id with
          | none => simpa [List.filterMap_cons, hv] using ih b
          | some info => simpa [List.filterMap_cons, hv] using ih (b.erase info.1)
      exact key vs annotations

/-! ## The call -/

/-- What a call of `RecomputeStatus` does to a policy. -/
structure Recomputed (w : WorkloadNetworkPolicy) (scraped : List ViolationRecord) (now : Time)
    (w' : WorkloadNetworkPolicy) (acks : List AcknowledgedViolationRecord) : Prop where
  /-- The merge decides the counter. -/
  violationCount : w'.status.violationCount = (mergeScrapedViolations w.status scraped).violationCount
  /-- Between merge and acknowledgement only active violations are dropped. -/
  stages : ∃ cleared : List ViolationRecord,
    cleared.Sublist (mergeScrapedViolations w.status scraped).violations ∧
    w'.status.violations = cleared.filter (fun v => !isAcknowledged w.annotations v) ∧
    acks.map (·.violation) = cleared.filter (isAcknowledged w.annotations) ∧
    w'.annotations = (consumedKeys w.annotations cleared).foldl (fun a k => a.erase k) w.annotations
  time : ∀ a ∈ acks, a.acknowledgedAt = now
  acknowledged : (acks = [] ∧ w'.status.acknowledgedViolations = w.status.acknowledgedViolations) ∨
    w'.status.acknowledgedViolations =
      sortAndTrim (·.acknowledgedAt) (w.status.acknowledgedViolations ++ acks)
  activeViolationCount : w'.status.activeViolationCount = wrap64 w'.status.violations.length
  observedGeneration : w'.status.observedGeneration = w.generation
  conditions : w'.status.conditions = w.status.conditions
  /-- Nothing outside the status and the annotations changes. -/
  frame : w' = { w with annotations := w'.annotations, status := w'.status }

theorem recomputeStatus_spec {lib : Apimachinery} {w w' : WorkloadNetworkPolicy}
    {scraped : List ViolationRecord} {now : Time} {acks : List AcknowledgedViolationRecord}
    (h : w.recomputeStatus lib scraped now = some (w', acks)) : Recomputed w scraped now w' acks := by
  unfold WorkloadNetworkPolicy.recomputeStatus at h
  simp only at h
  split at h
  · cases h
  · rename_i cleared hcl
    obtain ⟨del, rfl⟩ := clearAllowedViolations_eq hcl
    simp only [Option.some.injEq, Prod.mk.injEq] at h
    obtain ⟨rfl, rfl⟩ := h
    have ha := acknowledge_spec { w with status :=
      (mergeScrapedViolations w.status scraped).deleteViolations del } now
    -- from here on the acknowledged policy is known through its description only
    revert ha
    generalize WorkloadNetworkPolicy.acknowledgeViolationsFromAnnotations _ now = r
    intro ha
    have hs : r.1.status = { (mergeScrapedViolations w.status scraped).deleteViolations del with
        violations := r.1.status.violations
        acknowledgedViolations := r.1.status.acknowledgedViolations } :=
      congrArg WorkloadNetworkPolicy.status ha.frame
    have hg : r.1.generation = w.generation := congrArg (fun x => x.generation) ha.frame
    have hcount : r.1.status.violationCount =
        (mergeScrapedViolations w.status scraped).violationCount := by
      rw [hs]; rfl
    have hcond : r.1.status.conditions = (mergeScrapedViolations w.status scraped).conditions := by
      rw [hs]; rfl
    refine ⟨hcount, ⟨_, List.filter_sublist, ha.violations, ha.returned, ha.annotations⟩, ha.time, ?_, ?_,
      hg, hcond.trans (mergeScrapedViolations_conditions w.status scraped), ?_⟩
    · have := ha.acknowledged
      simpa [WorkloadNetworkPolicyStatus.deleteViolations] using this
    · simp only
    · generalize ({ r.1.status with
        activeViolationCount := wrap64 r.1.status.violations.length
        observedGeneration := r.1.generation } : WorkloadNetworkPolicyStatus) = status
      exact congrArg (fun x : WorkloadNetworkPolicy => { x with status := status }) ha.frame

theorem recomputeStatus_isSome (lib : Apimachinery) {w : WorkloadNetworkPolicy}
    (h : w.spec.backend = .kubernetes → w.spec.kubernetes.isSome) (scraped : List ViolationRecord)
    (now : Time) : ∃ w' acks, w.recomputeStatus lib scraped now = some (w', acks) := by
  have hc := clearAllowedViolations_isSome lib (w := { w with status := mergeScrapedViolations w.status scraped })
    h
  obtain ⟨c, hc⟩ := Option.isSome_iff_exists.1 hc
  unfold WorkloadNetworkPolicy.recomputeStatus
  simp only [hc]
  exact ⟨_, _, rfl⟩

/-! ## What a call reads -/

/-- What `RecomputeStatus` reads and writes is taken from `w`, all the rest from `m`. -/
def transplant (m w : WorkloadNetworkPolicy) : WorkloadNetworkPolicy :=
  { m with
    spec := w.spec
    annotations := w.annotations
    generation := w.generation
    status := { w.status with conditions := m.status.conditions } }

lemma foldl_mergeStep_withConditions (conditions : List Condition) (scraped : List ViolationRecord) :
    ∀ st : WorkloadNetworkPolicyStatus × Index,
      scraped.foldl mergeStep ({ st.1 with conditions := conditions }, st.2) =
        ({ (scraped.foldl mergeStep st).1 with conditions := conditions },
          (scraped.foldl mergeStep st).2) := by
  induction scraped with
  | nil => intro st; rfl
  | cons v scraped ih =>
    intro st
    have hstep : mergeStep ({ st.1 with conditions := conditions }, st.2) v =
        ({ (mergeStep st v).1 with conditions := conditions }, (mergeStep st v).2) := by
      unfold mergeStep
      cases st.2.lookup v.key <;> rfl
    rw [List.foldl_cons, List.foldl_cons, hstep, ih]

lemma transplant_mergeScrapedViolations (m w : WorkloadNetworkPolicy) (scraped : List ViolationRecord) :
    { transplant m w with status := mergeScrapedViolations (transplant m w).status scraped } =
      transplant m { w with status := mergeScrapedViolations w.status scraped } := by
  have h := foldl_mergeStep_withConditions m.status.conditions scraped
    (w.status, indexByKey w.status.violations)
  simp only [transplant, mergeScrapedViolations, mergeLoop, h]

lemma transplant_clearAllowedViolations (lib : Apimachinery) (m w : WorkloadNetworkPolicy) :
    (transplant m w).clearAllowedViolations lib = (w.clearAllowedViolations lib).map (transplant m) := by
  unfold WorkloadNetworkPolicy.clearAllowedViolations
  simp only [transplant]
  split
  · unfold WorkloadNetworkPolicy.clearAllowedKubernetesViolations
    dsimp only
    split
    · rfl
    · split <;> rfl
  · unfold WorkloadNetworkPolicy.clearAllowedIstioViolations
    dsimp only
    split <;> rfl
  · rfl

lemma transplant_acknowledge (m w : WorkloadNetworkPolicy) (now : Time) :
    (transplant m w).acknowledgeViolationsFromAnnotations now =
      (transplant m (w.acknowledgeViolationsFromAnnotations now).1,
        (w.acknowledgeViolationsFromAnnotations now).2) := by
  unfold WorkloadNetworkPolicy.acknowledgeViolationsFromAnnotations
  by_cases h : (acknowledges w.annotations).entries = []
  · have h' : (acknowledges (transplant m w).annotations).entries = [] := h
    simp only [if_pos h, if_pos h']
  · have h' : ¬(acknowledges (transplant m w).annotations).entries = [] := h
    simp only [if_neg h, if_neg h']
    rfl

/-- **A call reads the spec, the annotations, the generation and the status without its conditions**, and
the rest of the policy stays with it. -/
theorem recomputeStatus_transplant (lib : Apimachinery) (m w : WorkloadNetworkPolicy)
    (scraped : List ViolationRecord) (now : Time) :
    (transplant m w).recomputeStatus lib scraped now =
      (w.recomputeStatus lib scraped now).map fun r => (transplant m r.1, r.2) := by
  unfold WorkloadNetworkPolicy.recomputeStatus
  simp only [transplant_mergeScrapedViolations, transplant_clearAllowedViolations]
  cases WorkloadNetworkPolicy.clearAllowedViolations lib _ with
  | none => rfl
  | some cleared =>
    simp only [Option.map_some, transplant_acknowledge]
    generalize WorkloadNetworkPolicy.acknowledgeViolationsFromAnnotations cleared now = r
    simp only [transplant]

end NetworkEnforcer.Status
