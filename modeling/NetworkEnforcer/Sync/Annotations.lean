import NetworkEnforcer.Status.Acknowledge
import NetworkEnforcer.Sync.Guarantees

/-!
# The patch of the annotations

The last request of `processWorkloadNetworkPolicy` removes the acknowledge annotations that the cycle has
consumed.  `patch_annotations_iff` says exactly when it removes nothing else: the patch is computed from
the snapshot, and a snapshot whose annotations were all consumed makes it remove the whole map.
-/

namespace NetworkEnforcer.Sync

open NetworkEnforcer.Lib NetworkEnforcer.Api NetworkEnforcer.Status NetworkEnforcer.Attribution

/-- The keys of the annotations that acknowledged these records. -/
def consumed (wnp : WorkloadNetworkPolicy) (acks : List AcknowledgedViolationRecord) : List String :=
  consumedKeys wnp.annotations (acks.map (·.violation))

lemma consumed_isSome {wnp : WorkloadNetworkPolicy} {acks : List AcknowledgedViolationRecord} {k : String}
    (h : k ∈ consumed wnp acks) : (wnp.annotations.lookup k).isSome := by
  obtain ⟨v, -, hv⟩ := List.mem_filterMap.1 h
  obtain ⟨info, hinfo, rfl⟩ := Option.map_eq_some_iff.1 hv
  rw [(lookup_acknowledges hinfo).2]
  rfl

/-- Records that are not acknowledged consume nothing. -/
lemma consumedKeys_filter (annotations : GoMap String String) (violations : List ViolationRecord) :
    consumedKeys annotations (violations.filter (isAcknowledged annotations)) =
      consumedKeys annotations violations := by
  induction violations with
  | nil => rfl
  | cons v violations ih =>
    unfold consumedKeys at ih ⊢
    cases hv : (acknowledges annotations).lookup v.id with
    | none => simpa [List.filter_cons, isAcknowledged, hv] using ih
    | some info => simpa [List.filter_cons, isAcknowledged, hv] using ih

/-- What the cycle wants to store. -/
lemma lookup_annotations_recomputed {lib : Apimachinery} {wnp new : WorkloadNetworkPolicy}
    {violations : List ViolationRecord} {now : Time} {acks : List AcknowledgedViolationRecord}
    (hrec : wnp.recomputeStatus lib violations now = some (new, acks)) (k : String) :
    new.annotations.lookup k = if k ∈ consumed wnp acks then none else wnp.annotations.lookup k := by
  obtain ⟨cleared, -, -, hacks, hannotations⟩ := (recomputeStatus_spec hrec).stages
  rw [hannotations, GoMap.lookup_foldl_erase, consumed, hacks, consumedKeys_filter]

/-- What the patch stores. -/
lemma lookup_annotations_patched {lib : Apimachinery} {wnp new : WorkloadNetworkPolicy}
    {violations : List ViolationRecord} {now : Time} {acks : List AcknowledgedViolationRecord}
    (hrec : wnp.recomputeStatus lib violations now = some (new, acks)) (old : WorkloadNetworkPolicy)
    (h : ¬Emptied wnp new) (k : String) :
    (patchObject (mergeFrom wnp new) old).annotations.lookup k =
      if k ∈ consumed wnp acks then none else old.annotations.lookup k := by
  rw [lookup_patchObject, if_neg h, lookup_annotations_recomputed hrec]
  by_cases hk : k ∈ consumed wnp acks
  · have hne : wnp.annotations.lookup k ≠ none := Option.isSome_iff_ne_none.1 (consumed_isSome hk)
    rw [if_pos hk, if_pos hk, merge3, if_neg hne]
  · rw [if_neg hk, if_neg hk, merge3_unchanged]

lemma lookup_eq_none_of_entries {m : GoMap String String} (h : m.entries = []) (k : String) :
    m.lookup k = none := by
  rw [AList.lookup, h]
  rfl

/-- The patch does not empty the map if the snapshot had no annotations, or one that stays. -/
lemma not_emptied_iff {lib : Apimachinery} {wnp new : WorkloadNetworkPolicy}
    {violations : List ViolationRecord} {now : Time} {acks : List AcknowledgedViolationRecord}
    (hrec : wnp.recomputeStatus lib violations now = some (new, acks)) :
    ¬Emptied wnp new ↔
      wnp.annotations = ∅ ∨ ∃ k, (wnp.annotations.lookup k).isSome ∧ k ∉ consumed wnp acks := by
  have hnew := lookup_annotations_recomputed hrec
  constructor
  · intro h
    by_cases hwnp : wnp.annotations.entries = []
    · exact Or.inl (AList.ext hwnp)
    · -- the first annotation that is left was in the snapshot and was not consumed
      have hleft : new.annotations.entries ≠ [] := fun hn => h ⟨hwnp, hn⟩
      obtain ⟨⟨k, v⟩, hmem⟩ := List.exists_mem_of_ne_nil _ hleft
      have hk := hnew k
      rw [AList.mem_lookup_iff.2 hmem] at hk
      by_cases hc : k ∈ consumed wnp acks
      · rw [if_pos hc] at hk
        cases hk
      · rw [if_neg hc] at hk
        exact Or.inr ⟨k, by rw [← hk]; rfl, hc⟩
  · rintro (hwnp | ⟨k, hk, hc⟩) ⟨hne, hempty⟩
    · exact hne (by rw [hwnp]; rfl)
    · have := hnew k
      rw [lookup_eq_none_of_entries hempty, if_neg hc] at this
      rw [← this] at hk
      cases hk

/-- **When the patch of the annotations loses no update.**  Whatever others have made of the policy by
then, the stored annotations afterwards are those from before without the consumed ones exactly if the
snapshot had no annotations, or an annotation that was not consumed, or there is nothing to lose. -/
theorem patch_annotations_iff (lib : Apimachinery) (wnp new old patched : WorkloadNetworkPolicy)
    (violations : List ViolationRecord) (now : Time) (acks : List AcknowledgedViolationRecord)
    (w w' : World) (hrec : wnp.recomputeStatus lib violations now = some (new, acks))
    (hpatch : Answers (.patch new wnp) w none w') (hold : w.stored.lookup wnp.key = some old)
    (hpatched : w'.stored.lookup wnp.key = some patched) :
    (∀ k, patched.annotations.lookup k = if k ∈ consumed wnp acks then none else old.annotations.lookup k) ↔
      (wnp.annotations = ∅ ∨ (∃ k, (wnp.annotations.lookup k).isSome ∧ k ∉ consumed wnp acks) ∨
        ∀ k, (old.annotations.lookup k).isSome → k ∈ consumed wnp acks) := by
  obtain ⟨stored', ⟨old', hold', -, rfl⟩, rfl⟩ := hpatch
  obtain rfl : old = old' := Option.some.inj (hold.symm.trans hold')
  have hkey : (patchObject (mergeFrom wnp new) old).key = wnp.key :=
    (patchObject_key _ _).trans (Store.key_of_lookup hold)
  obtain rfl : patchObject (mergeFrom wnp new) old = patched := by
    rw [← hkey] at hpatched
    exact Option.some.inj ((Store.lookup_put _ _).symm.trans hpatched)
  rw [← or_assoc, ← not_emptied_iff hrec]
  by_cases hemptied : Emptied wnp new
  · -- the whole map is removed
    have hnone : ∀ k, (patchObject (mergeFrom wnp new) old).annotations.lookup k = none := fun k => by
      rw [lookup_patchObject, if_pos hemptied]
    simp only [hnone, hemptied, not_true_eq_false, false_or]
    refine forall_congr' fun k => ?_
    by_cases hk : k ∈ consumed wnp acks
    · simp [hk]
    · rw [if_neg hk, eq_comm, ← Option.not_isSome_iff_eq_none]
      simp [hk]
  · exact iff_of_true (lookup_annotations_patched hrec old hemptied) (Or.inl hemptied)

/-- The policy of the snapshot, to which somebody has added an annotation since. -/
def annotatedPolicy : WorkloadNetworkPolicy :=
  { acknowledgingPolicy with annotations := acknowledgingPolicy.annotations.insert "team" "payments" }

theorem patch_annotations_iff_emptied : ∃ new acks patched,
    acknowledgingPolicy.recomputeStatus .documented
        [violationRecord acknowledgingPolicy.key webObservation] 0 = some (new, acks) ∧
      ((∀ k, (patched : WorkloadNetworkPolicy).annotations.lookup k =
          if k ∈ consumed acknowledgingPolicy acks then none else annotatedPolicy.annotations.lookup k) ↔
        (acknowledgingPolicy.annotations = ∅ ∨
          (∃ k, (acknowledgingPolicy.annotations.lookup k).isSome ∧ k ∉ consumed acknowledgingPolicy acks) ∨
          ∀ k, (annotatedPolicy.annotations.lookup k).isSome → k ∈ consumed acknowledgingPolicy acks)) := by
  obtain ⟨new, acks, hrec⟩ := recomputeStatus_isSome .documented (w := acknowledgingPolicy) (by decide)
    [violationRecord acknowledgingPolicy.key webObservation] 0
  have hversion : new.resourceVersion = acknowledgingPolicy.resourceVersion := by
    rw [(recomputeStatus_spec hrec).frame]
  have hput := Store.lookup_put (worldWith annotatedPolicy).stored
    (patchObject (mergeFrom acknowledgingPolicy new) annotatedPolicy)
  rw [patchObject_key] at hput
  exact ⟨new, acks, _, hrec, patch_annotations_iff .documented acknowledgingPolicy new annotatedPolicy
    (patchObject (mergeFrom acknowledgingPolicy new) annotatedPolicy) _ 0 acks (worldWith annotatedPolicy) _
    hrec ⟨_, patchAnswers_ok annotatedPolicy rfl hversion, rfl⟩ rfl hput⟩

/-- What somebody makes of the policy after the status patch. -/
def editedPolicy : WorkloadNetworkPolicy :=
  { committedPolicy with annotations := committedPolicy.annotations.insert "team" "payments" }

/-- Between the status patch and the patch of the annotations, somebody adds one. -/
lemma run_edited : ∃ (w : World) (rest : Option Err → SyncM (Option Err)),
    (system 1).Runs (sync .documented) (worldWith acknowledgingPolicy, .ret none)
        (w, .call (.patch recomputedPolicy acknowledgingPolicy) rest) ∧
      w.stored.lookup acknowledgingPolicy.key = some editedPolicy := by
  obtain ⟨w, rest, hrun, hstored, -⟩ := run_emitted
  refine ⟨_, rest, hrun.tail (.env (@Interference.edit 1 w committedPolicy editedPolicy hstored rfl ⟨by decide, rfl⟩)), ?_⟩
  exact Store.lookup_put w.stored editedPolicy

/-- In a run, the patch removes an annotation that somebody has added since the snapshot. -/
theorem sync_patch_drops_concurrent_annotation : ∃ (w w' : World) (new : WorkloadNetworkPolicy)
    (rest : Option Err → SyncM (Option Err)),
    (system 1).Runs (sync .documented) (worldWith acknowledgingPolicy, .ret none)
        (w, .call (.patch new acknowledgingPolicy) rest) ∧
      (system 1).Step (sync .documented) (w, .call (.patch new acknowledgingPolicy) rest) (w', rest none) ∧
      (w.stored.lookup acknowledgingPolicy.key).map (·.annotations.lookup "team") = some (some "payments") ∧
      (w'.stored.lookup acknowledgingPolicy.key).map (·.annotations.lookup "team") = some none := by
  obtain ⟨w, rest, hrun, hedited⟩ := run_edited
  refine ⟨w, _, recomputedPolicy, rest, hrun, .call ⟨_, patchAnswers_ok editedPolicy hedited rfl, rfl⟩, ?_, ?_⟩
  · rw [hedited]
    rfl
  · have hput := Store.lookup_put w.stored
      (patchObject (mergeFrom acknowledgingPolicy recomputedPolicy) editedPolicy)
    exact congrArg (Option.map fun p : WorkloadNetworkPolicy => p.annotations.lookup "team") hput

end NetworkEnforcer.Sync
