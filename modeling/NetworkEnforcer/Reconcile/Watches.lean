import Mathlib.Data.List.Dedup
import NetworkEnforcer.Lib.Event
import NetworkEnforcer.Reconcile.Duplicates

/-!
# What the controller watches (`SetupWithManager`)

Two predicates filter the updates of watched objects: `selectorScopeWorkloadChanges` for policies and
workloads, `selectorScopeMetadataChanges` for replica sets and pods.  What passes is mapped to policies to
reconcile, by `policiesForWorkload` to all of a namespace, and by `duplicateTargetHandler` to those that
share a target with the changed policy.

The second map is complete: a policy whose conflict changes is among the requests, and an update that the
predicate rejects changes no conflict (`duplicate_siblings_reconciled`).
-/

namespace NetworkEnforcer.Reconcile

open NetworkEnforcer.Lib NetworkEnforcer.Api NetworkEnforcer.Workload
open NetworkEnforcer.Attribution (wnpTargetKey wnpTargetKey_eq_some_iff)

/-! ## Predicates -/

def selectorScopeWorkloadChanges (old new : ObjectMeta) : Bool :=
  old.uid ≠ new.uid || old.generation ≠ new.generation

lemma selectorScopeWorkloadChanges_eq_false {old new : ObjectMeta}
    (h : selectorScopeWorkloadChanges old new = false) :
    old.uid = new.uid ∧ old.generation = new.generation := by
  simpa [selectorScopeWorkloadChanges] using h

/-- Lists of owner references are compared as values, as `reflect.DeepEqual` does but for telling a nil
slice from an empty one. -/
def selectorScopeMetadataChanges (old new : ObjectMeta) : Bool :=
  old.uid ≠ new.uid || !old.labels.equal new.labels || old.ownerReferences ≠ new.ownerReferences

lemma selectorScopeMetadataChanges_eq_false {old new : ObjectMeta}
    (h : selectorScopeMetadataChanges old new = false) :
    old.uid = new.uid ∧ (∀ k, old.labels.lookup k = new.labels.lookup k) ∧
      old.ownerReferences = new.ownerReferences := by
  simp only [selectorScopeMetadataChanges, Bool.or_eq_false_iff, decide_eq_false_iff_not, not_not,
    Bool.not_eq_false'] at h
  exact ⟨h.1.1, GoMap.lookup_of_equal h.1.2, h.2⟩

/-! ## Handlers -/

/-- `List` of the policies in a namespace. -/
abbrev ListWNPs : Type := String → Except Err (List WorkloadNetworkPolicy)

/-- `policiesForWorkload`: a list that fails is logged. -/
def policiesForWorkload (list : ListWNPs) (obj : ObjectMeta) : List NamespacedName :=
  match list obj.ns with
  | .error _ => []
  | .ok policies => policies.map (·.key)

/-- `EnqueueRequestsFromMapFunc`: every object of the event is mapped, and no request is added twice. -/
def enqueueRequestsFromMapFunc {O : Type} (f : O → List NamespacedName) (e : Event O) :
    List NamespacedName :=
  (e.objects.flatMap f).dedup

lemma mem_enqueueRequestsFromMapFunc {O : Type} {f : O → List NamespacedName} {e : Event O}
    {k : NamespacedName} (h : k ∈ f e.object) : k ∈ enqueueRequestsFromMapFunc f e := by
  unfold enqueueRequestsFromMapFunc
  rw [List.mem_dedup, List.mem_flatMap]
  exact ⟨e.object, e.object_mem, h⟩

def duplicateTargetPolicies {cl : Cluster} (r : Reader cl) (wnp : WorkloadNetworkPolicy) :
    List NamespacedName :=
  match wnpTargetKey wnp with
  | none => []
  | some target =>
    match r.listWNPsByTarget wnp.ns target.target with
    | .error _ => []
    | .ok items => (items.filter (·.name ≠ wnp.name)).map (·.key)

/-- `duplicateTargetHandler`: the siblings under the old target and under the new one. -/
def duplicateTargetHandler {cl : Cluster} (r : Reader cl) (e : Event WorkloadNetworkPolicy) :
    List NamespacedName :=
  e.objects.flatMap (duplicateTargetPolicies r)

/-- The watch on policies. -/
def duplicateTargetAccepts (e : Event WorkloadNetworkPolicy) : Bool :=
  (e.map (·.toObjectMeta)).accepts selectorScopeWorkloadChanges

/-! ## Siblings -/

/-- The ages of the policies under one key are distinct. -/
lemma ages_indexed_nodup (cl : Cluster) (ns key : String) : ((indexed cl ns key).map age).Nodup := by
  refine List.Nodup.map_on ?_ (cl.wnps.values_nodup.filter _)
  intro v hv w hw hage
  obtain ⟨hv, hvk⟩ := mem_indexed.1 hv
  obtain ⟨hw, hwk⟩ := mem_indexed.1 hw
  have hns : v.ns = w.ns := by
    rw [(wnpTargetKey_eq_some_iff.1 hvk).1, (wnpTargetKey_eq_some_iff.1 hwk).1]
  exact Store.eq_of_key_eq hv hw (congrArg₂ NamespacedName.mk hns (name_eq_of_age_eq hage))

/-- Two clusters with the same ages under the key of a policy give it the same conflict. -/
lemma conflictIn_congr {cl cl' : Cluster} {y : WorkloadNetworkPolicy}
    (h : ∀ target, wnpTargetKey y = some target →
      ∀ a, a ∈ (indexed cl y.ns target.target).map age ↔ a ∈ (indexed cl' y.ns target.target).map age) :
    conflictIn cl y = conflictIn cl' y := by
  unfold conflictIn
  cases htarget : wnpTargetKey y with
  | none => rfl
  | some target =>
    rw [Option.bind_some, Option.bind_some]
    apply conflictOf_congr
    exact (List.perm_ext_iff_of_nodup (ages_indexed_nodup ..) (ages_indexed_nodup ..)).2 (h target htarget)

section Siblings

variable {cl cl' : Cluster} {e : Event WorkloadNetworkPolicy}

/-- An event of other targets changes nothing under a key. -/
lemma mem_indexed_of_not (he : e.Between cl.wnps cl'.wnps) {ns key : String}
    (hno : ∀ x ∈ e.objects, wnpTargetKey x ≠ some ⟨ns, key⟩) (v : WorkloadNetworkPolicy) :
    v ∈ indexed cl ns key ↔ v ∈ indexed cl' ns key := by
  rw [mem_indexed, mem_indexed, and_congr_left_iff]
  intro hv
  exact (he.mem_values_iff_of_not hno hv).symm

lemma mem_duplicateTargetPolicies {r : Reader cl} {x y : WorkloadNetworkPolicy} {ns key : String}
    {items : List WorkloadNetworkPolicy} (hx : wnpTargetKey x = some ⟨ns, key⟩)
    (hlist : r.listWNPsByTarget ns key = .ok items) (hy : y ∈ indexed cl ns key) (hname : y.name ≠ x.name) :
    y.key ∈ duplicateTargetPolicies r x := by
  obtain ⟨hns, -⟩ := wnpTargetKey_eq_some_iff.1 hx
  unfold duplicateTargetPolicies
  rw [hx]
  simp only [hns, hlist]
  refine List.mem_map_of_mem (List.mem_filter.2 ⟨?_, by simpa using hname⟩)
  exact ((r.listWNPsByTarget_lists _ _ _ hlist).mem_iff).2 hy

/-- **Who is affected is enqueued.** -/
lemma enqueued_of_conflictIn_ne (he : e.Between cl.wnps cl'.wnps) {y : WorkloadNetworkPolicy}
    (hy : y ∈ cl.wnps.values) (hother : y.key ≠ e.object.key) (hne : conflictIn cl y ≠ conflictIn cl' y)
    {r : Reader cl'} (hlist : ∀ ns key, ∃ items, r.listWNPsByTarget ns key = .ok items) :
    y.key ∈ duplicateTargetHandler r e := by
  by_contra hnot
  refine hne (conflictIn_congr fun target htarget a => ?_)
  obtain ⟨ns, key⟩ := target
  obtain ⟨hns, -⟩ := wnpTargetKey_eq_some_iff.1 htarget
  have hmem : y ∈ indexed cl' ns key := mem_indexed.2 ⟨(he.mem_values_iff hother).2 hy, htarget⟩
  have hsame : ∀ v, v ∈ indexed cl y.ns key ↔ v ∈ indexed cl' y.ns key := by
    apply mem_indexed_of_not he
    -- an object of the event under the key would have listed the policy
    intro x hx hxkey
    obtain ⟨items, hitems⟩ := hlist ns key
    rw [hns] at hxkey
    refine hnot (List.mem_flatMap.2 ⟨x, hx, mem_duplicateTargetPolicies hxkey hitems hmem fun hname => ?_⟩)
    refine hother ((congrArg₂ NamespacedName.mk ?_ hname).trans (he.key_eq hx))
    rw [hns, (wnpTargetKey_eq_some_iff.1 hxkey).1]
  simp only [List.mem_map, hsame]

/-- What the API server promises of an update, as long as the object is the same: the time of creation
stays, and the generation moves with the specification. -/
def ServedPolicyUpdate (old new : WorkloadNetworkPolicy) : Prop :=
  old.uid = new.uid → old.creationTimestamp = new.creationTimestamp ∧
    (old.generation = new.generation → old.spec = new.spec)

/-- **A rejected update changes no conflict.** -/
lemma conflictIn_of_rejected {old new : WorkloadNetworkPolicy}
    (he : (Event.update old new).Between cl.wnps cl'.wnps)
    (hrej : duplicateTargetAccepts (.update old new) = false) (hserved : ServedPolicyUpdate old new)
    (y : WorkloadNetworkPolicy) : conflictIn cl y = conflictIn cl' y := by
  obtain ⟨huid, hgen⟩ := selectorScopeWorkloadChanges_eq_false hrej
  obtain ⟨htime, hspec⟩ := hserved huid
  have hkey : old.key = new.key := he.key_eq (by simp [Event.objects, Event.before])
  -- the object has one target and one age
  have htarget : wnpTargetKey old = wnpTargetKey new := by
    unfold wnpTargetKey
    rw [hspec hgen, show old.ns = new.ns from congrArg NamespacedName.ns hkey]
  have hage : age old = age new :=
    congrArg toLex (Prod.ext htime (congrArg NamespacedName.name hkey))
  have hold : old ∈ cl.wnps.values := Store.mem_of_lookup he.before
  have hnew : new ∈ cl'.wnps.values := Store.mem_of_lookup he.after
  refine conflictIn_congr fun target _ a => ?_
  simp only [List.mem_map, mem_indexed]
  constructor
  · rintro ⟨v, ⟨hv, hvk⟩, rfl⟩
    by_cases hk : v.key = new.key
    · obtain rfl : v = old := Store.eq_of_key_eq hv hold (hk.trans hkey.symm)
      exact ⟨new, ⟨hnew, htarget ▸ hvk⟩, hage.symm⟩
    · exact ⟨v, ⟨(he.mem_values_iff hk).2 hv, hvk⟩, rfl⟩
  · rintro ⟨v, ⟨hv, hvk⟩, rfl⟩
    by_cases hk : v.key = new.key
    · obtain rfl : v = new := Store.eq_of_key_eq hv hnew hk
      exact ⟨old, ⟨hold, htarget.symm ▸ hvk⟩, hage⟩
    · exact ⟨v, ⟨(he.mem_values_iff hk).1 hv, hvk⟩, rfl⟩

/-- **Every sibling affected by a duplicate change is reconciled again.**  Between the two states one
policy is created, updated or deleted; the handler runs on the state after, and its lists succeed. -/
theorem duplicate_siblings_reconciled (he : e.Between cl.wnps cl'.wnps)
    (hserved : ∀ old new, e = .update old new → ServedPolicyUpdate old new)
    {y : WorkloadNetworkPolicy} (hy : y ∈ cl.wnps.values) (hother : y.key ≠ e.object.key)
    {r : Reader cl} {r' : Reader cl'} {c c' : Option DuplicateTargetConflict}
    (hc : checkDuplicateTarget r y = .ok c) (hc' : checkDuplicateTarget r' y = .ok c') :
    (duplicateTargetAccepts e = true → c ≠ c' →
      ∀ handler : Reader cl', (∀ ns key, ∃ items, handler.listWNPsByTarget ns key = .ok items) →
        y.key ∈ duplicateTargetHandler handler e) ∧
    (duplicateTargetAccepts e = false → c = c') := by
  rw [checkDuplicateTarget_eq hc, checkDuplicateTarget_eq hc']
  constructor
  · intro _ hne handler hlist
    exact enqueued_of_conflictIn_ne he hy hother hne hlist
  · intro hrej
    obtain ⟨old, new, rfl, -⟩ := Event.exists_of_accepts_map_eq_false hrej
    exact conflictIn_of_rejected he hrej (hserved old new rfl) y

/-- The older of the two policies is deleted. -/
def olderDeleted : Cluster := { twoPolicies with wnps := twoPolicies.wnps.remove ⟨"shop", "a"⟩ }

theorem duplicate_siblings_reconciled_sample :
    ∃ c c', checkDuplicateTarget (Reader.direct twoPolicies) (ingressPolicy "b" 2) = .ok c ∧
      checkDuplicateTarget (Reader.direct olderDeleted) (ingressPolicy "b" 2) = .ok c' ∧ c ≠ c' ∧
      (ingressPolicy "b" 2).key ∈
        duplicateTargetHandler (Reader.direct olderDeleted) (.delete (ingressPolicy "a" 1)) := by
  have he : (Event.delete (ingressPolicy "a" 1)).Between twoPolicies.wnps olderDeleted.wnps :=
    { key_eq := fun hx => by rw [List.mem_singleton.1 hx]; rfl
      before := rfl
      after := Store.lookup_remove _ _
      frame := fun hk => Store.lookup_remove_ne hk }
  have hy : ingressPolicy "b" 2 ∈ twoPolicies.wnps.values := List.mem_cons_self ..
  have hne : conflictIn twoPolicies (ingressPolicy "b" 2) ≠ conflictIn olderDeleted (ingressPolicy "b" 2) := by
    have hbefore : (conflictIn twoPolicies (ingressPolicy "b" 2)).isSome = true := rfl
    have hafter : (conflictIn olderDeleted (ingressPolicy "b" 2)).isSome = false := rfl
    intro h
    rw [h, hafter] at hbefore
    cases hbefore
  have hc := (Reader.direct_answers twoPolicies).checkDuplicateTarget_eq (ingressPolicy "b" 2)
  have hc' := (Reader.direct_answers olderDeleted).checkDuplicateTarget_eq (ingressPolicy "b" 2)
  have hserved : ∀ old new, Event.delete (ingressPolicy "a" 1) = .update old new →
      ServedPolicyUpdate old new := fun _ _ h => nomatch h
  have hother : (ingressPolicy "b" 2).key ≠ (Event.delete (ingressPolicy "a" 1)).object.key := by decide
  have hmem := (duplicate_siblings_reconciled he hserved hy hother hc hc').1 rfl hne
    (Reader.direct olderDeleted) fun _ _ => ⟨_, rfl⟩
  exact ⟨_, _, hc, hc', hne, hmem⟩

end Siblings

end NetworkEnforcer.Reconcile
