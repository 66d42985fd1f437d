import NetworkEnforcer.Reconcile.Controller

/-!
# A client that answers at once

`Env.direct` satisfies every law of `Client` in the plainest way: reads succeed, writes are applied to
the store.  Concrete runs of the reconciler use it.
-/

namespace NetworkEnforcer.Reconcile

open NetworkEnforcer.Lib NetworkEnforcer.Api NetworkEnforcer.Workload
open NetworkEnforcer.Attribution (groupVersion workloadNetworkPolicyKind)

section Store

variable {V C : Type} {key : V → NamespacedName} {content : V → C}

def getFrom (s : Store key) (k : NamespacedName) : Except Err V :=
  match s.lookup k with
  | some v => .ok v
  | none => .error (.notFound (k.text ++ " not found"))

lemma gets_getFrom (s : Store key) : Gets s (getFrom s) where
  ok {k v} h := by
    unfold getFrom at h
    split at h
    · rename_i hl
      rw [hl, Except.ok.inj h]
    · cases h
  notFound {k e} h _ := by
    unfold getFrom at h
    split at h
    · cases h
    · assumption

lemma lists_filter (s : Store key) (p : V → Bool) : Lists s p (.ok (s.values.filter p)) :=
  fun _ h => List.Perm.of_eq (Except.ok.inj h).symm

/-- Writes go straight to the store. -/
def ObjectWriter.direct : ObjectWriter key content where
  delete s k := if (s.lookup k).isNone then (some (.notFound (k.text ++ " not found")), s) else (none, s.remove k)
  delete_ok {s k} h := by
    split
    · rename_i hn
      simpa using hn
    · exact Store.lookup_remove s k
  delete_frame {s k k'} h := by
    split
    · rfl
    · exact Store.lookup_remove_ne h
  createOrUpdate s obj mutate :=
    match mutate ((s.lookup (key obj)).getD obj) with
    | .error e => (some e, s)
    | .ok new =>
      if key new = key obj then (none, s.put new)
      else (some (.other "mutate function cannot change object name and/or object namespace"), s)
  createOrUpdate_ok {s obj mutate} h := by
    split at h
    · cases h
    · rename_i new hnew
      split at h
      · rename_i hk
        rw [hnew]
        exact ⟨new, new, rfl, by simp only [hk, if_true]; rw [← hk]; exact Store.lookup_put s new, rfl⟩
      · cases h
  createOrUpdate_frame {s obj mutate k'} h := by
    split
    · rfl
    · split
      · rename_i hk
        exact Store.lookup_put_ne (by rw [hk]; exact h)
      · rfl

end Store

def Reader.direct (cl : Cluster) : Reader cl where
  getWNP := getFrom cl.wnps
  getReplicaSet := getFrom cl.replicaSets
  getNetworkPolicy := getFrom cl.networkPolicies
  getAuthorizationPolicy := getFrom cl.authorizationPolicies
  listWNPsByTarget ns key := .ok (cl.wnps.values.filter fun w => w.ns = ns && key ∈ indexWNPByTarget w)
  listDeployments ns := .ok (cl.deployments.values.filter (·.ns = ns))
  listStatefulSets ns := .ok (cl.statefulSets.values.filter (·.ns = ns))
  listDaemonSets ns := .ok (cl.daemonSets.values.filter (·.ns = ns))
  listPods ns selector := .ok (cl.pods.values.filter fun p => p.ns = ns && selector p.labels)
  getWNP_gets := gets_getFrom _
  getReplicaSet_gets := gets_getFrom _
  getNetworkPolicy_gets := gets_getFrom _
  getAuthorizationPolicy_gets := gets_getFrom _
  listWNPsByTarget_lists _ _ := lists_filter _ _
  listDeployments_lists _ := lists_filter _ _
  listStatefulSets_lists _ := lists_filter _ _
  listDaemonSets_lists _ := lists_filter _ _
  listPods_lists _ _ := lists_filter _ _

lemma isNotFound_of_getFrom {V : Type} {key : V → NamespacedName} {s : Store key} {k : NamespacedName}
    {e : Err} (h : getFrom s k = .error e) : e.isNotFound = true := by
  unfold getFrom at h
  split at h
  · cases h
  · cases h
    rfl

lemma Reader.direct_answers (cl : Cluster) : (Reader.direct cl).Answers where
  getReplicaSet h := isNotFound_of_getFrom h
  getNetworkPolicy h := isNotFound_of_getFrom h
  getAuthorizationPolicy h := isNotFound_of_getFrom h
  listWNPsByTarget _ _ := ⟨_, rfl⟩
  listDeployments _ := ⟨_, rfl⟩
  listStatefulSets _ := ⟨_, rfl⟩
  listDaemonSets _ := ⟨_, rfl⟩
  listPods _ _ := ⟨_, rfl⟩

/-- The stored policy after a patch of its conditions. -/
def patched (stored new : WorkloadNetworkPolicy) : WorkloadNetworkPolicy :=
  { stored with
    resourceVersion := stored.resourceVersion + 1
    status := { stored.status with conditions := new.status.conditions } }

/-- The conditions are stored if the resource version has not moved. -/
def StatusWriter.direct : StatusWriter where
  patch s base new :=
    match s.lookup new.key with
    | none => (some (.notFound (new.key.text ++ " not found")), s)
    | some stored =>
      if stored.resourceVersion = base.resourceVersion then
        (none, s.put (patched stored new))
      else (some (.other "the object has been modified"), s)
  patch_ok {s base new} h := by
    split at h
    · cases h
    · rename_i stored hl
      split at h
      · rename_i hrv
        have hstored : stored.key = new.key := Store.key_of_lookup hl
        have hkey : (patched stored new).key = new.key := hstored
        refine ⟨patched stored new, ?_, fun _ => rfl⟩
        rw [if_pos hrv, ← hkey]
        exact Store.lookup_put s (patched stored new)
      · cases h

/-- Reference and object agree in group, kind and name. -/
def referSameObject (a b : OwnerReference) : Bool :=
  a.apiVersion = b.apiVersion && a.kind = b.kind && a.name = b.name

/-- The new condition in the place of the old one; the transition time moves with the status. -/
def transitioned (now : Time) (old new : Condition) : Condition :=
  { new with lastTransitionTime := if old.status = new.status then old.lastTransitionTime else now }

/-- `SetStatusCondition` at the time `now`. -/
def setStatusConditionAt (now : Time) (conditions : List Condition) (new : Condition) :
    List Condition × Bool :=
  match findStatusCondition conditions new.type with
  | none => (conditions ++ [{ new with lastTransitionTime := now }], true)
  | some old =>
    if old = transitioned now old new then (conditions, false)
    else (conditions.map fun c => if c.type = new.type then transitioned now old new else c, true)

lemma find_map_type (conditions : List Condition) (new : Condition) (old : Condition)
    (h : findStatusCondition conditions new.type = some old) :
    findStatusCondition (conditions.map fun c => if c.type = new.type then new else c) new.type = some new := by
  unfold findStatusCondition at *
  induction conditions with
  | nil => cases h
  | cons c cs ih =>
    by_cases hc : c.type = new.type
    · simp [hc]
    · simp only [List.map_cons, if_neg hc]
      rw [List.find?_cons_of_neg (by simpa using hc)] at h ⊢
      exact ih h

def ControllerLib.direct (now : Time) : ControllerLib where
  setControllerReference owner refs :=
    let ref : OwnerReference := ⟨groupVersion, workloadNetworkPolicyKind, owner.name, owner.uid, some true⟩
    match getControllerOf refs with
    | some existing =>
      if referSameObject existing ref then .ok (ref :: refs.filter fun r => !referSameObject r ref)
      else .error (.other "Object is already owned by another controller")
    | none => .ok (ref :: refs.filter fun r => !referSameObject r ref)
  setControllerReference_ok {owner refs refs'} h := by
    simp only at h
    split at h
    · split at h
      · rw [← Except.ok.inj h]
        simp [isControlledBy, getControllerOf]
      · cases h
    · rw [← Except.ok.inj h]
      simp [isControlledBy, getControllerOf]
  setStatusCondition := setStatusConditionAt now
  setStatusCondition_find conditions new := by
    unfold setStatusConditionAt
    split
    · rename_i hnone
      refine ⟨{ new with lastTransitionTime := now }, ?_, rfl⟩
      unfold findStatusCondition at *
      rw [List.find?_append, hnone]
      simp
    · rename_i old hold
      split
      · rename_i heq
        have hstatus : old.status = (transitioned now old new).status := congrArg Condition.status heq
        exact ⟨old, hold, hstatus⟩
      · exact ⟨_, find_map_type conditions (transitioned now old new) old hold, rfl⟩
  setStatusCondition_unchanged {conditions new} h := by
    unfold setStatusConditionAt at h ⊢
    split at h
    · cases h
    · rename_i old hold
      by_cases heq : old = transitioned now old new
      · rw [if_pos heq]
      · rw [if_neg heq] at h
        cases h

def Env.direct (cl : Cluster) (now : Time) : Env cl where
  lib := .documented
  ctrl := .direct now
  reads _ := .direct cl
  networkPolicies := .direct
  authorizationPolicies := .direct
  status := .direct

end NetworkEnforcer.Reconcile
