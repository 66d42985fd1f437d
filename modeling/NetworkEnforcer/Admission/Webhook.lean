import Mathlib.Logic.Relation
import NetworkEnforcer.Attribution.Attribute

/-!
# The admission webhook (`internal/controller/workloadnetworkpolicy_webhook.go`)

A policy is admitted when no other live policy of its namespace has the same target and direction.
`Step` is what the API server does with policies, one operation at a time, the webhook reading an
up-to-date cache: it creates and updates what is admitted, marks for deletion, and removes.  No two live
policies ever share a target, if none did at the start (`admission_keeps_targets_unique`).

The webhook compares keys of the index and not targets.  The two say the same because the schema of the
API admits three kinds, none with a slash in it.
-/

namespace NetworkEnforcer.Admission

open NetworkEnforcer.Lib NetworkEnforcer.Api NetworkEnforcer.Workload
open NetworkEnforcer.Attribution (workloadNetworkPolicyKind)

/-! ## The validator -/

/-- The errors of the validator: `NewInternalError`, and `NewInvalid` with its one field error. -/
inductive AdmissionError where
  | internal (message : String)
  | invalid (kind name : String) (path : List String) (value detail : String)
  deriving DecidableEq, Repr

/-- `targetKey`: the key of the index, or the empty text when the target is not complete. -/
def targetKey (wnp : WorkloadNetworkPolicy) : String :=
  match indexWNPByTarget wnp with
  | [key] => key
  | _ => ""

/-- Marked for deletion: `!DeletionTimestamp.IsZero()`. -/
def terminating (wnp : WorkloadNetworkPolicy) : Bool := wnp.deletionTimestamp.isSome

/-- The listed policies that stand in the way. -/
def conflicting (wnp : WorkloadNetworkPolicy) (items : List WorkloadNetworkPolicy) :
    List WorkloadNetworkPolicy :=
  items.filter fun existing =>
    !(existing.uid = wnp.uid || existing.name = wnp.name || terminating existing)

def validateUniqueTarget (c : TargetReader) (wnp : WorkloadNetworkPolicy) : Except AdmissionError Unit :=
  let key := targetKey wnp
  -- schema validation rejects an incomplete target
  if key = "" then .ok ()
  else
    match c.listByTarget wnp.ns key with
    | .error err =>
      .error (.internal ("listing WorkloadNetworkPolicies in namespace " ++ wnp.ns ++ ": " ++ err.text))
    | .ok items =>
      let conflicts := (conflicting wnp items).map fun existing => existing.ns ++ "/" ++ existing.name
      if conflicts = [] then .ok ()
      else
        .error (.invalid workloadNetworkPolicyKind wnp.name ["spec", "targetRef"]
          (wnp.spec.targetRef.kind ++ "/" ++ wnp.spec.targetRef.name)
          ("direction " ++ wnp.spec.direction.text ++ " is already taken by WorkloadNetworkPolicy " ++
            ", ".intercalate conflicts ++
            "; at most one WorkloadNetworkPolicy may target a workload per direction"))

def validateCreate (c : TargetReader) (obj : WorkloadNetworkPolicy) : Except AdmissionError Unit :=
  validateUniqueTarget c obj

/-- Only an update that moves the policy to another target is checked. -/
def validateUpdate (c : TargetReader) (oldObj newObj : WorkloadNetworkPolicy) : Except AdmissionError Unit :=
  if terminating newObj || targetKey oldObj = targetKey newObj then .ok ()
  else validateUniqueTarget c newObj

/-- Deletions are not checked. -/
def validateDelete (_ : WorkloadNetworkPolicy) : Except AdmissionError Unit := .ok ()

/-! ## What is admitted -/

lemma targetKey_of_complete {wnp : WorkloadNetworkPolicy} (h : Complete wnp.spec.targetRef wnp.spec.direction) :
    targetKey wnp =
      wnpTargetIndexKey wnp.spec.targetRef.kind wnp.spec.targetRef.name wnp.spec.direction := by
  unfold targetKey indexWNPByTarget
  simp [h.kind, h.name, h.direction]

lemma wnpTargetIndexKey_ne_empty (kind : WorkloadKind) (name : String) (d : PolicyType) :
    wnpTargetIndexKey kind name d ≠ "" := by
  intro h
  have hl := congrArg String.toList h
  rw [toList_wnpTargetIndexKey] at hl
  simp at hl

/-- A policy under a key that is not empty is indexed under it. -/
lemma mem_indexWNPByTarget_of_targetKey {wnp : WorkloadNetworkPolicy} {key : String} (hne : key ≠ "")
    (h : targetKey wnp = key) : key ∈ indexWNPByTarget wnp := by
  unfold targetKey at h
  split at h
  · rename_i k hk
    rw [hk, h]
    exact List.mem_singleton_self _
  · exact absurd h.symm hne

/-- The two policies have one complete target. -/
structure SameTarget (v w : WorkloadNetworkPolicy) : Prop where
  ns : v.ns = w.ns
  complete : Complete w.spec.targetRef w.spec.direction
  targetRef : v.spec.targetRef = w.spec.targetRef
  direction : v.spec.direction = w.spec.direction

/-- **What an admitted policy can share its target with**: itself, or what is going away. -/
theorem validateUniqueTarget_ok {c : TargetReader} {v w : WorkloadNetworkPolicy}
    (h : validateUniqueTarget c w = .ok ()) (hv : v ∈ c.wnps) (hsame : SameTarget v w) :
    v.uid = w.uid ∨ v.name = w.name ∨ terminating v = true := by
  have hkey := targetKey_of_complete hsame.complete
  have hne : targetKey w ≠ "" := by
    rw [hkey]
    exact wnpTargetIndexKey_ne_empty _ _ _
  unfold validateUniqueTarget at h
  simp only [if_neg hne] at h
  split at h
  · cases h
  rename_i items hlist
  -- the policy is listed, so it is skipped for one of the three reasons
  have hmem : v ∈ items := by
    rw [(c.listByTarget_ok hlist).mem_iff, List.mem_filter, hkey]
    refine ⟨hv, ?_⟩
    simp only [hsame.ns, Bool.and_eq_true, decide_eq_true_eq, true_and]
    rw [mem_indexWNPByTarget, hsame.targetRef, hsame.direction]
    exact ⟨hsame.complete, rfl⟩
  split at h
  · rename_i hnil
    rw [List.map_eq_nil_iff, conflicting, List.filter_eq_nil_iff] at hnil
    simpa [or_iff_not_imp_left] using hnil v hmem
  · cases h

/-! ## Operations -/

/-- The kind is one the schema admits, or missing. -/
def SchemaKind (wnp : WorkloadNetworkPolicy) : Prop :=
  wnp.spec.targetRef.kind = "" ∨ wnp.spec.targetRef.kind ∈ supportedKinds

/-- The policies the API server holds: names are unique in a namespace, UIDs everywhere, and every policy
has passed the schema. -/
structure Registry where
  wnps : Store WorkloadNetworkPolicy.key
  uid_unique {v w : WorkloadNetworkPolicy} : v ∈ wnps.values → w ∈ wnps.values → v.uid = w.uid → v = w
  schema {w : WorkloadNetworkPolicy} : w ∈ wnps.values → SchemaKind w

/-- One operation.  The cache `c` of the webhook holds what the API server holds, in some order; that the
state after is a `Registry` again says that the new policy has a UID of its own and passed the schema. -/
inductive Step (s s' : Registry) : Prop
  | create (c : TargetReader) (w : WorkloadNetworkPolicy) : c.wnps.Perm s.wnps.values →
    s.wnps.lookup w.key = none → validateCreate c w = .ok () → s'.wnps = s.wnps.put w → Step s s'
  /-- Name and UID of a policy never change, and what is terminating remains so. -/
  | update (c : TargetReader) (old new : WorkloadNetworkPolicy) : c.wnps.Perm s.wnps.values →
    s.wnps.lookup new.key = some old → old.uid = new.uid →
    (terminating old = true → terminating new = true) → validateUpdate c old new = .ok () →
    s'.wnps = s.wnps.put new → Step s s'
  | terminate (w : WorkloadNetworkPolicy) (time : Time) : s.wnps.lookup w.key = some w →
    validateDelete w = .ok () → s'.wnps = s.wnps.put { w with deletionTimestamp := some time } → Step s s'
  | remove (w : WorkloadNetworkPolicy) : s.wnps.lookup w.key = some w → validateDelete w = .ok () →
    s'.wnps = s.wnps.remove w.key → Step s s'

/-- No two live policies have one complete target. -/
def UniqueTargets (wnps : Store WorkloadNetworkPolicy.key) : Prop :=
  ∀ v ∈ wnps.values, ∀ w ∈ wnps.values, terminating v = false → terminating w = false → SameTarget v w → v = w

lemma SameTarget.symm {v w : WorkloadNetworkPolicy} (h : SameTarget v w) : SameTarget w v where
  ns := h.ns.symm
  complete := by rw [h.targetRef, h.direction]; exact h.complete
  targetRef := h.targetRef.symm
  direction := h.direction.symm

lemma SameTarget.trans {u v w : WorkloadNetworkPolicy} (h : SameTarget u v) (h' : SameTarget v w) :
    SameTarget u w where
  ns := h.ns.trans h'.ns
  complete := h'.complete
  targetRef := h.targetRef.trans h'.targetRef
  direction := h.direction.trans h'.direction

/-- Another live policy with the target of an admitted one would have to be the same object. -/
lemma uid_eq_of_admitted {c : TargetReader} {v w : WorkloadNetworkPolicy}
    (hadm : validateUniqueTarget c w = .ok ()) (hv : v ∈ c.wnps) (hkey : v.key ≠ w.key)
    (hlive : terminating v = false) (hsame : SameTarget v w) : v.uid = w.uid := by
  rcases validateUniqueTarget_ok hadm hv hsame with huid | hname | hterm
  · exact huid
  · exact absurd (congrArg₂ NamespacedName.mk hsame.ns hname) hkey
  · rw [hlive] at hterm
    cases hterm

/-- What is put keeps targets unique if it shares its own with no other live policy. -/
lemma UniqueTargets.put {wnps : Store WorkloadNetworkPolicy.key} {new : WorkloadNetworkPolicy}
    (hu : UniqueTargets wnps)
    (hnew : ∀ v ∈ wnps.values, v.key ≠ new.key → terminating v = false → terminating new = false →
      ¬ SameTarget v new) : UniqueTargets (wnps.put new) := by
  intro v hv w hw hlv hlw hsame
  rcases Store.lookup_put_cases (Store.mem_values.1 hv) with ⟨-, hv⟩ | ⟨hkv, hv⟩ <;>
    rcases Store.lookup_put_cases (Store.mem_values.1 hw) with ⟨-, hw⟩ | ⟨hkw, hw⟩
  · rw [hv, hw]
  · rw [hv] at hlv hsame
    exact absurd hsame.symm (hnew w (Store.mem_of_lookup hw) hkw hlw hlv)
  · rw [hw] at hlw hsame
    exact absurd hsame (hnew v (Store.mem_of_lookup hv) hkv hlv hlw)
  · exact hu v (Store.mem_of_lookup hv) w (Store.mem_of_lookup hw) hlv hlw hsame

lemma UniqueTargets.remove {wnps : Store WorkloadNetworkPolicy.key} (hu : UniqueTargets wnps)
    (k : NamespacedName) : UniqueTargets (wnps.remove k) := by
  have hold : ∀ v ∈ (wnps.remove k).values, v ∈ wnps.values := by
    intro v hv
    rw [Store.mem_values] at hv
    by_cases hk : v.key = k
    · rw [hk, Store.lookup_remove] at hv
      cases hv
    · rw [Store.lookup_remove_ne hk] at hv
      exact Store.mem_of_lookup hv
  exact fun v hv w hw => hu v (hold v hv) w (hold w hw)

/-- **One key, one target**: kinds have no slash. -/
lemma sameTarget_of_targetKey_eq {v w : WorkloadNetworkPolicy} (hv : SchemaKind v) (hw : SchemaKind w)
    (hns : v.ns = w.ns) (hc : Complete w.spec.targetRef w.spec.direction)
    (hkey : targetKey v = targetKey w) : SameTarget v w := by
  rw [targetKey_of_complete hc] at hkey
  have hmem := mem_indexWNPByTarget_of_targetKey (wnpTargetIndexKey_ne_empty _ _ _) hkey
  have hcv := (mem_indexWNPByTarget.1 hmem).1
  have hkinds : ∀ x ∈ [v], x.spec.targetRef.kind ∈ supportedKinds := by
    intro x hx
    rw [List.mem_singleton.1 hx]
    exact hv.resolve_left hcv.kind
  obtain ⟨href, hd⟩ := unambiguous_of_supportedKinds w.spec.direction (hw.resolve_left hc.kind) hkinds v
    (List.mem_singleton_self v) hmem
  exact ⟨hns, hc, href, hd⟩

/-- **One operation keeps targets unique.** -/
theorem Step.uniqueTargets {s s' : Registry} (h : Step s s') (hu : UniqueTargets s.wnps) :
    UniqueTargets s'.wnps := by
  cases h with
  | create c w hcache hname hadm hput =>
    rw [hput]
    apply hu.put
    intro v hv hkey hlv _ hsame
    have huid := uid_eq_of_admitted hadm (hcache.mem_iff.2 hv) hkey hlv hsame
    -- the state after has both policies, with distinct UIDs
    have hv' : v ∈ s'.wnps.values := by
      rw [hput, Store.mem_values, Store.lookup_put_ne hkey]
      exact Store.mem_values.1 hv
    have hw' : w ∈ s'.wnps.values := by
      rw [hput]
      exact Store.mem_of_lookup (Store.lookup_put _ _)
    exact hkey (congrArg _ (s'.uid_unique hv' hw' huid))
  | update c old new hcache hold huid hmono hadm hput =>
    rw [hput]
    apply hu.put
    intro v hv hkey hlv hlnew hsame
    have holdmem := Store.mem_of_lookup hold
    have hkeyold : old.key = new.key := Store.key_of_lookup hold
    have hne : v ≠ old := fun heq => hkey (heq ▸ hkeyold)
    unfold validateUpdate at hadm
    split at hadm
    · -- the target did not move, and the old policy had it alone
      rename_i hskip
      simp only [hlnew, Bool.false_or, decide_eq_true_eq] at hskip
      have hnewmem : new ∈ s'.wnps.values := by
        rw [hput]
        exact Store.mem_of_lookup (Store.lookup_put _ _)
      have hmoved := sameTarget_of_targetKey_eq (s.schema holdmem) (s'.schema hnewmem)
        (congrArg NamespacedName.ns hkeyold) hsame.complete hskip
      have hlold : terminating old = false := by
        by_contra ht
        rw [hmono (Bool.eq_true_of_not_eq_false ht)] at hlnew
        cases hlnew
      exact hne (hu v hv old holdmem hlv hlold (hsame.trans hmoved.symm))
    · have huid' := uid_eq_of_admitted hadm (hcache.mem_iff.2 hv) hkey hlv hsame
      exact hne (s.uid_unique hv holdmem (huid'.trans huid.symm))
  | terminate w time hw _ hput =>
    rw [hput]
    apply hu.put
    intro v _ _ _ hlive
    cases hlive
  | remove w hw _ hput =>
    rw [hput]
    exact hu.remove _

lemma validateUpdate_same {c : TargetReader} {old new : WorkloadNetworkPolicy}
    (href : old.spec.targetRef = new.spec.targetRef) (hd : old.spec.direction = new.spec.direction) :
    validateUpdate c old new = .ok () := by
  have hkey : targetKey old = targetKey new := by
    unfold targetKey indexWNPByTarget
    rw [href, hd]
  unfold validateUpdate
  simp [hkey]

/-- **Admission keeps targets unique**, along every run of operations, and lets every update through that
leaves target and direction alone. -/
theorem admission_keeps_targets_unique :
    (∀ s s' : Registry, UniqueTargets s.wnps → Relation.ReflTransGen Step s s' → UniqueTargets s'.wnps) ∧
    (∀ (c : TargetReader) (old new : WorkloadNetworkPolicy), old.spec.targetRef = new.spec.targetRef →
      old.spec.direction = new.spec.direction → validateUpdate c old new = .ok ()) := by
  refine ⟨fun s s' hu hrun => ?_, fun c old new href hd => validateUpdate_same href hd⟩
  induction hrun with
  | refl => exact hu
  | tail _ hstep ih => exact hstep.uniqueTargets ih

/-- A policy for the ingress of one deployment. -/
def webPolicy (name : String) (deleted : Option Time) : WorkloadNetworkPolicy :=
  { ns := "shop", name := name, uid := name, deletionTimestamp := deleted,
    spec := { backend := .kubernetes
              kubernetes := some {
                podSelector := { matchLabels := AList.singleton "app" "web" }, policyTypes := [.ingress] }
              targetRef := ⟨"Deployment", "web"⟩, direction := .ingress } }

lemma schemaKind_webPolicy (name : String) (deleted : Option Time) : SchemaKind (webPolicy name deleted) :=
  Or.inr (List.mem_cons_self ..)

/-- One policy. -/
def oneRegistry (deleted : Option Time) : Registry where
  wnps := .ofList [webPolicy "a" deleted]
  uid_unique hv hw _ := (List.mem_singleton.1 hv).trans (List.mem_singleton.1 hw).symm
  schema hw := by
    rw [List.mem_singleton.1 hw]
    exact schemaKind_webPolicy ..

/-- One that is going away, and its successor. -/
def twoRegistry : Registry where
  wnps := (oneRegistry (some 5)).wnps.put (webPolicy "b" none)
  uid_unique {v w} hv hw huid := by
    rcases List.mem_cons.1 hv with rfl | hv <;> rcases List.mem_cons.1 hw with rfl | hw
    · rfl
    · rw [List.mem_singleton.1 hw] at huid
      exact absurd huid (by decide)
    · rw [List.mem_singleton.1 hv] at huid
      exact absurd huid (by decide)
    · exact (List.mem_singleton.1 hv).trans (List.mem_singleton.1 hw).symm
  schema {w} hw := by
    rcases List.mem_cons.1 hw with rfl | hw
    · exact schemaKind_webPolicy ..
    · rw [List.mem_singleton.1 hw]
      exact schemaKind_webPolicy ..

theorem admission_keeps_targets_unique_sample :
    ∃ v ∈ twoRegistry.wnps.values, ∃ w ∈ twoRegistry.wnps.values, v.name ≠ w.name ∧ SameTarget v w ∧
      UniqueTargets twoRegistry.wnps := by
  have hstart : UniqueTargets (oneRegistry none).wnps := fun v hv w hw _ _ _ =>
    (List.mem_singleton.1 hv).trans (List.mem_singleton.1 hw).symm
  have hterminate : Step (oneRegistry none) (oneRegistry (some 5)) := .terminate (webPolicy "a" none) 5 rfl rfl rfl
  have hcreate : Step (oneRegistry (some 5)) twoRegistry :=
    .create (.ofList (oneRegistry (some 5)).wnps.values) (webPolicy "b" none) (List.Perm.refl _) rfl rfl rfl
  have hrun := (Relation.ReflTransGen.single hterminate).tail hcreate
  exact ⟨webPolicy "b" none, List.mem_cons_self .., webPolicy "a" (some 5),
    List.mem_cons_of_mem _ (List.mem_cons_self ..), by decide,
    ⟨rfl, ⟨by decide, by decide, by decide⟩, rfl, rfl⟩,
    admission_keeps_targets_unique.1 _ _ hstart hrun⟩

end NetworkEnforcer.Admission
