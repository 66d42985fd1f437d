import NetworkEnforcer.Reconcile.Freshness
import NetworkEnforcer.Workload.Extract

/-!
# Two ways from a pod to its workload

Attribution and learning ask the pod alone (`getNameAndKind`): the deployment behind a replica set is read
off the replica set's name and the hash label.  The scope check follows owner references through the
stored replica set, in `apps/v1` only, and compares UIDs (`podWorkloadOwner`, `podOwnerMatchesTarget`).

The two agree about a target exactly when nothing is taken for it by its name alone (`inferred_iff_owned`,
`Unmistaken`): a reference with its kind and name is a reference to it, and a replica set is named after it,
with the hash of the pod, exactly if it controls the replica set.  The built-in controllers see to that as
long as nothing is deleted and created again; `inferred_not_owned` has the ways to miss it.
-/

namespace NetworkEnforcer.Reconcile

open NetworkEnforcer.Lib NetworkEnforcer.Api NetworkEnforcer.Workload

/-- Attribution takes the pod for one of this workload, in its own namespace. -/
def Infers (pod : Pod) (ref : WorkloadTargetRef) : Prop :=
  (getNameAndKind pod).ns = pod.ns ∧ (getNameAndKind pod).ownerKind = ref.kind ∧
    (getNameAndKind pod).ownerName = ref.name

/-- The hash label of a pod, empty when there is none. -/
def templateHash (pod : Pod) : String := (pod.labels.lookup defaultDeploymentUniqueLabelKey).getD ""

/-- A deployment of `apps/v1`. -/
def IsDeployment (c : OwnerReference) : Prop := c.apiVersion = appsGroupVersion ∧ c.kind = workloadKindDeployment

/-- The replica set is named after the deployment, with the hash behind it.  A name that ends in the hash
without a hyphen before it is taken for that of the deployment as it is. -/
def NamedAfter (deployment replicaSet hash : String) : Prop :=
  hash ≠ "" ∧ (replicaSet = deployment ++ ("-" ++ hash) ∨
    (replicaSet = deployment ∧ hasSuffix replicaSet hash = true ∧ hasSuffix replicaSet ("-" ++ hash) = false))

/-- The controller of the replica set that a pod refers to, if both are of `apps/v1` and it is a deployment. -/
def ControlledBy (cl : Cluster) (pod : Pod) (owner c : OwnerReference) : Prop :=
  owner.apiVersion = appsGroupVersion ∧ ∃ rs, cl.replicaSets.lookup ⟨pod.ns, owner.name⟩ = some rs ∧
    rs.uid = owner.uid ∧ getControllerOf rs.ownerReferences = some c ∧ IsDeployment c

/-- The deployment controls the replica set of the pod. -/
def Controls (cl : Cluster) (pod : Pod) (owner : OwnerReference) (d : Workload) : Prop :=
  ∃ c, ControlledBy cl pod owner c ∧ c.name = d.name ∧ c.uid = d.uid

/-- What a pod and its references have to be like for a target not to be mistaken for another workload. -/
structure Unmistaken (cl : Cluster) (pod : Pod) (owner : OwnerReference) (kind : WorkloadKind) (d : Workload) :
    Prop where
  /-- A reference with the kind and name of the target is to the target, and not to a workload of another
  API group or one that had the name before. -/
  direct : owner.kind = kind → owner.name = d.name → owner.apiVersion = appsGroupVersion ∧ owner.uid = d.uid
  /-- A replica set that is named after a deployment is controlled by it, -/
  named : owner.kind = workloadKindReplicaSet → kind = workloadKindDeployment →
    NamedAfter d.name owner.name (templateHash pod) → Controls cl pod owner d
  /-- and the other way round. -/
  controlled : owner.kind = workloadKindReplicaSet → kind = workloadKindDeployment →
    Controls cl pod owner d → NamedAfter d.name owner.name (templateHash pod)

/-- What `GetNameAndKind` reads off the name of a replica set. -/
lemma namedAfter_iff {deployment replicaSet hash : String} : NamedAfter deployment replicaSet hash ↔
    hash ≠ "" ∧ hasSuffix replicaSet hash = true ∧ trimSuffix replicaSet ("-" ++ hash) = deployment := by
  refine and_congr_right fun _ => ?_
  cases hsuffix : hasSuffix replicaSet ("-" ++ hash) with
  | true =>
    obtain ⟨rest, rfl⟩ := hasSuffix_iff.1 hsuffix
    have hends : hasSuffix (rest ++ ("-" ++ hash)) hash = true :=
      hasSuffix_iff.2 ⟨rest ++ "-", by rw [String.append_assoc]⟩
    rw [trimSuffix_append]
    constructor
    · rintro (heq | ⟨-, -, hno⟩)
      · exact ⟨hends, String.append_left_inj _ |>.1 heq⟩
      · cases hno
    · rintro ⟨-, rfl⟩
      exact Or.inl rfl
  | false =>
    have htrim : trimSuffix replicaSet ("-" ++ hash) = replicaSet := by
      rw [hasSuffix, Option.isSome_eq_false_iff, Option.isNone_iff_eq_none] at hsuffix
      rw [trimSuffix, hsuffix, Option.getD_none]
    rw [htrim]
    constructor
    · rintro (heq | ⟨heq, hends, -⟩)
      · rw [hasSuffix_iff.2 ⟨deployment, heq⟩] at hsuffix
        cases hsuffix
      · exact ⟨hends, heq⟩
    · rintro ⟨hends, heq⟩
      exact Or.inr ⟨heq, hends, rfl⟩

/-- What it takes to be a pod of a target that exists. -/
lemma podOwnerMatchesTarget_iff {cl : Cluster} {r : Reader cl} {ns : String} {ts : List WorkloadTemplate}
    (hts : workloadTemplates r ns = .ok ts) {ref : WorkloadTargetRef} {d : Workload}
    (hd : HasWorkload cl ns ref.kind d) (hname : d.name = ref.name) (o : OwnerReference) :
    podOwnerMatchesTarget (some o) ref ts = true ↔
      o.apiVersion = appsGroupVersion ∧ o.kind = ref.kind ∧ o.name = ref.name ∧ o.uid = d.uid := by
  have htarget : (templateOf ref.kind d).target = ref := congrArg (WorkloadTargetRef.mk ref.kind) hname
  have hmem : templateOf ref.kind d ∈ ts := (mem_workloadTemplates hts).2 ⟨_, d, hd, rfl⟩
  -- the target has a template, and only one
  have hfind : ts.find? (·.target = ref) = some (templateOf ref.kind d) := by
    cases h : ts.find? (·.target = ref) with
    | none => exact absurd htarget (by simpa using List.find?_eq_none.1 h _ hmem)
    | some t =>
      rw [eq_templateOf_of_target hts hd hname (List.mem_of_find?_eq_some h) (by simpa using List.find?_some h)]
  simp only [podOwnerMatchesTarget, hfind]
  split
  · rename_i hne
    simp only [Bool.or_eq_true, decide_eq_true_eq] at hne
    refine ⟨fun h => absurd h Bool.false_ne_true, ?_⟩
    rintro ⟨hapi, hkind, honame, -⟩
    rcases hne with (h | h) | h
    · exact absurd hapi h
    · exact absurd hkind h
    · exact absurd honame h
  · rename_i hsame
    simp only [Bool.or_eq_true, decide_eq_true_eq, not_or, not_not] at hsame
    rw [decide_eq_true_iff]
    exact ⟨fun h => ⟨hsame.1.1, hsame.1.2, hsame.2, h⟩, fun h => h.2.2.2⟩

section Agreement

variable {cl : Cluster} {pod : Pod} {owner : OwnerReference} {ref : WorkloadTargetRef}

lemma infers_iff_of_direct (hc : getControllerOf pod.ownerReferences = some owner)
    (hk : owner.kind ≠ workloadKindReplicaSet) :
    Infers pod ref ↔ owner.kind = ref.kind ∧ owner.name = ref.name := by
  simp [Infers, getNameAndKind, hc, hk]

/-- A target is no replica set, so that only a deployment can be inferred from one. -/
lemma infers_iff_of_replicaSet (hc : getControllerOf pod.ownerReferences = some owner)
    (hk : owner.kind = workloadKindReplicaSet) (htarget : ref.kind ≠ workloadKindReplicaSet) :
    Infers pod ref ↔
      ref.kind = workloadKindDeployment ∧ NamedAfter ref.name owner.name (templateHash pod) := by
  rw [namedAfter_iff]
  simp only [Infers, getNameAndKind, hc, hk, if_true, templateHash]
  split
  · rename_i hplain
    refine iff_of_false (fun h => htarget h.2.1.symm) ?_
    rintro ⟨-, hhash, hends, -⟩
    simp [hhash, hends] at hplain
  · rename_i hnamed
    simp only [Bool.or_eq_true, decide_eq_true_eq, Bool.not_eq_true', not_or, Bool.not_eq_false] at hnamed
    simp only [true_and]
    rw [eq_comm (a := workloadKindDeployment)]
    exact and_congr_right fun _ => ⟨fun h => ⟨hnamed.1, hnamed.2, h⟩, fun h => h.2.2⟩

lemma ownerIn_of_direct (hc : getControllerOf pod.ownerReferences = some owner)
    (hk : owner.kind ≠ workloadKindReplicaSet) : ownerIn cl pod = some owner := by
  simp [ownerIn, hc, show owner.kind ≠ "ReplicaSet" from hk]

variable (cl) in
/-- The owner of a pod with a replica set: the deployment behind it, or the replica set. -/
lemma ownerIn_of_replicaSet (hc : getControllerOf pod.ownerReferences = some owner)
    (hk : owner.kind = workloadKindReplicaSet) :
    (∃ c, ControlledBy cl pod owner c ∧ ownerIn cl pod = some c) ∨
      ((∀ c, ¬ ControlledBy cl pod owner c) ∧ ownerIn cl pod = some owner) := by
  have hk' : owner.kind = "ReplicaSet" := hk
  by_cases happs : owner.apiVersion = appsGroupVersion
  · have hunfold : ownerIn cl pod = some (ownerBehind owner
        ((cl.replicaSets.lookup ⟨pod.ns, owner.name⟩).map replicaSetView)) := by
      simp [ownerIn, hc, happs, hk']
    rw [hunfold]
    -- without a deployment at its end the chain leads back to the replica set
    have hno : (∀ c, ¬ ControlledBy cl pod owner c) ∨ ∃ c, ControlledBy cl pod owner c := by
      rw [← not_exists]
      exact (em _).symm
    rcases hno with hno | ⟨c, happs', rs, hrs, huid, hctl, hdep⟩
    · refine Or.inr ⟨hno, ?_⟩
      cases hrs : cl.replicaSets.lookup ⟨pod.ns, owner.name⟩ with
      | none => rfl
      | some rs =>
        simp only [Option.map_some, replicaSetView, ownerBehind]
        by_cases huid : rs.uid = owner.uid
        · cases hctl : getControllerOf rs.ownerReferences with
          | none => simp
          | some c =>
            have hdep : ¬ IsDeployment c := fun hdep => hno c ⟨happs, rs, hrs, huid, hctl, hdep⟩
            simp only [IsDeployment, workloadKindDeployment] at hdep
            simp [huid, hdep]
        · simp [huid]
    · refine Or.inl ⟨c, ⟨happs', rs, hrs, huid, hctl, hdep⟩, ?_⟩
      obtain ⟨hapi, hkind⟩ := hdep
      simp [hrs, replicaSetView, ownerBehind, huid, hctl, hapi, show c.kind = "Deployment" from hkind]
  · refine Or.inr ⟨fun c h => happs h.1, ?_⟩
    simp [ownerIn, hc, happs]

lemma kind_ne_replicaSet {d : Workload} {ns : String} (hd : HasWorkload cl ns ref.kind d) :
    ref.kind ≠ workloadKindReplicaSet := by
  rcases hd.2 with ⟨hk, -⟩ | ⟨hk, -⟩ | ⟨hk, -⟩
  all_goals
    rw [hk]
    decide

/-- **When attribution and scope checking resolve a pod to the same workload.** -/
theorem inferred_iff_owned (hc : getControllerOf pod.ownerReferences = some owner) {r : Reader cl}
    {o : Option OwnerReference} {ts : List WorkloadTemplate} (howner : podWorkloadOwner r pod = .ok o)
    (hts : workloadTemplates r pod.ns = .ok ts) {d : Workload} (hd : HasWorkload cl pod.ns ref.kind d)
    (hname : d.name = ref.name) :
    (Infers pod ref ↔ podOwnerMatchesTarget o ref ts = true) ↔ Unmistaken cl pod owner ref.kind d := by
  rw [podWorkloadOwner_eq howner]
  have htarget := kind_ne_replicaSet hd
  by_cases hk : owner.kind = workloadKindReplicaSet
  · have hmatch : podOwnerMatchesTarget (ownerIn cl pod) ref ts = true ↔
        ref.kind = workloadKindDeployment ∧ Controls cl pod owner d := by
      rcases ownerIn_of_replicaSet cl hc hk with ⟨c, hctl, hin⟩ | ⟨hno, hin⟩
      · rw [hin, podOwnerMatchesTarget_iff hts hd hname]
        obtain ⟨-, rs, hrs, -, hrefs, hdep⟩ := id hctl
        constructor
        · rintro ⟨-, hkind, hcname, huid⟩
          exact ⟨hkind.symm.trans hdep.2, c, hctl, hcname.trans hname.symm, huid⟩
        · rintro ⟨hkind, c', ⟨-, rs', hrs', -, hrefs', -⟩, hcname, huid⟩
          -- there is one controller only
          obtain rfl : rs = rs' := Option.some.inj (hrs.symm.trans hrs')
          obtain rfl : c = c' := Option.some.inj (hrefs.symm.trans hrefs')
          exact ⟨hdep.1, hdep.2.trans hkind.symm, hcname.trans hname, huid⟩
      · rw [hin, podOwnerMatchesTarget_iff hts hd hname]
        refine iff_of_false (fun h => htarget (h.2.1.symm.trans hk)) ?_
        rintro ⟨-, c, hctl, -⟩
        exact hno c hctl
    rw [infers_iff_of_replicaSet hc hk htarget, hmatch, ← hname]
    constructor
    · intro h
      refine ⟨fun he => absurd (he.symm.trans hk) htarget, fun _ hdep hnamed => ?_, fun _ hdep hctl => ?_⟩
      · exact (h.1 ⟨hdep, hnamed⟩).2
      · exact (h.2 ⟨hdep, hctl⟩).2
    · rintro ⟨-, hnamed, hcontrolled⟩
      exact and_congr_right fun hdep => ⟨hnamed hk hdep, hcontrolled hk hdep⟩
  · rw [infers_iff_of_direct hc hk, ownerIn_of_direct hc hk, podOwnerMatchesTarget_iff hts hd hname, ← hname]
    constructor
    · intro h
      refine ⟨fun hkind honame => ?_, fun he => absurd he hk, fun he => absurd he hk⟩
      obtain ⟨hapi, -, -, huid⟩ := h.1 ⟨hkind, honame⟩
      exact ⟨hapi, huid⟩
    · intro h
      constructor
      · rintro ⟨hkind, honame⟩
        obtain ⟨hapi, huid⟩ := h.direct hkind honame
        exact ⟨hapi, hkind, honame, huid⟩
      · rintro ⟨-, hkind, honame, -⟩
        exact ⟨hkind, honame⟩

end Agreement

/-! ## Pods that are taken for others -/

/-- The two ways differ on a pod with a controller, whose replica set is stored if it has one, about a
target that exists. -/
def Disagree (cl : Cluster) (pod : Pod) (ref : WorkloadTargetRef) : Prop :=
  ∃ owner o ts d, getControllerOf pod.ownerReferences = some owner ∧
    (owner.kind = workloadKindReplicaSet →
      ∃ rs, cl.replicaSets.lookup ⟨pod.ns, owner.name⟩ = some rs ∧ rs.uid = owner.uid) ∧
    HasWorkload cl pod.ns ref.kind d ∧ d.name = ref.name ∧
    podWorkloadOwner (Reader.direct cl) pod = .ok o ∧ workloadTemplates (Reader.direct cl) pod.ns = .ok ts ∧
    ¬ (Infers pod ref ↔ podOwnerMatchesTarget o ref ts = true)

/-- A deployment, a stateful set and a replica set. -/
def shop (replicaSet : String) (owners : List OwnerReference) : Cluster where
  deployments := .ofList [{ ns := "shop", name := "web", uid := "d1" }]
  statefulSets := .ofList [{ ns := "shop", name := "db", uid := "s1" }]
  replicaSets := .ofList [{ ns := "shop", name := replicaSet, uid := "r1", ownerReferences := owners }]

def webTarget : WorkloadTargetRef := ⟨"Deployment", "web"⟩

def webDeployment : OwnerReference := ⟨appsGroupVersion, "Deployment", "web", "d1", some true⟩

/-- A pod with the hash label `abc`. -/
def hashedPod (owner : OwnerReference) : Pod :=
  { ns := "shop", name := "p", labels := (∅ : Labels).insert defaultDeploymentUniqueLabelKey "abc",
    ownerReferences := [owner] }

theorem inferred_iff_owned_sample :
    ∃ o ts, podWorkloadOwner (Reader.direct (shop "web-abc" [webDeployment]))
        (hashedPod ⟨appsGroupVersion, "ReplicaSet", "web-abc", "r1", some true⟩) = .ok o ∧
      workloadTemplates (Reader.direct (shop "web-abc" [webDeployment])) "shop" = .ok ts ∧
      podOwnerMatchesTarget o webTarget ts = true := by
  have howner : podWorkloadOwner (Reader.direct (shop "web-abc" [webDeployment]))
      (hashedPod ⟨appsGroupVersion, "ReplicaSet", "web-abc", "r1", some true⟩) = .ok (some webDeployment) := rfl
  have hd : HasWorkload (shop "web-abc" [webDeployment]) "shop" webTarget.kind
      { ns := "shop", name := "web", uid := "d1" } := ⟨rfl, .inl ⟨rfl, List.mem_cons_self ..⟩⟩
  have hinfers : Infers (hashedPod ⟨appsGroupVersion, "ReplicaSet", "web-abc", "r1", some true⟩)
      webTarget := ⟨rfl, rfl, by decide⟩
  have hcontrols : Controls (shop "web-abc" [webDeployment])
      (hashedPod ⟨appsGroupVersion, "ReplicaSet", "web-abc", "r1", some true⟩)
      ⟨appsGroupVersion, "ReplicaSet", "web-abc", "r1", some true⟩ { ns := "shop", name := "web", uid := "d1" } :=
    ⟨webDeployment, ⟨rfl, _, rfl, rfl, rfl, rfl, rfl⟩, rfl, rfl⟩
  refine ⟨_, _, howner, rfl, ((inferred_iff_owned rfl howner rfl hd rfl).2 ?_).1 hinfers⟩
  exact ⟨fun h => absurd h (by decide), fun _ _ _ => hcontrols, fun _ _ _ => ⟨by decide, Or.inl (by decide)⟩⟩

/-- A controller of another API group, a workload created anew under an old name, a replica set that no
deployment controls, one of another API group, and one whose name lacks the hyphen. -/
theorem inferred_not_owned :
    Disagree (shop "web-abc" []) (hashedPod ⟨"apps.kruise.io/v1beta1", "StatefulSet", "db", "k1", some true⟩)
      ⟨"StatefulSet", "db"⟩ ∧
    Disagree (shop "web-abc" []) (hashedPod ⟨appsGroupVersion, "StatefulSet", "db", "s0", some true⟩)
      ⟨"StatefulSet", "db"⟩ ∧
    Disagree (shop "web-abc" []) (hashedPod ⟨appsGroupVersion, "ReplicaSet", "web-abc", "r1", some true⟩)
      webTarget ∧
    Disagree (shop "web-abc" [webDeployment])
      (hashedPod ⟨"apps.kruise.io/v1beta1", "ReplicaSet", "web-abc", "r1", some true⟩) webTarget ∧
    Disagree (shop "webabc" [webDeployment])
      (hashedPod ⟨appsGroupVersion, "ReplicaSet", "webabc", "r1", some true⟩) webTarget := by
  refine ⟨?_, ?_, ?_, ?_, ?_⟩
  · refine ⟨_, _, _, { ns := "shop", name := "db", uid := "s1" }, rfl, fun h => absurd h (by decide),
      ⟨rfl, .inr (.inl ⟨rfl, List.mem_cons_self ..⟩)⟩, rfl, rfl, rfl, fun h => ?_⟩
    exact absurd (h.1 ⟨rfl, rfl, rfl⟩) (by decide)
  · refine ⟨_, _, _, { ns := "shop", name := "db", uid := "s1" }, rfl, fun h => absurd h (by decide),
      ⟨rfl, .inr (.inl ⟨rfl, List.mem_cons_self ..⟩)⟩, rfl, rfl, rfl, fun h => ?_⟩
    exact absurd (h.1 ⟨rfl, rfl, rfl⟩) (by decide)
  · refine ⟨_, _, _, { ns := "shop", name := "web", uid := "d1" }, rfl, fun _ => ⟨_, rfl, rfl⟩,
      ⟨rfl, .inl ⟨rfl, List.mem_cons_self ..⟩⟩, rfl, rfl, rfl, fun h => ?_⟩
    exact absurd (h.1 ⟨rfl, rfl, by decide⟩) (by decide)
  · refine ⟨_, _, _, { ns := "shop", name := "web", uid := "d1" }, rfl, fun _ => ⟨_, rfl, rfl⟩,
      ⟨rfl, .inl ⟨rfl, List.mem_cons_self ..⟩⟩, rfl, rfl, rfl, fun h => ?_⟩
    exact absurd (h.1 ⟨rfl, rfl, by decide⟩) (by decide)
  · refine ⟨_, _, _, { ns := "shop", name := "web", uid := "d1" }, rfl, fun _ => ⟨_, rfl, rfl⟩,
      ⟨rfl, .inl ⟨rfl, List.mem_cons_self ..⟩⟩, rfl, rfl, rfl, fun h => ?_⟩
    have hname := (h.2 (by decide)).2.2
    exact absurd hname (by decide)

end NetworkEnforcer.Reconcile
