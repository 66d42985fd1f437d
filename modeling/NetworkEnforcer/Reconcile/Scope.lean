import NetworkEnforcer.Reconcile.Controller

/-!
# What the scope check establishes

The verdict of `checkSelectorScope`, read back as facts about the cluster: the target exists and is
selected, no other workload is, and every selected pod belongs to the target (`InScope`).  The two
directions used later are `checkSelectorScope_true` and `checkSelectorScope_mismatch`.
-/

namespace NetworkEnforcer.Reconcile

open NetworkEnforcer.Lib NetworkEnforcer.Api NetworkEnforcer.Workload

variable {cl : Cluster}

/-! ## Templates of the cluster -/

/-- The workload exists in the namespace, under this kind. -/
def HasWorkload (cl : Cluster) (ns : String) (kind : WorkloadKind) (d : Workload) : Prop :=
  d.ns = ns ∧ ((kind = workloadKindDeployment ∧ d ∈ cl.deployments.values) ∨
    (kind = workloadKindStatefulSet ∧ d ∈ cl.statefulSets.values) ∨
    (kind = workloadKindDaemonSet ∧ d ∈ cl.daemonSets.values))

lemma mem_map_of_lists {s : Store Workload.key} {ns : String} {items : List Workload} (kind : WorkloadKind)
    (h : items.Perm (s.values.filter (·.ns = ns))) {t : WorkloadTemplate} :
    t ∈ items.map (templateOf kind) ↔ ∃ d ∈ s.values, d.ns = ns ∧ t = templateOf kind d := by
  simp only [List.mem_map, h.mem_iff, List.mem_filter, decide_eq_true_eq]
  constructor
  · rintro ⟨d, ⟨hd, hns⟩, rfl⟩
    exact ⟨d, hd, hns, rfl⟩
  · rintro ⟨d, hd, hns, rfl⟩
    exact ⟨d, ⟨hd, hns⟩, rfl⟩

/-- The templates are those of the workloads of the namespace. -/
lemma mem_workloadTemplates {r : Reader cl} {ns : String} {templates : List WorkloadTemplate}
    (h : workloadTemplates r ns = .ok templates) {t : WorkloadTemplate} :
    t ∈ templates ↔ ∃ kind d, HasWorkload cl ns kind d ∧ t = templateOf kind d := by
  unfold workloadTemplates at h
  split at h
  · cases h
  split at h
  · cases h
  split at h
  · cases h
  rename_i deployments hdep _ statefulSets hsts _ daemonSets hds
  obtain rfl := Except.ok.inj h
  rw [List.mem_append, List.mem_append, mem_map_of_lists _ (r.listDeployments_lists ns _ hdep),
    mem_map_of_lists _ (r.listStatefulSets_lists ns _ hsts),
    mem_map_of_lists _ (r.listDaemonSets_lists ns _ hds)]
  constructor
  · rintro ((⟨d, hd, hns, rfl⟩ | ⟨d, hd, hns, rfl⟩) | ⟨d, hd, hns, rfl⟩)
    · exact ⟨_, d, ⟨hns, .inl ⟨rfl, hd⟩⟩, rfl⟩
    · exact ⟨_, d, ⟨hns, .inr (.inl ⟨rfl, hd⟩)⟩, rfl⟩
    · exact ⟨_, d, ⟨hns, .inr (.inr ⟨rfl, hd⟩)⟩, rfl⟩
  · rintro ⟨kind, d, ⟨hns, hk⟩, rfl⟩
    rcases hk with ⟨rfl, hd⟩ | ⟨rfl, hd⟩ | ⟨rfl, hd⟩
    · exact .inl (.inl ⟨d, hd, hns, rfl⟩)
    · exact .inl (.inr ⟨d, hd, hns, rfl⟩)
    · exact .inr ⟨d, hd, hns, rfl⟩

/-- Kind and name determine a workload of a namespace. -/
lemma HasWorkload.unique {ns : String} {kind : WorkloadKind} {d d' : Workload}
    (h : HasWorkload cl ns kind d) (h' : HasWorkload cl ns kind d') (hn : d.name = d'.name) : d = d' := by
  have hkey : d.key = d'.key := congrArg₂ NamespacedName.mk (h.1.trans h'.1.symm) hn
  obtain ⟨-, hk⟩ := h
  obtain ⟨-, hk'⟩ := h'
  rcases hk with ⟨rfl, hd⟩ | ⟨rfl, hd⟩ | ⟨rfl, hd⟩ <;>
    rcases hk' with ⟨hk', hd'⟩ | ⟨hk', hd'⟩ | ⟨hk', hd'⟩
  case inl.inl => exact Store.eq_of_key_eq hd hd' hkey
  case inr.inl.inr.inl => exact Store.eq_of_key_eq hd hd' hkey
  case inr.inr.inr.inr => exact Store.eq_of_key_eq hd hd' hkey
  all_goals exact absurd hk' (by decide)

/-- The target has one template. -/
lemma eq_templateOf_of_target {r : Reader cl} {ns : String} {templates : List WorkloadTemplate}
    (h : workloadTemplates r ns = .ok templates) {ref : WorkloadTargetRef} {d : Workload}
    (hd : HasWorkload cl ns ref.kind d) (hname : d.name = ref.name) {t : WorkloadTemplate}
    (ht : t ∈ templates) (htarget : t.target = ref) : t = templateOf ref.kind d := by
  obtain ⟨kind, d', hd', rfl⟩ := (mem_workloadTemplates h).1 ht
  obtain rfl : kind = ref.kind := congrArg WorkloadTargetRef.kind htarget
  rw [hd'.unique hd ((congrArg WorkloadTargetRef.name htarget).trans hname.symm)]

/-! ## The loop over the templates -/

section Match

variable (wnp : WorkloadNetworkPolicy) (selector : Labels → Bool)

lemma foldl_matchTemplate_found (ts : List WorkloadTemplate) (m : TemplateMatch) :
    (ts.foldl (matchTemplate wnp selector) m).targetFound = true ↔
      m.targetFound = true ∨ ∃ t ∈ ts, t.target = wnp.spec.targetRef := by
  induction ts generalizing m with
  | nil => simp
  | cons t ts ih =>
    rw [List.foldl_cons, ih]
    unfold matchTemplate
    split
    · simp [*]
    · split <;> simp [*]

lemma foldl_matchTemplate_overlaps (ts : List WorkloadTemplate) (m : TemplateMatch) :
    (ts.foldl (matchTemplate wnp selector) m).overlaps = [] ↔
      m.overlaps = [] ∧ ∀ t ∈ ts, t.target ≠ wnp.spec.targetRef → selector t.labels = false := by
  induction ts generalizing m with
  | nil => simp
  | cons t ts ih =>
    rw [List.foldl_cons, ih]
    unfold matchTemplate
    split
    · simp [*]
    · split <;> simp [*]

/-- When the templates of the target agree on the answer, the loop returns it. -/
lemma foldl_matchTemplate_matches {b : Bool} (ts : List WorkloadTemplate) (m : TemplateMatch)
    (hb : ∀ t ∈ ts, t.target = wnp.spec.targetRef → selector t.labels = b) :
    (ts.foldl (matchTemplate wnp selector) m).targetMatches =
      if ∃ t ∈ ts, t.target = wnp.spec.targetRef then b else m.targetMatches := by
  induction ts generalizing m with
  | nil => simp
  | cons t ts ih =>
    rw [List.foldl_cons, ih _ fun t' ht' => hb t' (List.mem_cons_of_mem _ ht')]
    have ht := hb t (List.mem_cons_self ..)
    by_cases htarget : t.target = wnp.spec.targetRef
    · simp [matchTemplate, htarget, ht htarget]
    · have hcons : (∃ t' ∈ t :: ts, t'.target = wnp.spec.targetRef) ↔
          ∃ t' ∈ ts, t'.target = wnp.spec.targetRef := by simp [htarget]
      have hsame : (matchTemplate wnp selector m t).targetMatches = m.targetMatches := by
        rw [matchTemplate, if_neg htarget]
        split <;> rfl
      simp only [hcons, hsame]

end Match

/-! ## Pods -/

/-- The pod belongs to the target: its controller is the target, or is a stored replica set with the
referenced UID whose controller is the target deployment. -/
def OwnedByTarget (cl : Cluster) (pod : Pod) (ref : WorkloadTargetRef) (uid : String) : Prop :=
  ∃ owner, getControllerOf pod.ownerReferences = some owner ∧ owner.apiVersion = appsGroupVersion ∧
    ((owner.kind = ref.kind ∧ owner.name = ref.name ∧ owner.uid = uid) ∨
      (owner.kind = "ReplicaSet" ∧ ref.kind = workloadKindDeployment ∧
        ∃ rs, cl.replicaSets.lookup ⟨pod.ns, owner.name⟩ = some rs ∧ rs.uid = owner.uid ∧
          ∃ c, getControllerOf rs.ownerReferences = some c ∧ c.apiVersion = appsGroupVersion ∧
            c.kind = workloadKindDeployment ∧ c.name = ref.name ∧ c.uid = uid))

/-- What is seen of a replica set, beyond its key. -/
def replicaSetView (rs : ReplicaSet) : String × List OwnerReference := (rs.uid, rs.ownerReferences)

/-- The owner behind a controller reference to a replica set, from what is seen of the replica set. -/
def ownerBehind (owner : OwnerReference) : Option (String × List OwnerReference) → OwnerReference
  | none => owner
  | some (uid, refs) =>
    if uid ≠ owner.uid then owner
    else
      match getControllerOf refs with
      | some controller =>
        if controller.apiVersion = appsGroupVersion && controller.kind = "Deployment" then controller
        else owner
      | none => owner

/-- The workload owner of a pod, as a function of the cluster. -/
def ownerIn (cl : Cluster) (pod : Pod) : Option OwnerReference :=
  (getControllerOf pod.ownerReferences).map fun owner =>
    if owner.apiVersion ≠ appsGroupVersion || owner.kind ≠ "ReplicaSet" then owner
    else ownerBehind owner ((cl.replicaSets.lookup ⟨pod.ns, owner.name⟩).map replicaSetView)

lemma podWorkloadOwner_eq {cl : Cluster} {r : Reader cl} {pod : Pod} {o : Option OwnerReference}
    (h : podWorkloadOwner r pod = .ok o) : o = ownerIn cl pod := by
  unfold podWorkloadOwner at h
  unfold ownerIn
  split at h
  · rename_i hnone
    rw [hnone]
    exact (Except.ok.inj h).symm
  rename_i owner howner
  rw [howner, Option.map_some]
  split at h
  · rename_i hkind
    rw [if_pos hkind]
    exact (Except.ok.inj h).symm
  rename_i hkind
  rw [if_neg hkind]
  simp only at h
  split at h
  · rename_i err hget
    split at h
    · rename_i hnf
      rw [r.getReplicaSet_gets.notFound hget hnf]
      exact (Except.ok.inj h).symm
    · cases h
  rename_i rs hget
  rw [r.getReplicaSet_gets.ok hget, Option.map_some, replicaSetView, ownerBehind]
  split at h
  · rename_i huid
    rw [if_pos huid]
    exact (Except.ok.inj h).symm
  rename_i huid
  rw [if_neg huid]
  cases hc : getControllerOf rs.ownerReferences with
  | some c =>
    rw [hc] at h
    simp only at h ⊢
    split at h <;> rename_i hdep
    · rw [if_pos hdep]
      exact (Except.ok.inj h).symm
    · rw [if_neg hdep]
      exact (Except.ok.inj h).symm
  | none =>
    rw [hc] at h
    exact (Except.ok.inj h).symm

lemma ownerBehind_cases (owner : OwnerReference) (view : Option (String × List OwnerReference)) :
    ownerBehind owner view = owner ∨ ∃ refs, view = some (owner.uid, refs) ∧
      getControllerOf refs = some (ownerBehind owner view) ∧
      (ownerBehind owner view).kind = workloadKindDeployment := by
  unfold ownerBehind
  split
  · exact .inl rfl
  rename_i uid refs
  split
  · exact .inl rfl
  rename_i huid
  split
  · rename_i c hc
    split
    · rename_i hdep
      simp only [Bool.and_eq_true, decide_eq_true_eq] at hdep
      exact .inr ⟨refs, by rw [not_not.1 huid], hc, hdep.2⟩
    · exact .inl rfl
  · exact .inl rfl

/-- What the owner of a pod is. -/
lemma ownerIn_eq_some {pod : Pod} {o : OwnerReference} (h : ownerIn cl pod = some o) :
    getControllerOf pod.ownerReferences = some o ∨
      (∃ owner rs, getControllerOf pod.ownerReferences = some owner ∧
        owner.apiVersion = appsGroupVersion ∧ owner.kind = "ReplicaSet" ∧
        cl.replicaSets.lookup ⟨pod.ns, owner.name⟩ = some rs ∧ rs.uid = owner.uid ∧
        getControllerOf rs.ownerReferences = some o ∧ o.kind = workloadKindDeployment) := by
  obtain ⟨owner, howner, h⟩ := Option.map_eq_some_iff.1 h
  split at h
  · exact .inl (howner.trans (congrArg some h))
  rename_i hrs
  simp only [Bool.or_eq_true, decide_eq_true_eq, not_or, not_not] at hrs
  rcases ownerBehind_cases owner ((cl.replicaSets.lookup ⟨pod.ns, owner.name⟩).map replicaSetView) with
    hself | ⟨refs, hview, hctl, hkind⟩
  · exact .inl (howner.trans (congrArg some (hself.symm.trans h)))
  · obtain ⟨rs, hlook, hrsview⟩ := Option.map_eq_some_iff.1 hview
    rw [h] at hctl hkind
    rw [← show rs.ownerReferences = refs from congrArg Prod.snd hrsview] at hctl
    exact .inr ⟨owner, rs, howner, hrs.1, hrs.2, hlook, congrArg Prod.fst hrsview, hctl, hkind⟩

/-- **The owner check of a pod is sound** when the target is among the templates. -/
lemma ownedByTarget_of_matches {r : Reader cl} {pod : Pod} {owner : Option OwnerReference}
    {ref : WorkloadTargetRef} {templates : List WorkloadTemplate} {uid : String}
    (howner : podWorkloadOwner r pod = .ok owner) (hfound : ∃ t ∈ templates, t.target = ref)
    (huid : ∀ t ∈ templates, t.target = ref → t.uid = uid)
    (h : podOwnerMatchesTarget owner ref templates = true) : OwnedByTarget cl pod ref uid := by
  unfold podOwnerMatchesTarget at h
  split at h
  · cases h
  rename_i o
  split at h
  · cases h
  rename_i hsame
  simp only [Bool.or_eq_true, decide_eq_true_eq, not_or, not_not] at hsame
  obtain ⟨⟨hapi, hkind⟩, hname⟩ := hsame
  have ho : o.uid = uid := by
    split at h
    · rename_i t ht
      rw [of_decide_eq_true h]
      exact huid t (List.mem_of_find?_eq_some ht) (by simpa using List.find?_some ht)
    · rename_i hnone
      obtain ⟨t, ht, htarget⟩ := hfound
      exact absurd htarget (by simpa using List.find?_eq_none.1 hnone t ht)
  rcases ownerIn_eq_some (podWorkloadOwner_eq howner).symm with
    hdirect | ⟨owner, rs, hc, hapi', hrs, hlook, hrsuid, hctl, hdep⟩
  · exact ⟨o, hdirect, hapi, .inl ⟨hkind, hname, ho⟩⟩
  · exact ⟨owner, hc, hapi', .inr ⟨hrs, hkind.symm.trans hdep, rs, hlook, hrsuid, o, hctl, hapi, hdep, hname, ho⟩⟩

lemma podOverlaps_nil {r : Reader cl} {ref : WorkloadTargetRef} {templates : List WorkloadTemplate}
    {pods : List Pod} (h : podOverlaps r ref templates pods = .ok []) :
    ∀ pod ∈ pods, ∃ owner, podWorkloadOwner r pod = .ok owner ∧
      podOwnerMatchesTarget owner ref templates = true := by
  induction pods with
  | nil => simp
  | cons pod pods ih =>
    unfold podOverlaps at h
    split at h
    · cases h
    rename_i owner howner
    split at h
    · cases h
    rename_i overlaps hrest
    split at h
    · rename_i hmatch
      rw [Except.ok.inj h] at hrest
      intro p hp
      rcases List.mem_cons.1 hp with rfl | hp
      · exact ⟨owner, howner, hmatch⟩
      · exact ih hrest p hp
    · cases h

/-! ## The verdict -/

/-- What a `Ready` verdict says about the cluster, for the selector that was checked. -/
structure InScope (cl : Cluster) (wnp : WorkloadNetworkPolicy) (selector : Labels → Bool) (d : Workload) :
    Prop where
  /-- The target exists and its template is selected. -/
  target : HasWorkload cl wnp.ns wnp.spec.targetRef.kind d
  name : d.name = wnp.spec.targetRef.name
  selected : selector d.templateLabels = true
  /-- No other workload of the namespace is selected. -/
  others {kind : WorkloadKind} {d' : Workload} : HasWorkload cl wnp.ns kind d' →
    (⟨kind, d'.name⟩ : WorkloadTargetRef) ≠ wnp.spec.targetRef → selector d'.templateLabels = false
  /-- Every selected pod of the namespace belongs to the target. -/
  pods {pod : Pod} : pod ∈ cl.pods.values → pod.ns = wnp.ns → selector pod.labels = true →
    OwnedByTarget cl pod wnp.spec.targetRef d.uid

/-- The steps of a check that returned. -/
lemma checkSelectorScope_ok {lib : Apimachinery} {r : Reader cl} {wnp : WorkloadNetworkPolicy}
    {c : Condition} (h : checkSelectorScope lib r wnp = .ok c) :
    ∃ spec selector templates overlaps, scopeSelector wnp = .ok spec ∧
      lib.labelSelectorAsSelector spec = .ok selector ∧ workloadTemplates r wnp.ns = .ok templates ∧
      scopeOverlaps r wnp selector templates = .ok overlaps ∧
      c = selectorScopeCondition wnp (matchWorkloadTemplates wnp selector templates).targetFound
        (matchWorkloadTemplates wnp selector templates).targetMatches overlaps := by
  unfold checkSelectorScope at h
  split at h
  · cases h
  rename_i spec hspec
  split at h
  · cases h
  rename_i selector hsel
  split at h
  · cases h
  rename_i templates ht
  split at h
  · cases h
  rename_i overlaps ho
  exact ⟨spec, selector, templates, overlaps, hspec, hsel, ht, ho, (Except.ok.inj h).symm⟩

lemma leastText_eq_none {texts : List String} : leastText texts = none ↔ texts = [] := by
  rw [leastText, List.head?_eq_none_iff]
  constructor
  · intro h
    exact (h ▸ List.perm_insertionSort (· ≤ ·) texts).nil_eq.symm
  · rintro rfl
    rfl

@[simp] lemma selectorScopeCondition_type (wnp : WorkloadNetworkPolicy) (found matched : Bool)
    (overlaps : List String) : (selectorScopeCondition wnp found matched overlaps).type = conditionReady := by
  unfold selectorScopeCondition
  simp only
  split
  · rfl
  split
  · rfl
  split <;> rfl

/-- The one way to a `True` verdict. -/
lemma selectorScopeCondition_true {wnp : WorkloadNetworkPolicy} {found matched : Bool}
    {overlaps : List String}
    (h : (selectorScopeCondition wnp found matched overlaps).status = .conditionTrue) :
    found = true ∧ matched = true ∧ overlaps = [] := by
  unfold selectorScopeCondition at h
  simp only at h
  split at h
  · cases h
  rename_i hfm
  split at h
  · cases h
  rename_i hleast
  split at h
  · cases h
  rename_i hfound
  simp only [Bool.not_eq_true', Bool.not_eq_false] at hfound
  subst hfound
  exact ⟨rfl, by simpa using hfm, leastText_eq_none.1 hleast⟩

lemma selectorScopeCondition_reason {wnp : WorkloadNetworkPolicy} {found matched : Bool}
    {overlaps : List String} :
    (selectorScopeCondition wnp found matched overlaps).reason = reasonSelectorDoesNotMatchTarget ↔
      found = true ∧ matched = false := by
  unfold selectorScopeCondition
  simp only
  split
  · rename_i h
    simpa [readyCondition] using h
  · rename_i h
    have hne : ¬ (found = true ∧ matched = false) := by simpa using h
    simp only [hne, iff_false]
    split
    · exact show reasonSelectorOverlapsWorkload ≠ reasonSelectorDoesNotMatchTarget by decide
    split
    · exact show reasonTargetNotFound ≠ reasonSelectorDoesNotMatchTarget by decide
    · exact show reasonSelectorScopeValid ≠ reasonSelectorDoesNotMatchTarget by decide

/-- **A `True` verdict is sound.** -/
theorem checkSelectorScope_true {lib : Apimachinery} {r : Reader cl} {wnp : WorkloadNetworkPolicy}
    {c : Condition} (h : checkSelectorScope lib r wnp = .ok c) (hc : c.status = .conditionTrue) :
    ∃ spec selector d, scopeSelector wnp = .ok spec ∧ lib.labelSelectorAsSelector spec = .ok selector ∧
      InScope cl wnp selector d := by
  obtain ⟨spec, selector, templates, overlaps, hspec, hsel, htemplates, hoverlaps, rfl⟩ :=
    checkSelectorScope_ok h
  obtain ⟨hfound, hmatch, rfl⟩ := selectorScopeCondition_true hc
  have hmem := @mem_workloadTemplates _ _ _ _ htemplates
  -- the overlaps are empty, so both the templates and the pods were looked at
  have hnil : (matchWorkloadTemplates wnp selector templates).overlaps = [] ∧
      podSelectorOverlaps r wnp selector templates = .ok [] := by
    unfold scopeOverlaps at hoverlaps
    simp only at hoverlaps
    split at hoverlaps
    · rename_i hcond
      simp only [Bool.and_eq_true, decide_eq_true_eq] at hcond
      exact ⟨hcond.1, hoverlaps⟩
    · rename_i hcond
      exact absurd (by simp [Except.ok.inj hoverlaps, hmatch]) hcond
  obtain ⟨t, ht, htarget⟩ := ((foldl_matchTemplate_found wnp selector templates {}).1 hfound).resolve_left
    (by simp)
  obtain ⟨kind, d, hd, rfl⟩ := hmem.1 ht
  have hkind : kind = wnp.spec.targetRef.kind := congrArg WorkloadTargetRef.kind htarget
  have hname : d.name = wnp.spec.targetRef.name := congrArg WorkloadTargetRef.name htarget
  subst hkind
  have hall : ∀ t' ∈ templates, t'.target = wnp.spec.targetRef →
      t' = templateOf wnp.spec.targetRef.kind d :=
    fun t' ht' htarget' => eq_templateOf_of_target htemplates hd hname ht' htarget'
  have hselected := foldl_matchTemplate_matches wnp selector (b := selector d.templateLabels) templates {}
    fun t' ht' htarget' => by rw [hall t' ht' htarget']; rfl
  rw [if_pos ⟨_, ht, htarget⟩] at hselected
  refine ⟨spec, selector, d, hspec, hsel, hd, hname, hselected.symm.trans hmatch, ?_, ?_⟩
  · intro kind' d' hd' hne
    exact ((foldl_matchTemplate_overlaps wnp selector templates {}).1 hnil.1).2 _
      (hmem.2 ⟨kind', d', hd', rfl⟩) hne
  · intro pod hpod hns hlabels
    have hpods := hnil.2
    unfold podSelectorOverlaps at hpods
    split at hpods
    · cases hpods
    rename_i pods hlist
    have hin : pod ∈ pods := by
      rw [(r.listPods_lists _ _ _ hlist).mem_iff, List.mem_filter]
      exact ⟨hpod, by simp [hns, hlabels]⟩
    obtain ⟨owner, howner, hok⟩ := podOverlaps_nil hpods pod hin
    exact ownedByTarget_of_matches howner ⟨_, ht, htarget⟩
      (fun t' ht' htarget' => by rw [hall t' ht' htarget']; rfl) hok

/-- **A target that is not selected is reported**, before anything else. -/
theorem checkSelectorScope_mismatch {lib : Apimachinery} {r : Reader cl} {wnp : WorkloadNetworkPolicy}
    {c : Condition} {spec : LabelSelector} {selector : Labels → Bool} {d : Workload}
    (h : checkSelectorScope lib r wnp = .ok c) (hspec : scopeSelector wnp = .ok spec)
    (hsel : lib.labelSelectorAsSelector spec = .ok selector)
    (hd : HasWorkload cl wnp.ns wnp.spec.targetRef.kind d) (hname : d.name = wnp.spec.targetRef.name)
    (hmis : selector d.templateLabels = false) : c.reason = reasonSelectorDoesNotMatchTarget := by
  obtain ⟨spec', selector', templates, overlaps, hspec', hsel', htemplates, -, rfl⟩ := checkSelectorScope_ok h
  obtain rfl := Except.ok.inj (hspec'.symm.trans hspec)
  obtain rfl := Except.ok.inj (hsel'.symm.trans hsel)
  have hmem := @mem_workloadTemplates _ _ _ _ htemplates
  have htarget : (templateOf wnp.spec.targetRef.kind d).target = wnp.spec.targetRef :=
    congrArg (WorkloadTargetRef.mk wnp.spec.targetRef.kind) hname
  have hex : ∃ t ∈ templates, t.target = wnp.spec.targetRef := ⟨_, hmem.2 ⟨_, d, hd, rfl⟩, htarget⟩
  have hmatched := foldl_matchTemplate_matches wnp selector' (b := false) templates {} fun t' ht' htarget' => by
    rw [eq_templateOf_of_target htemplates hd hname ht' htarget']
    exact hmis
  rw [if_pos hex] at hmatched
  exact selectorScopeCondition_reason.2
    ⟨(foldl_matchTemplate_found wnp selector' templates {}).2 (.inr hex), hmatched⟩

/-! ## The converse -/

/-- A pod of the target passes the owner check; `ReplicaSet` is no kind of target. -/
lemma podOwnerMatchesTarget_of_ownedByTarget {r : Reader cl} {pod : Pod} {owner : Option OwnerReference}
    {ref : WorkloadTargetRef} {templates : List WorkloadTemplate} {uid : String}
    (howner : podWorkloadOwner r pod = .ok owner) (hkind : ref.kind ≠ "ReplicaSet")
    (huid : ∀ t ∈ templates, t.target = ref → t.uid = uid) (h : OwnedByTarget cl pod ref uid) :
    podOwnerMatchesTarget owner ref templates = true := by
  have hmatch : ∀ o : OwnerReference, o.apiVersion = appsGroupVersion → o.kind = ref.kind → o.name = ref.name →
      o.uid = uid → podOwnerMatchesTarget (some o) ref templates = true := by
    intro o hapi hk hn hu
    simp only [podOwnerMatchesTarget, hapi, hk, hn, ne_eq, not_true_eq_false, decide_false, Bool.or_false,
      Bool.false_eq_true, if_false]
    cases hfind : templates.find? (·.target = ref) with
    | none => rfl
    | some t =>
      have ht := huid t (List.mem_of_find?_eq_some hfind) (by simpa using List.find?_some hfind)
      exact decide_eq_true (hu.trans ht.symm)
  obtain ⟨o, hctl, hapi, hcase⟩ := h
  rw [podWorkloadOwner_eq howner, ownerIn, hctl, Option.map_some]
  rcases hcase with ⟨hk, hn, hu⟩ | ⟨hk, href, rs, hlook, hrs, c, hc, hcapi, hckind, hcname, hcuid⟩
  · rw [if_pos (by simp [hk, hkind])]
    exact hmatch o hapi hk hn hu
  · rw [if_neg (by simp [hk, hapi]), hlook, Option.map_some, replicaSetView, ownerBehind, if_neg (not_not.2 hrs), hc]
    simp only [hcapi, hckind]
    rw [if_pos (by decide)]
    exact hmatch c hcapi (hckind.trans href.symm) hcname hcuid

lemma podOverlaps_eq_nil {r : Reader cl} {ref : WorkloadTargetRef} {templates : List WorkloadTemplate}
    {pods : List Pod} {overlaps : List String} (h : podOverlaps r ref templates pods = .ok overlaps)
    (hall : ∀ pod ∈ pods, ∀ owner, podWorkloadOwner r pod = .ok owner →
      podOwnerMatchesTarget owner ref templates = true) : overlaps = [] := by
  induction pods generalizing overlaps with
  | nil => exact (Except.ok.inj h).symm
  | cons pod pods ih =>
    unfold podOverlaps at h
    split at h
    · cases h
    rename_i owner howner
    split at h
    · cases h
    rename_i rest hrest
    rw [if_pos (hall pod (List.mem_cons_self ..) owner howner)] at h
    obtain rfl := Except.ok.inj h
    exact ih hrest fun p hp => hall p (List.mem_cons_of_mem _ hp)

/-- **A `True` verdict is complete**: a policy in scope gets no other verdict. -/
theorem checkSelectorScope_of_inScope {lib : Apimachinery} {r : Reader cl} {wnp : WorkloadNetworkPolicy}
    {c : Condition} {spec : LabelSelector} {selector : Labels → Bool} {d : Workload}
    (h : checkSelectorScope lib r wnp = .ok c) (hspec : scopeSelector wnp = .ok spec)
    (hsel : lib.labelSelectorAsSelector spec = .ok selector) (hin : InScope cl wnp selector d) :
    c.status = .conditionTrue := by
  obtain ⟨spec', selector', templates, overlaps, hspec', hsel', htemplates, hoverlaps, rfl⟩ :=
    checkSelectorScope_ok h
  obtain rfl := Except.ok.inj (hspec'.symm.trans hspec)
  obtain rfl := Except.ok.inj (hsel'.symm.trans hsel)
  have hmem := @mem_workloadTemplates _ _ _ _ htemplates
  have htarget : (templateOf wnp.spec.targetRef.kind d).target = wnp.spec.targetRef :=
    congrArg (WorkloadTargetRef.mk wnp.spec.targetRef.kind) hin.name
  have hex : ∃ t ∈ templates, t.target = wnp.spec.targetRef := ⟨_, hmem.2 ⟨_, d, hin.target, rfl⟩, htarget⟩
  have hall : ∀ t' ∈ templates, t'.target = wnp.spec.targetRef → t' = templateOf wnp.spec.targetRef.kind d :=
    fun t' ht' htarget' => eq_templateOf_of_target htemplates hin.target hin.name ht' htarget'
  have hfound : (matchWorkloadTemplates wnp selector' templates).targetFound = true :=
    (foldl_matchTemplate_found wnp selector' templates {}).2 (.inr hex)
  have hmatched : (matchWorkloadTemplates wnp selector' templates).targetMatches = true := by
    have hm := foldl_matchTemplate_matches wnp selector' (b := true) templates {} fun t' ht' htarget' => by
      rw [hall t' ht' htarget']
      exact hin.selected
    rw [if_pos hex] at hm
    exact hm
  have hnil : (matchWorkloadTemplates wnp selector' templates).overlaps = [] := by
    refine (foldl_matchTemplate_overlaps wnp selector' templates {}).2 ⟨rfl, fun t ht hne => ?_⟩
    obtain ⟨kind, d', hd', rfl⟩ := hmem.1 ht
    exact hin.others hd' hne
  have hkind : wnp.spec.targetRef.kind ≠ "ReplicaSet" := by
    rcases hin.target.2 with ⟨hk, -⟩ | ⟨hk, -⟩ | ⟨hk, -⟩ <;> rw [hk] <;> decide
  -- neither the templates nor the pods overlap
  unfold scopeOverlaps at hoverlaps
  simp only [hnil, hfound, hmatched] at hoverlaps
  rw [if_pos (by decide)] at hoverlaps
  unfold podSelectorOverlaps at hoverlaps
  split at hoverlaps
  · cases hoverlaps
  rename_i pods hlist
  obtain rfl := podOverlaps_eq_nil hoverlaps fun pod hpod owner howner => by
    rw [(r.listPods_lists _ _ _ hlist).mem_iff, List.mem_filter, Bool.and_eq_true, decide_eq_true_eq] at hpod
    obtain ⟨hpod, hns, hlabels⟩ := hpod
    refine podOwnerMatchesTarget_of_ownedByTarget howner hkind (fun t ht hte => ?_) (hin.pods hpod hns hlabels)
    rw [hall t ht hte]
    rfl
  rw [hfound, hmatched]
  simp [selectorScopeCondition, leastText_eq_none.2, readyCondition]

end NetworkEnforcer.Reconcile
