import NetworkEnforcer.Reconcile.Scope
import NetworkEnforcer.Reconcile.Watches

/-!
# No scope verdict goes stale

The scope checks read little of the objects they look at: of a workload its UID and the labels of its
template, of a replica set its UID and owners, of a pod its labels and owners.  Two clusters with the
same view of all objects get the same verdict (`checkSelectorScope_congr`, `checkRetainedPolicyScope_congr`),
whatever the order of the lists.  The predicates of the watches compare these parts, directly or through
the generation, so an update they reject keeps the view, and what they accept is mapped to every policy of
the namespace (`scope_verdicts_fresh`).
-/

namespace NetworkEnforcer.Reconcile

open NetworkEnforcer.Lib NetworkEnforcer.Api NetworkEnforcer.Workload

/-! ## Views -/

/-- What a scope check can see of a workload, beyond its key. -/
def workloadView (w : Workload) : String × (String → Option String) :=
  (w.uid, fun k => w.templateLabels.lookup k)

def podView (p : Pod) : (String → Option String) × List OwnerReference :=
  (fun k => p.labels.lookup k, p.ownerReferences)

/-- The two clusters look alike to the scope checks. -/
structure SameView (cl cl' : Cluster) : Prop where
  deployments : Store.SameBy workloadView cl.deployments cl'.deployments
  statefulSets : Store.SameBy workloadView cl.statefulSets cl'.statefulSets
  daemonSets : Store.SameBy workloadView cl.daemonSets cl'.daemonSets
  replicaSets : Store.SameBy replicaSetView cl.replicaSets cl'.replicaSets
  pods : Store.SameBy podView cl.pods cl'.pods
  networkPolicies : cl.networkPolicies = cl'.networkPolicies
  authorizationPolicies : cl.authorizationPolicies = cl'.authorizationPolicies

lemma SameView.symm {cl cl' : Cluster} (h : SameView cl cl') : SameView cl' cl where
  deployments := h.deployments.symm
  statefulSets := h.statefulSets.symm
  daemonSets := h.daemonSets.symm
  replicaSets := h.replicaSets.symm
  pods := h.pods.symm
  networkPolicies := h.networkPolicies.symm
  authorizationPolicies := h.authorizationPolicies.symm

/-- A selector that reads labels by looking them up. -/
def Extensional (selector : Labels → Bool) : Prop :=
  ∀ ls ls' : Labels, (∀ k, ls.lookup k = ls'.lookup k) → selector ls = selector ls'

/-- `Matches` of every selector asks a label set for `Has` and `Get` only. -/
def LooksUpLabels (lib : Apimachinery) : Prop :=
  ∀ spec selector, lib.labelSelectorAsSelector spec = .ok selector → Extensional selector

/-! ## Templates -/

/-- Every template of the one list has its like in the other. -/
def TemplatesLike (ts ts' : List WorkloadTemplate) : Prop :=
  ∀ t ∈ ts, ∃ t' ∈ ts', t'.target = t.target ∧ t'.uid = t.uid ∧ ∀ k, t'.labels.lookup k = t.labels.lookup k

/-- A target has one template. -/
def TargetsUnique (ts : List WorkloadTemplate) : Prop :=
  ∀ t ∈ ts, ∀ t' ∈ ts, t.target = t'.target → t = t'

lemma SameView.exists_workload {cl cl' : Cluster} (h : SameView cl cl') {ns : String} {kind : WorkloadKind}
    {d : Workload} (hd : HasWorkload cl ns kind d) :
    ∃ d', HasWorkload cl' ns kind d' ∧ d'.name = d.name ∧ workloadView d' = workloadView d := by
  obtain ⟨hns, hk⟩ := hd
  have hstep : ∀ {s s' : Store Workload.key}, Store.SameBy workloadView s s' → d ∈ s.values →
      ∃ d' ∈ s'.values, d'.ns = ns ∧ d'.name = d.name ∧ workloadView d' = workloadView d := by
    intro s s' hs hmem
    obtain ⟨d', hd', hkey, hview⟩ := hs.exists_like hmem
    exact ⟨d', hd', (congrArg NamespacedName.ns hkey).trans hns, congrArg NamespacedName.name hkey, hview⟩
  rcases hk with ⟨rfl, hmem⟩ | ⟨rfl, hmem⟩ | ⟨rfl, hmem⟩
  · obtain ⟨d', hd', hns', hrest⟩ := hstep h.deployments hmem
    exact ⟨d', ⟨hns', .inl ⟨rfl, hd'⟩⟩, hrest⟩
  · obtain ⟨d', hd', hns', hrest⟩ := hstep h.statefulSets hmem
    exact ⟨d', ⟨hns', .inr (.inl ⟨rfl, hd'⟩)⟩, hrest⟩
  · obtain ⟨d', hd', hns', hrest⟩ := hstep h.daemonSets hmem
    exact ⟨d', ⟨hns', .inr (.inr ⟨rfl, hd'⟩)⟩, hrest⟩

section Templates

variable {cl cl' : Cluster} {r : Reader cl} {r' : Reader cl'} {ns : String} {ts ts' : List WorkloadTemplate}

lemma SameView.templatesLike (h : SameView cl cl') (hts : workloadTemplates r ns = .ok ts)
    (hts' : workloadTemplates r' ns = .ok ts') : TemplatesLike ts ts' := by
  intro t ht
  obtain ⟨kind, d, hd, rfl⟩ := (mem_workloadTemplates hts).1 ht
  obtain ⟨d', hd', hname, hview⟩ := h.exists_workload hd
  refine ⟨templateOf kind d', (mem_workloadTemplates hts').2 ⟨kind, d', hd', rfl⟩, ?_, ?_, ?_⟩
  · exact congrArg (WorkloadTargetRef.mk kind) hname
  · exact congrArg Prod.fst hview
  · exact fun k => congrFun (congrArg Prod.snd hview) k

lemma targetsUnique_of_ok (hts : workloadTemplates r ns = .ok ts) : TargetsUnique ts := by
  intro t ht t' ht' htarget
  obtain ⟨kind, d, hd, rfl⟩ := (mem_workloadTemplates hts).1 ht
  have htarget' : t'.target = ⟨kind, d.name⟩ := htarget.symm
  exact (eq_templateOf_of_target hts hd rfl ht' htarget').symm

end Templates

/-! ## The loop over the templates -/

section Match

variable (wnp : WorkloadNetworkPolicy) {selector : Labels → Bool} {ts ts' : List WorkloadTemplate}

lemma mem_foldl_matchTemplate_overlaps (m : TemplateMatch) {x : String} :
    x ∈ (ts.foldl (matchTemplate wnp selector) m).overlaps ↔ x ∈ m.overlaps ∨
      ∃ t ∈ ts, t.target ≠ wnp.spec.targetRef ∧ selector t.labels = true ∧
        x = "workload " ++ workloadText t.target.kind wnp.ns t.target.name := by
  induction ts generalizing m with
  | nil => simp
  | cons t ts ih =>
    rw [List.foldl_cons, ih, List.exists_mem_cons_iff]
    unfold matchTemplate
    split
    · simp [*]
    · split <;> simp [*, or_assoc]

lemma TemplatesLike.mem_overlaps (h : TemplatesLike ts ts') (hsel : Extensional selector) {x : String}
    (hx : x ∈ (matchWorkloadTemplates wnp selector ts).overlaps) :
    x ∈ (matchWorkloadTemplates wnp selector ts').overlaps := by
  obtain ⟨t, ht, hne, hmatch, rfl⟩ := ((mem_foldl_matchTemplate_overlaps wnp {}).1 hx).resolve_left
    List.not_mem_nil
  obtain ⟨t', ht', htarget, -, hlabels⟩ := h t ht
  refine (mem_foldl_matchTemplate_overlaps wnp {}).2 (.inr ⟨t', ht', ?_, ?_, ?_⟩)
  · rw [htarget]
    exact hne
  · rw [hsel _ _ hlabels]
    exact hmatch
  · rw [htarget]

lemma TemplatesLike.exists_target (h : TemplatesLike ts ts') {ref : WorkloadTargetRef}
    (ht : ∃ t ∈ ts, t.target = ref) : ∃ t ∈ ts', t.target = ref := by
  obtain ⟨t, ht, rfl⟩ := ht
  obtain ⟨t', ht', htarget, -⟩ := h t ht
  exact ⟨t', ht', htarget⟩

/-- **The loop sees the view only.** -/
lemma matchWorkloadTemplates_congr (h : TemplatesLike ts ts') (h' : TemplatesLike ts' ts)
    (hu : TargetsUnique ts) (hu' : TargetsUnique ts') (hsel : Extensional selector) :
    (matchWorkloadTemplates wnp selector ts).targetFound =
        (matchWorkloadTemplates wnp selector ts').targetFound ∧
      (matchWorkloadTemplates wnp selector ts).targetMatches =
        (matchWorkloadTemplates wnp selector ts').targetMatches ∧
      ∀ x, x ∈ (matchWorkloadTemplates wnp selector ts).overlaps ↔
        x ∈ (matchWorkloadTemplates wnp selector ts').overlaps := by
  refine ⟨?_, ?_, fun x => ⟨h.mem_overlaps wnp hsel, h'.mem_overlaps wnp hsel⟩⟩
  · rw [Bool.eq_iff_iff]
    unfold matchWorkloadTemplates
    rw [foldl_matchTemplate_found, foldl_matchTemplate_found]
    exact or_congr_right ⟨h.exists_target, h'.exists_target⟩
  · unfold matchWorkloadTemplates
    by_cases hex : ∃ t ∈ ts, t.target = wnp.spec.targetRef
    · obtain ⟨t, ht, htarget⟩ := hex
      obtain ⟨t', ht', htarget', -, hlabels⟩ := h t ht
      -- both lists have one template of the target, and the selector answers alike on the two
      have hone : ∀ x ∈ ts, x.target = wnp.spec.targetRef → selector x.labels = selector t.labels :=
        fun x hx hxt => by rw [hu x hx t ht (hxt.trans htarget.symm)]
      have hone' : ∀ x ∈ ts', x.target = wnp.spec.targetRef → selector x.labels = selector t.labels := by
        intro x hx hxt
        rw [hu' x hx t' ht' (hxt.trans (htarget'.trans htarget).symm)]
        exact hsel _ _ hlabels
      rw [foldl_matchTemplate_matches wnp selector ts {} hone,
        foldl_matchTemplate_matches wnp selector ts' {} hone', if_pos ⟨t, ht, htarget⟩,
        if_pos ⟨t', ht', htarget'.trans htarget⟩]
    · have hex' : ¬ ∃ t ∈ ts', t.target = wnp.spec.targetRef := fun hx => hex (h'.exists_target hx)
      rw [foldl_matchTemplate_matches (b := false) wnp selector ts {}
          (fun t ht htarget => absurd ⟨t, ht, htarget⟩ hex),
        foldl_matchTemplate_matches (b := false) wnp selector ts' {}
          (fun t ht htarget => absurd ⟨t, ht, htarget⟩ hex'), if_neg hex, if_neg hex']

lemma TemplatesLike.podOwnerMatchesTarget (h : TemplatesLike ts ts') (hu' : TargetsUnique ts')
    {owner : Option OwnerReference} {ref : WorkloadTargetRef}
    (hm : podOwnerMatchesTarget owner ref ts' = true) : podOwnerMatchesTarget owner ref ts = true := by
  cases owner with
  | none => exact hm
  | some o =>
    unfold Reconcile.podOwnerMatchesTarget at hm ⊢
    simp only at hm ⊢
    split
    · rename_i hne
      rw [if_pos hne] at hm
      exact hm
    · rename_i hne
      rw [if_neg hne] at hm
      split
      · rename_i t hfind
        have htarget : t.target = ref := by simpa using List.find?_some hfind
        obtain ⟨t', ht', htarget', huid, -⟩ := h t (List.mem_of_find?_eq_some hfind)
        split at hm
        · rename_i t'' hfind'
          have htarget'' : t''.target = ref := by simpa using List.find?_some hfind'
          rw [hu' t'' (List.mem_of_find?_eq_some hfind') t' ht'
            (htarget''.trans (htarget'.trans htarget).symm), huid] at hm
          exact hm
        · rename_i hnone
          exact absurd (htarget'.trans htarget) (by simpa using List.find?_eq_none.1 hnone t' ht')
      · rfl

end Match

/-! ## Pods -/

lemma SameView.ownerIn_eq {cl cl' : Cluster} (h : SameView cl cl') {pod pod' : Pod}
    (hkey : pod'.key = pod.key) (hview : podView pod' = podView pod) : ownerIn cl' pod' = ownerIn cl pod := by
  unfold ownerIn
  rw [show pod'.ownerReferences = pod.ownerReferences from congrArg Prod.snd hview,
    show pod'.ns = pod.ns from congrArg NamespacedName.ns hkey]
  simp only [h.replicaSets _]

lemma mem_podOverlaps {cl : Cluster} {r : Reader cl} {ref : WorkloadTargetRef} {ts : List WorkloadTemplate}
    {pods : List Pod} {texts : List String} (h : podOverlaps r ref ts pods = .ok texts) {x : String} :
    x ∈ texts ↔ ∃ pod ∈ pods, podOwnerMatchesTarget (ownerIn cl pod) ref ts = false ∧
      x = podText pod (ownerIn cl pod) := by
  induction pods generalizing texts with
  | nil =>
    rw [← Except.ok.inj h]
    simp
  | cons pod pods ih =>
    unfold podOverlaps at h
    split at h
    · cases h
    rename_i owner howner
    obtain rfl := podWorkloadOwner_eq howner
    split at h
    · cases h
    rename_i rest hrest
    rw [List.exists_mem_cons_iff, ← ih hrest]
    split at h
    · rename_i hmatch
      rw [← Except.ok.inj h, hmatch]
      simp
    · rename_i hmatch
      rw [← Except.ok.inj h, List.mem_cons, Bool.eq_false_of_not_eq_true hmatch]
      simp

lemma mem_podSelectorOverlaps {cl : Cluster} {r : Reader cl} {wnp : WorkloadNetworkPolicy}
    {selector : Labels → Bool} {ts : List WorkloadTemplate} {texts : List String}
    (h : podSelectorOverlaps r wnp selector ts = .ok texts) {x : String} :
    x ∈ texts ↔ ∃ pod ∈ cl.pods.values, (pod.ns = wnp.ns ∧ selector pod.labels = true) ∧
      podOwnerMatchesTarget (ownerIn cl pod) wnp.spec.targetRef ts = false ∧
      x = podText pod (ownerIn cl pod) := by
  unfold podSelectorOverlaps at h
  split at h
  · cases h
  rename_i pods hlist
  rw [mem_podOverlaps h]
  simp only [(r.listPods_lists _ _ _ hlist).mem_iff, List.mem_filter, Bool.and_eq_true, decide_eq_true_eq,
    and_assoc]

section Pods

variable {cl cl' : Cluster} {r : Reader cl} {r' : Reader cl'} {wnp : WorkloadNetworkPolicy}
  {selector : Labels → Bool} {ts ts' : List WorkloadTemplate} {texts texts' : List String}

lemma SameView.mem_podSelectorOverlaps (h : SameView cl cl') (hsel : Extensional selector)
    (hts : TemplatesLike ts ts') (hu' : TargetsUnique ts')
    (hr : podSelectorOverlaps r wnp selector ts = .ok texts)
    (hr' : podSelectorOverlaps r' wnp selector ts' = .ok texts') {x : String} (hx : x ∈ texts) :
    x ∈ texts' := by
  obtain ⟨pod, hpod, ⟨hns, hlabels⟩, hmatch, rfl⟩ := (Reconcile.mem_podSelectorOverlaps hr).1 hx
  obtain ⟨pod', hpod', hkey, hview⟩ := h.pods.exists_like hpod
  have howner := h.ownerIn_eq hkey hview
  have hns' : pod'.ns = pod.ns := congrArg NamespacedName.ns hkey
  refine (Reconcile.mem_podSelectorOverlaps hr').2 ⟨pod', hpod', ⟨hns'.trans hns, ?_⟩, ?_, ?_⟩
  · rw [hsel _ _ fun k => congrFun (congrArg Prod.fst hview) k]
    exact hlabels
  · rw [howner]
    by_contra hm
    rw [hts.podOwnerMatchesTarget hu' (Bool.eq_true_of_not_eq_false hm)] at hmatch
    cases hmatch
  · unfold podText
    rw [howner, hns', show pod'.name = pod.name from congrArg NamespacedName.name hkey]

lemma SameView.mem_podSelectorOverlaps_iff (h : SameView cl cl') (hsel : Extensional selector)
    (hts : workloadTemplates r wnp.ns = .ok ts) (hts' : workloadTemplates r' wnp.ns = .ok ts')
    (hr : podSelectorOverlaps r wnp selector ts = .ok texts)
    (hr' : podSelectorOverlaps r' wnp selector ts' = .ok texts') (x : String) : x ∈ texts ↔ x ∈ texts' :=
  ⟨h.mem_podSelectorOverlaps hsel (h.templatesLike hts hts') (targetsUnique_of_ok hts') hr hr',
    h.symm.mem_podSelectorOverlaps hsel (h.symm.templatesLike hts' hts) (targetsUnique_of_ok hts) hr' hr⟩

/-- Where both sides decide alike whether pods are looked at, they list the same. -/
lemma SameView.mem_overlaps_iff (h : SameView cl cl') (hsel : Extensional selector)
    (hts : workloadTemplates r wnp.ns = .ok ts) (hts' : workloadTemplates r' wnp.ns = .ok ts')
    {c : Prop} [Decidable c] {found found' : List String} (hfound : ∀ x, x ∈ found ↔ x ∈ found')
    (hr : (if c then podSelectorOverlaps r wnp selector ts else .ok found) = .ok texts)
    (hr' : (if c then podSelectorOverlaps r' wnp selector ts' else .ok found') = .ok texts') (x : String) :
    x ∈ texts ↔ x ∈ texts' := by
  by_cases hc : c
  · rw [if_pos hc] at hr hr'
    exact h.mem_podSelectorOverlaps_iff hsel hts hts' hr hr' x
  · rw [if_neg hc] at hr hr'
    rw [← Except.ok.inj hr, ← Except.ok.inj hr']
    exact hfound x

end Pods

/-! ## Verdicts -/

lemma leastText_eq_some {texts : List String} {a : String} (h : leastText texts = some a) :
    a ∈ texts ∧ ∀ b ∈ texts, a ≤ b := by
  have hperm := List.perm_insertionSort (· ≤ ·) texts
  have hsorted := List.pairwise_insertionSort (· ≤ ·) texts
  obtain ⟨rest, hl⟩ := List.head?_eq_some_iff.1 h
  rw [hl] at hperm hsorted
  refine ⟨hperm.mem_iff.1 (List.mem_cons_self ..), fun b hb => ?_⟩
  rcases List.mem_cons.1 (hperm.mem_iff.2 hb) with rfl | hb
  · exact le_rfl
  · exact (List.pairwise_cons.1 hsorted).1 b hb

/-- The least text depends on which texts there are. -/
lemma leastText_congr {texts texts' : List String} (h : ∀ x, x ∈ texts ↔ x ∈ texts') :
    leastText texts = leastText texts' := by
  cases hl : leastText texts with
  | none =>
    rw [leastText_eq_none] at hl
    rw [eq_comm, leastText_eq_none, List.eq_nil_iff_forall_not_mem]
    intro x hx
    rw [hl] at h
    exact List.not_mem_nil ((h x).2 hx)
  | some a =>
    obtain ⟨ha, hmin⟩ := leastText_eq_some hl
    cases hl' : leastText texts' with
    | none =>
      rw [leastText_eq_none] at hl'
      exact absurd ((h a).1 ha) (by simp [hl'])
    | some a' =>
      obtain ⟨ha', hmin'⟩ := leastText_eq_some hl'
      rw [le_antisymm (hmin a' ((h a').2 ha')) (hmin' a ((h a).1 ha))]

lemma eq_nil_congr {texts texts' : List String} (h : ∀ x, x ∈ texts ↔ x ∈ texts') :
    texts = [] ↔ texts' = [] := by
  simp only [List.eq_nil_iff_forall_not_mem, h]

/-! ### Clients that answer -/

namespace Reader.Answers

variable {cl : Cluster} {r : Reader cl}

lemma exists_templates (ha : r.Answers) (ns : String) : ∃ ts, workloadTemplates r ns = .ok ts := by
  obtain ⟨deployments, hd⟩ := ha.listDeployments ns
  obtain ⟨statefulSets, hs⟩ := ha.listStatefulSets ns
  obtain ⟨daemonSets, hds⟩ := ha.listDaemonSets ns
  simp only [workloadTemplates, hd, hs, hds]
  exact ⟨_, rfl⟩

lemma exists_podOwner (ha : r.Answers) (pod : Pod) : ∃ o, podWorkloadOwner r pod = .ok o := by
  unfold podWorkloadOwner
  split
  · exact ⟨_, rfl⟩
  split
  · exact ⟨_, rfl⟩
  simp only
  split
  · rename_i err hget
    rw [if_pos (ha.getReplicaSet hget)]
    exact ⟨_, rfl⟩
  split
  · exact ⟨_, rfl⟩
  split
  · split <;> exact ⟨_, rfl⟩
  · exact ⟨_, rfl⟩

lemma exists_podOverlaps (ha : r.Answers) (ref : WorkloadTargetRef) (ts : List WorkloadTemplate)
    (pods : List Pod) : ∃ texts, podOverlaps r ref ts pods = .ok texts := by
  induction pods with
  | nil => exact ⟨_, rfl⟩
  | cons pod pods ih =>
    obtain ⟨o, ho⟩ := ha.exists_podOwner pod
    obtain ⟨texts, htexts⟩ := ih
    simp only [podOverlaps, ho, htexts]
    split <;> exact ⟨_, rfl⟩

lemma exists_podSelectorOverlaps (ha : r.Answers) (wnp : WorkloadNetworkPolicy) (selector : Labels → Bool)
    (ts : List WorkloadTemplate) : ∃ texts, podSelectorOverlaps r wnp selector ts = .ok texts := by
  obtain ⟨pods, hpods⟩ := ha.listPods wnp.ns selector
  unfold podSelectorOverlaps
  rw [hpods]
  exact ha.exists_podOverlaps _ _ _

lemma exists_retainedSelector (ha : r.Answers) (wnp : WorkloadNetworkPolicy) :
    ∃ o, retainedPolicySelector r wnp = .ok o := by
  unfold retainedPolicySelector
  split
  · split
    · rename_i hget
      rw [if_pos (ha.getNetworkPolicy hget)]
      exact ⟨_, rfl⟩
    · exact ⟨_, rfl⟩
  · split
    · rename_i hget
      rw [if_pos (ha.getAuthorizationPolicy hget)]
      exact ⟨_, rfl⟩
    · exact ⟨_, rfl⟩

/-- The scope check fails on a selector that is missing or invalid, and on nothing else. -/
lemma checkSelectorScope_cases (ha : r.Answers) (lib : Apimachinery) (wnp : WorkloadNetworkPolicy) :
    (∃ c, checkSelectorScope lib r wnp = .ok c) ∨
      ∃ err, ∀ (cl' : Cluster) (r' : Reader cl'), checkSelectorScope lib r' wnp = .error err := by
  cases hspec : scopeSelector wnp with
  | error err => exact .inr ⟨err, fun cl' r' => by simp only [checkSelectorScope, hspec]⟩
  | ok spec =>
    cases hsel : lib.labelSelectorAsSelector spec with
    | error err =>
      exact .inr ⟨.wrap "invalid policy selector" (.other err), fun cl' r' => by
        simp only [checkSelectorScope, hspec, hsel]⟩
    | ok selector =>
      obtain ⟨ts, hts⟩ := ha.exists_templates wnp.ns
      obtain ⟨overlaps, hover⟩ : ∃ overlaps, scopeOverlaps r wnp selector ts = .ok overlaps := by
        unfold scopeOverlaps
        simp only
        split
        · exact ha.exists_podSelectorOverlaps wnp selector ts
        · exact ⟨_, rfl⟩
      left
      simp only [checkSelectorScope, hspec, hsel, hts, hover]
      exact ⟨_, rfl⟩

/-- The retained check fails on an invalid selector of the retained object, and on nothing else. -/
lemma checkRetainedPolicyScope_cases (ha : r.Answers) (lib : Apimachinery) (wnp : WorkloadNetworkPolicy)
    (mismatch : Condition) :
    (∃ c, checkRetainedPolicyScope lib r wnp mismatch = .ok c) ∨
      ∃ spec err, retainedPolicySelector r wnp = .ok (some spec) ∧
        ∀ (cl' : Cluster) (r' : Reader cl'), retainedPolicySelector r' wnp = .ok (some spec) →
          checkRetainedPolicyScope lib r' wnp mismatch = .error err := by
  obtain ⟨o, ho⟩ := ha.exists_retainedSelector wnp
  cases o with
  | none =>
    left
    simp only [checkRetainedPolicyScope, ho]
    exact ⟨_, rfl⟩
  | some spec =>
    cases hsel : lib.labelSelectorAsSelector spec with
    | error err =>
      exact .inr ⟨spec, .wrap "invalid retained policy selector" (.other err), ho, fun cl' r' ho' => by
        simp only [checkRetainedPolicyScope, ho', hsel]⟩
    | ok selector =>
      obtain ⟨ts, hts⟩ := ha.exists_templates wnp.ns
      obtain ⟨overlaps, hover⟩ : ∃ overlaps, retainedOverlaps r wnp selector ts = .ok overlaps := by
        unfold retainedOverlaps
        simp only
        split
        · exact ha.exists_podSelectorOverlaps wnp selector ts
        · exact ⟨_, rfl⟩
      left
      simp only [checkRetainedPolicyScope, ho, hsel, hts, hover]
      split <;> exact ⟨_, rfl⟩

end Reader.Answers

section Verdicts

variable {lib : Apimachinery} {cl cl' : Cluster} {r : Reader cl} {r' : Reader cl'}
  {wnp : WorkloadNetworkPolicy}

/-- **The scope verdict depends on the view of the cluster.** -/
theorem checkSelectorScope_congr (hlib : LooksUpLabels lib) (h : SameView cl cl') {c c' : Condition}
    (hc : checkSelectorScope lib r wnp = .ok c) (hc' : checkSelectorScope lib r' wnp = .ok c') : c = c' := by
  obtain ⟨spec, selector, ts, overlaps, hspec, hselector, hts, hover, rfl⟩ := checkSelectorScope_ok hc
  obtain ⟨spec', selector', ts', overlaps', hspec', hselector', hts', hover', rfl⟩ :=
    checkSelectorScope_ok hc'
  obtain rfl := Except.ok.inj (hspec.symm.trans hspec')
  obtain rfl := Except.ok.inj (hselector.symm.trans hselector')
  have hsel := hlib _ _ hselector
  obtain ⟨hfound, hmatches, hmem⟩ := matchWorkloadTemplates_congr wnp (h.templatesLike hts hts')
    (h.symm.templatesLike hts' hts) (targetsUnique_of_ok hts) (targetsUnique_of_ok hts') hsel
  have hleast : leastText overlaps = leastText overlaps' := by
    apply leastText_congr
    simp only [scopeOverlaps, hfound, hmatches, decide_eq_decide.2 (eq_nil_congr hmem)] at hover hover'
    exact h.mem_overlaps_iff hsel hts hts' hmem hover hover'
  unfold selectorScopeCondition
  rw [hfound, hmatches, hleast]

/-- The selector of the rendered object, as a function of the cluster. -/
def retainedIn (cl : Cluster) (wnp : WorkloadNetworkPolicy) : Option LabelSelector :=
  if wnp.spec.backend = .kubernetes then
    (cl.networkPolicies.lookup wnp.key).bind fun np =>
      if isControlledBy np.ownerReferences wnp.uid then some np.spec.podSelector else none
  else
    (cl.authorizationPolicies.lookup wnp.key).bind fun ap =>
      if isControlledBy ap.ownerReferences wnp.uid then
        some { matchLabels := (ap.spec.selector.map (·.matchLabels)).getD ∅ }
      else none

lemma retainedPolicySelector_eq {o : Option LabelSelector} (h : retainedPolicySelector r wnp = .ok o) :
    o = retainedIn cl wnp := by
  unfold retainedPolicySelector at h
  unfold retainedIn
  split at h <;> rename_i hbackend
  · rw [if_pos hbackend]
    split at h
    · rename_i hget
      split at h
      · rename_i hnf
        rw [r.getNetworkPolicy_gets.notFound hget hnf]
        exact (Except.ok.inj h).symm
      · cases h
    · rename_i hget
      rw [r.getNetworkPolicy_gets.ok hget]
      exact (Except.ok.inj h).symm
  · rw [if_neg hbackend]
    split at h
    · rename_i hget
      split at h
      · rename_i hnf
        rw [r.getAuthorizationPolicy_gets.notFound hget hnf]
        exact (Except.ok.inj h).symm
      · cases h
    · rename_i hget
      rw [r.getAuthorizationPolicy_gets.ok hget]
      exact (Except.ok.inj h).symm

lemma SameView.retainedIn_eq (h : SameView cl cl') : retainedIn cl wnp = retainedIn cl' wnp := by
  unfold retainedIn
  rw [h.networkPolicies, h.authorizationPolicies]

/-- The condition a retained check ends with, from the least overlap. -/
def retainedCondition (wnp : WorkloadNetworkPolicy) (mismatch : Condition) (least : Option String) : Condition :=
  let message := mismatch.message ++
    "; retained policy selector and rules remain unchanged until the selector is corrected"
  match least with
  | some first =>
    readyCondition wnp .conditionFalse reasonSelectorOverlapsWorkload
      ("Retained policy selector also selects " ++ first ++ "; " ++ message)
  | none => readyCondition wnp .conditionFalse reasonSelectorDoesNotMatchTarget message

/-- The steps of a retained check that found an object. -/
lemma checkRetainedPolicyScope_retained {mismatch c : Condition} {spec : LabelSelector}
    (h : checkRetainedPolicyScope lib r wnp mismatch = .ok c)
    (hspec : retainedPolicySelector r wnp = .ok (some spec)) :
    ∃ selector ts overlaps, lib.labelSelectorAsSelector spec = .ok selector ∧
      workloadTemplates r wnp.ns = .ok ts ∧ retainedOverlaps r wnp selector ts = .ok overlaps ∧
      c = retainedCondition wnp mismatch (leastText overlaps) := by
  unfold checkRetainedPolicyScope at h
  rw [hspec] at h
  simp only at h
  split at h
  · cases h
  rename_i selector hsel
  split at h
  · cases h
  rename_i ts hts
  split at h
  · cases h
  rename_i overlaps hover
  refine ⟨selector, ts, overlaps, hsel, hts, hover, ?_⟩
  unfold retainedCondition
  cases hl : leastText overlaps with
  | some first =>
    rw [hl] at h
    exact (Except.ok.inj h).symm
  | none =>
    rw [hl] at h
    exact (Except.ok.inj h).symm

/-- **The retained verdict depends on the view of the cluster.** -/
theorem checkRetainedPolicyScope_congr (hlib : LooksUpLabels lib) (h : SameView cl cl')
    {mismatch c c' : Condition} (hc : checkRetainedPolicyScope lib r wnp mismatch = .ok c)
    (hc' : checkRetainedPolicyScope lib r' wnp mismatch = .ok c') : c = c' := by
  cases hret : retainedPolicySelector r wnp with
  | error err =>
    unfold checkRetainedPolicyScope at hc
    rw [hret] at hc
    cases hc
  | ok o =>
    cases hret' : retainedPolicySelector r' wnp with
    | error err =>
      unfold checkRetainedPolicyScope at hc'
      rw [hret'] at hc'
      cases hc'
    | ok o' =>
      have hoo : o' = o := by
        rw [retainedPolicySelector_eq hret, retainedPolicySelector_eq hret', h.retainedIn_eq]
      subst hoo
      cases o' with
      | none =>
        unfold checkRetainedPolicyScope at hc hc'
        rw [hret] at hc
        rw [hret'] at hc'
        exact Except.ok.inj (hc.symm.trans hc')
      | some spec =>
        obtain ⟨selector, ts, overlaps, hselector, hts, hover, rfl⟩ := checkRetainedPolicyScope_retained hc hret
        obtain ⟨selector', ts', overlaps', hselector', hts', hover', rfl⟩ :=
          checkRetainedPolicyScope_retained hc' hret'
        obtain rfl := Except.ok.inj (hselector.symm.trans hselector')
        have hsel := hlib _ _ hselector
        obtain ⟨-, -, hmem⟩ := matchWorkloadTemplates_congr wnp (h.templatesLike hts hts')
          (h.symm.templatesLike hts' hts) (targetsUnique_of_ok hts) (targetsUnique_of_ok hts') hsel
        rw [leastText_congr]
        simp only [retainedOverlaps, eq_nil_congr hmem] at hover hover'
        exact h.mem_overlaps_iff hsel hts hts' hmem hover hover'

/-- **Clients that answer return the same**, verdict or error. -/
theorem checkSelectorScope_eq (hlib : LooksUpLabels lib) (h : SameView cl cl') (ha : r.Answers)
    (ha' : r'.Answers) : checkSelectorScope lib r wnp = checkSelectorScope lib r' wnp := by
  rcases ha.checkSelectorScope_cases lib wnp with ⟨c, hc⟩ | ⟨err, herr⟩
  · rcases ha'.checkSelectorScope_cases lib wnp with ⟨c', hc'⟩ | ⟨err, herr⟩
    · rw [hc, hc', checkSelectorScope_congr hlib h hc hc']
    · rw [herr, herr]
  · rw [herr, herr]

@[inherit_doc checkSelectorScope_eq]
theorem checkRetainedPolicyScope_eq (hlib : LooksUpLabels lib) (h : SameView cl cl') (ha : r.Answers)
    (ha' : r'.Answers) (mismatch : Condition) :
    checkRetainedPolicyScope lib r wnp mismatch = checkRetainedPolicyScope lib r' wnp mismatch := by
  have hret : retainedPolicySelector r wnp = retainedPolicySelector r' wnp := by
    obtain ⟨o, ho⟩ := ha.exists_retainedSelector wnp
    obtain ⟨o', ho'⟩ := ha'.exists_retainedSelector wnp
    rw [ho, ho', retainedPolicySelector_eq ho, retainedPolicySelector_eq ho', h.retainedIn_eq]
  rcases ha.checkRetainedPolicyScope_cases lib wnp mismatch with ⟨c, hc⟩ | ⟨spec, err, hspec, herr⟩
  · rcases ha'.checkRetainedPolicyScope_cases lib wnp mismatch with ⟨c', hc'⟩ | ⟨spec, err, hspec, herr⟩
    · rw [hc, hc', checkRetainedPolicyScope_congr hlib h hc hc']
    · rw [herr _ r (hret.trans hspec), herr _ r' hspec]
  · rw [herr _ r hspec, herr _ r' (hret.symm.trans hspec)]

end Verdicts

/-! ## Events of the watched objects -/

/-- An event of one of the five watches besides that on policies. -/
inductive WatchedEvent where
  | deployment (e : Event Workload)
  | statefulSet (e : Event Workload)
  | daemonSet (e : Event Workload)
  | replicaSet (e : Event ReplicaSet)
  | pod (e : Event Pod)

namespace WatchedEvent

/-- What predicates and handlers are given: the objects' metadata. -/
def metadata : WatchedEvent → Event ObjectMeta
  | .deployment e | .statefulSet e | .daemonSet e => e.map (·.toObjectMeta)
  | .replicaSet e => e.map (·.toObjectMeta)
  | .pod e => e.map (·.toObjectMeta)

/-- The predicate the watch was set up with. -/
def accepted (e : WatchedEvent) : Bool :=
  match e with
  | .deployment _ | .statefulSet _ | .daemonSet _ => e.metadata.accepts selectorScopeWorkloadChanges
  | .replicaSet _ | .pod _ => e.metadata.accepts selectorScopeMetadataChanges

/-- The namespace of the object. -/
def ns (e : WatchedEvent) : String := e.metadata.object.ns

/-- `workloadHandler`. -/
def requests (list : ListWNPs) (e : WatchedEvent) : List NamespacedName :=
  enqueueRequestsFromMapFunc (policiesForWorkload list) e.metadata

/-- The event is the difference between two clusters. -/
def Between (cl cl' : Cluster) : WatchedEvent → Prop
  | .deployment e => e.Between cl.deployments cl'.deployments ∧ cl' = { cl with deployments := cl'.deployments }
  | .statefulSet e =>
    e.Between cl.statefulSets cl'.statefulSets ∧ cl' = { cl with statefulSets := cl'.statefulSets }
  | .daemonSet e => e.Between cl.daemonSets cl'.daemonSets ∧ cl' = { cl with daemonSets := cl'.daemonSets }
  | .replicaSet e => e.Between cl.replicaSets cl'.replicaSets ∧ cl' = { cl with replicaSets := cl'.replicaSets }
  | .pod e => e.Between cl.pods cl'.pods ∧ cl' = { cl with pods := cl'.pods }

/-- What the API server promises of the update of a workload: for one UID the generation moves with the
specification, of which the checks read the labels of the template. -/
def ServedWorkload (e : Event Workload) : Prop :=
  ∀ old new, e = .update old new → old.uid = new.uid → old.generation = new.generation →
    ∀ k, old.templateLabels.lookup k = new.templateLabels.lookup k

/-- Of replica sets and pods nothing is assumed. -/
def Served : WatchedEvent → Prop
  | .deployment e | .statefulSet e | .daemonSet e => ServedWorkload e
  | .replicaSet _ | .pod _ => True

/-- **Every policy of the namespace is enqueued.** -/
lemma mem_requests {list : ListWNPs} {e : WatchedEvent} {items : List WorkloadNetworkPolicy}
    (hlist : list e.ns = .ok items) {wnp : WorkloadNetworkPolicy} (hw : wnp ∈ items) :
    wnp.key ∈ e.requests list := by
  apply mem_enqueueRequestsFromMapFunc
  unfold policiesForWorkload
  rw [show list e.metadata.object.ns = .ok items from hlist]
  exact List.mem_map_of_mem hw

lemma sameBy_of_workload_rejected {s s' : Store Workload.key} {e : Event Workload} (he : e.Between s s')
    (hserved : ServedWorkload e)
    (hrej : (e.map (·.toObjectMeta)).accepts selectorScopeWorkloadChanges = false) :
    Store.SameBy workloadView s s' := by
  obtain ⟨old, new, rfl, hchanges⟩ := Event.exists_of_accepts_map_eq_false hrej
  obtain ⟨huid, hgen⟩ := selectorScopeWorkloadChanges_eq_false hchanges
  exact he.sameBy (Prod.ext huid (funext (hserved old new rfl huid hgen)))

/-- **A rejected update keeps the view.** -/
lemma sameView_of_rejected {cl cl' : Cluster} {e : WatchedEvent} (he : e.Between cl cl') (hserved : e.Served)
    (hrej : e.accepted = false) : SameView cl cl' := by
  have hrefl : SameView cl cl :=
    { deployments := .refl _ _, statefulSets := .refl _ _, daemonSets := .refl _ _
      replicaSets := .refl _ _, pods := .refl _ _, networkPolicies := rfl, authorizationPolicies := rfl }
  cases e with
  | deployment e =>
    obtain ⟨he, hcl⟩ := he
    rw [hcl]
    exact { hrefl with deployments := sameBy_of_workload_rejected he hserved hrej }
  | statefulSet e =>
    obtain ⟨he, hcl⟩ := he
    rw [hcl]
    exact { hrefl with statefulSets := sameBy_of_workload_rejected he hserved hrej }
  | daemonSet e =>
    obtain ⟨he, hcl⟩ := he
    rw [hcl]
    exact { hrefl with daemonSets := sameBy_of_workload_rejected he hserved hrej }
  | replicaSet e =>
    obtain ⟨he, hcl⟩ := he
    obtain ⟨old, new, rfl, hchanges⟩ := Event.exists_of_accepts_map_eq_false hrej
    obtain ⟨huid, -, howners⟩ := selectorScopeMetadataChanges_eq_false hchanges
    rw [hcl]
    exact { hrefl with replicaSets := he.sameBy (Prod.ext huid howners) }
  | pod e =>
    obtain ⟨he, hcl⟩ := he
    obtain ⟨old, new, rfl, hchanges⟩ := Event.exists_of_accepts_map_eq_false hrej
    obtain ⟨-, hlabels, howners⟩ := selectorScopeMetadataChanges_eq_false hchanges
    rw [hcl]
    exact { hrefl with pods := he.sameBy (Prod.ext (funext hlabels) howners) }

end WatchedEvent

/-- **No scope verdict goes stale because an event was filtered.**  A rejected event changes neither
verdict, for any policy and any order of the lists before and after, and no result at all of a client that
answers; an accepted one enqueues every policy of the namespace. -/
theorem scope_verdicts_fresh {lib : Apimachinery} (hlib : LooksUpLabels lib) {cl cl' : Cluster}
    {e : WatchedEvent} (he : e.Between cl cl') (hserved : e.Served) :
    (e.accepted = false → ∀ (wnp : WorkloadNetworkPolicy) (r : Reader cl) (r' : Reader cl'),
      (∀ c c', checkSelectorScope lib r wnp = .ok c → checkSelectorScope lib r' wnp = .ok c' → c = c') ∧
      (∀ mismatch c c', checkRetainedPolicyScope lib r wnp mismatch = .ok c →
        checkRetainedPolicyScope lib r' wnp mismatch = .ok c' → c = c') ∧
      (r.Answers → r'.Answers → checkSelectorScope lib r wnp = checkSelectorScope lib r' wnp ∧
        ∀ mismatch, checkRetainedPolicyScope lib r wnp mismatch =
          checkRetainedPolicyScope lib r' wnp mismatch)) ∧
    (e.accepted = true → ∀ (list : ListWNPs) (items : List WorkloadNetworkPolicy),
      Lists cl'.wnps (·.ns = e.ns) (list e.ns) → list e.ns = .ok items →
      ∀ wnp ∈ cl'.wnps.values, wnp.ns = e.ns → wnp.key ∈ e.requests list) := by
  constructor
  · intro hrej wnp r r'
    have hview := WatchedEvent.sameView_of_rejected he hserved hrej
    exact ⟨fun _ _ hc hc' => checkSelectorScope_congr hlib hview hc hc',
      fun _ _ _ hc hc' => checkRetainedPolicyScope_congr hlib hview hc hc',
      fun ha ha' => ⟨checkSelectorScope_eq hlib hview ha ha',
        checkRetainedPolicyScope_eq hlib hview ha ha'⟩⟩
  · intro _ list items hlists hlist wnp hw hns
    apply WatchedEvent.mem_requests hlist
    rw [(hlists items hlist).mem_iff, List.mem_filter]
    exact ⟨hw, decide_eq_true hns⟩

lemma looksUpLabels_documented : LooksUpLabels .documented := by
  intro spec selector h ls ls' hls
  simp only [Apimachinery.documented] at h
  split at h
  · cases h
  · rw [← Except.ok.inj h]
    simp only [LabelSelectorRequirement.matches, hls]

/-- A deployment at some version of its status. -/
def rolledOut (version : Nat) : Workload :=
  { ns := "shop", name := "web", uid := "u1", generation := 3, resourceVersion := version,
    templateLabels := AList.singleton "app" "web" }

/-- It alone. -/
def rolledOutCluster (version : Nat) : Cluster := { deployments := (Store.ofList []).put (rolledOut version) }

theorem scope_verdicts_fresh_sample :
    ∃ c, checkSelectorScope .documented (Reader.direct (rolledOutCluster 1)) (ingressPolicy "a" 1) = .ok c ∧
      checkSelectorScope .documented (Reader.direct (rolledOutCluster 2)) (ingressPolicy "a" 1) = .ok c := by
  have he : (WatchedEvent.deployment (.update (rolledOut 1) (rolledOut 2))).Between
      (rolledOutCluster 1) (rolledOutCluster 2) := by
    refine ⟨⟨?_, rfl, rfl, ?_⟩, rfl⟩
    · intro x hx
      rcases List.mem_cons.1 hx with rfl | hx
      · rfl
      · rw [List.mem_singleton.1 hx]
        rfl
    · intro k hk
      have hput : ∀ version, (rolledOutCluster version).deployments.lookup k = none :=
        fun version => Store.lookup_put_ne (v := rolledOut version) hk
      exact (hput 2).trans (hput 1).symm
  have hserved : (WatchedEvent.deployment (.update (rolledOut 1) (rolledOut 2))).Served := by
    intro old new h _ _ k
    cases h
    rfl
  obtain ⟨c, hc⟩ : ∃ c, checkSelectorScope .documented (Reader.direct (rolledOutCluster 1)) (ingressPolicy "a" 1) =
      .ok c := ⟨_, rfl⟩
  obtain ⟨-, -, hsame⟩ := (scope_verdicts_fresh looksUpLabels_documented he hserved).1 rfl (ingressPolicy "a" 1)
    (Reader.direct _) (Reader.direct _)
  exact ⟨c, hc, (hsame (Reader.direct_answers _) (Reader.direct_answers _)).1 ▸ hc⟩

end NetworkEnforcer.Reconcile
