import NetworkEnforcer.Reconcile.Direct
import NetworkEnforcer.Reconcile.Election

/-!
# Duplicate targets: three detectors and one winner

`checkDuplicateTarget` lists policies through the index, the status synchronizer counts keys in a map, and
`LookupWNPByTarget` lists once more.  The three agree (`duplicate_detectors_agree`), and of the policies
with one target only the oldest passes the gate of `Reconcile`.
-/

namespace NetworkEnforcer.Reconcile

open NetworkEnforcer.Lib NetworkEnforcer.Api NetworkEnforcer.Workload
open NetworkEnforcer.Attribution (wnpTargetKey wnpTargetKey_eq_some_iff wnpByKey duplicateTargets
  mem_duplicateTargets_iff WnpTarget)

/-! ## The gate -/

/-- The policy goes on to be rendered: it has no conflict, or it is the winner. -/
def passesGate (c : Option DuplicateTargetConflict) : Bool := c.all (·.winner)

lemma passesGate_conflictOf {wnp : WorkloadNetworkPolicy} {items : List WorkloadNetworkPolicy}
    (hmem : wnp ∈ items) (hinj : ∀ v ∈ items, v.name = wnp.name → v = wnp) :
    passesGate (conflictOf wnp items) = true ↔ ∀ v ∈ items, age wnp ≤ age v := by
  match items with
  | [] => cases hmem
  | [x] =>
    rw [List.mem_singleton] at hmem
    subst hmem
    simp [conflictOf, passesGate]
  | first :: second :: rest =>
    obtain ⟨hm, hmin⟩ := oldest_minimal (second :: rest) first
    simp only [conflictOf, passesGate, Option.all_some, decide_eq_true_eq]
    constructor
    · intro hname
      rw [← hinj _ hm hname]
      exact hmin
    · intro hle
      exact name_eq_of_age_eq (le_antisymm (hmin _ hmem) (hle _ hm))

lemma indexed_eq_filter_targets {cl : Cluster} {ref : WorkloadTargetRef} {d : PolicyType}
    (hc : Complete ref d) (hu : Unambiguous cl.wnps.values ref d) (ns : String) :
    indexed cl ns (wnpTargetIndexKey ref.kind ref.name d) = cl.wnps.values.filter (targets ns ref d) := by
  refine List.filter_congr fun v hv => ?_
  rw [Bool.eq_iff_iff, targets_iff, ← hu.mem_iff hc hv]
  simp

lemma conflictIn_eq {cl : Cluster} {w : WorkloadNetworkPolicy}
    (hc : Complete w.spec.targetRef w.spec.direction)
    (hu : Unambiguous cl.wnps.values w.spec.targetRef w.spec.direction) :
    conflictIn cl w =
      conflictOf w (cl.wnps.values.filter (targets w.ns w.spec.targetRef w.spec.direction)) := by
  rw [conflictIn, wnpTargetKey_of_complete hc, Option.bind_some, indexed_eq_filter_targets hc hu]

lemma lookup_duplicateTarget_iff {c : TargetReader} {ref : WorkloadTargetRef} {d : PolicyType}
    (hc : Complete ref d) (hu : Unambiguous c.wnps ref d) (ns : String) {listed : List WorkloadNetworkPolicy}
    (hlist : c.listByTarget ns (wnpTargetIndexKey ref.kind ref.name d) = .ok listed) :
    (∃ names, lookupWNPByTarget c ns ref.kind ref.name d =
        .error (.duplicateTarget ref.kind ns ref.name d names)) ↔
      2 ≤ (c.wnps.filter (targets ns ref d)).length := by
  rcases lookupWNPByTarget_spec hc hu ns with ⟨w, hl, hf⟩ | ⟨hl, hf⟩ | ⟨names, hl, hf⟩ | ⟨err, hl, hf⟩
  · simp [hl, hf]
  · simp [hl, hf]
  · exact ⟨fun _ => hf, fun _ => ⟨names, hl⟩⟩
  · rw [hf] at hlist
    cases hlist

/-- The oldest policy with a target, which at least one policy has. -/
lemma exists_oldest {cl : Cluster} {ns : String} {ref : WorkloadTargetRef} {d : PolicyType}
    {w : WorkloadNetworkPolicy} (hw : w ∈ cl.wnps.values.filter (targets ns ref d)) :
    ∃ m ∈ cl.wnps.values.filter (targets ns ref d),
      ∀ v ∈ cl.wnps.values.filter (targets ns ref d), age m ≤ age v := by
  cases hl : cl.wnps.values.filter (targets ns ref d) with
  | nil => rw [hl] at hw; cases hw
  | cons first rest =>
    exact ⟨_, oldest_minimal rest first⟩

/-- In one namespace a name determines the policy. -/
lemma eq_of_targets_of_name_eq {cl : Cluster} {ns : String} {ref : WorkloadTargetRef} {d : PolicyType}
    {x y : WorkloadNetworkPolicy} (hx : x ∈ cl.wnps.values.filter (targets ns ref d))
    (hy : y ∈ cl.wnps.values.filter (targets ns ref d)) (hname : x.name = y.name) : x = y := by
  obtain ⟨hx, hxt⟩ := List.mem_filter.1 hx
  obtain ⟨hy, hyt⟩ := List.mem_filter.1 hy
  exact Store.eq_of_key_eq hx hy (congrArg₂ NamespacedName.mk
    ((targets_iff.1 hxt).1.trans (targets_iff.1 hyt).1.symm) hname)

/-- **The oldest of a group passes the gate**, and no other. -/
theorem passesGate_conflictIn_iff {cl : Cluster} {ns : String} {ref : WorkloadTargetRef} {d : PolicyType}
    (hc : Complete ref d) (hu : Unambiguous cl.wnps.values ref d) {m v : WorkloadNetworkPolicy}
    (hm : m ∈ cl.wnps.values.filter (targets ns ref d))
    (hmin : ∀ v ∈ cl.wnps.values.filter (targets ns ref d), age m ≤ age v)
    (hv : v ∈ cl.wnps.values.filter (targets ns ref d)) :
    passesGate (conflictIn cl v) = true ↔ v = m := by
  obtain ⟨rfl, rfl, rfl⟩ := targets_iff.1 (List.mem_filter.1 hv).2
  rw [conflictIn_eq hc hu, passesGate_conflictOf hv fun x hx => eq_of_targets_of_name_eq hx hv]
  constructor
  · intro hle
    exact eq_of_targets_of_name_eq hv hm (name_eq_of_age_eq (le_antisymm (hle m hm) (hmin v hv)))
  · rintro rfl
    exact hmin

/-- **All duplicate detectors agree and elect one winner.**  The policies are those of a store, so that
their names are distinct in each namespace; every list returns them in an order of its own.  The check has
a result unless a read fails. -/
theorem duplicate_detectors_agree {cl : Cluster}
    (hnames : ∀ v ∈ cl.wnps.values, '/' ∉ v.spec.targetRef.name.toList)
    {w : WorkloadNetworkPolicy} (hw : w ∈ cl.wnps.values)
    (hc : Complete w.spec.targetRef w.spec.direction) :
    (∀ (r : Reader cl) (v : WorkloadNetworkPolicy), r.Answers → ∃ res, checkDuplicateTarget r v = .ok res) ∧
    (∀ (r : Reader cl) (res : Option DuplicateTargetConflict) (items : List WorkloadNetworkPolicy)
        (c : TargetReader) (listed : List WorkloadNetworkPolicy),
      checkDuplicateTarget r w = .ok res → items.Perm cl.wnps.values → c.wnps.Perm cl.wnps.values →
      c.listByTarget w.ns (wnpTargetIndexKey w.spec.targetRef.kind w.spec.targetRef.name
        w.spec.direction) = .ok listed →
      (res.isSome = true ↔ (⟨w.ns, wnpTargetIndexKey w.spec.targetRef.kind w.spec.targetRef.name
        w.spec.direction⟩ : WnpTarget) ∈ duplicateTargets (wnpByKey items)) ∧
      (res.isSome = true ↔ ∃ names, lookupWNPByTarget c w.ns w.spec.targetRef.kind w.spec.targetRef.name
        w.spec.direction = .error (.duplicateTarget w.spec.targetRef.kind w.ns w.spec.targetRef.name
          w.spec.direction names))) ∧
    ∃ m ∈ cl.wnps.values, targets w.ns w.spec.targetRef w.spec.direction m = true ∧
      (∀ v ∈ cl.wnps.values, targets w.ns w.spec.targetRef w.spec.direction v = true → age m ≤ age v) ∧
      ∀ v ∈ cl.wnps.values, targets w.ns w.spec.targetRef w.spec.direction v = true →
        ∀ (r : Reader cl) (res : Option DuplicateTargetConflict), checkDuplicateTarget r v = .ok res →
          (passesGate res = true ↔ v = m) := by
  have hu : ∀ wnps : List WorkloadNetworkPolicy, wnps.Perm cl.wnps.values →
      Unambiguous wnps w.spec.targetRef w.spec.direction := fun wnps hp =>
    unambiguous_of_names _ (hnames w hw) fun v hv => hnames v (hp.mem_iff.1 hv)
  refine ⟨fun r v ha => ⟨_, ha.checkDuplicateTarget_eq v⟩, ?_, ?_⟩
  · intro r res items c listed hres hitems hcache hlist
    have hsnap : (wnpByKey items).values.Perm cl.wnps.values :=
      (Store.values_ofList_perm ((hitems.map _).nodup_iff.2 cl.wnps.map_key_values_nodup)).trans hitems
    rw [checkDuplicateTarget_eq hres, conflictIn_eq hc (hu _ (List.Perm.refl _)), conflictOf_isSome,
      mem_duplicateTargets_iff hc (hu _ hsnap), lookup_duplicateTarget_iff hc (hu _ hcache) _ hlist,
      (hsnap.filter _).length_eq, (hcache.filter _).length_eq]
    exact ⟨Iff.rfl, Iff.rfl⟩
  · have hself := List.mem_filter.2 ⟨hw, targets_iff.2 ⟨rfl, rfl, rfl⟩⟩
    obtain ⟨m, hm, hmin⟩ := exists_oldest hself
    obtain ⟨hmem, hmt⟩ := List.mem_filter.1 hm
    refine ⟨m, hmem, hmt, fun v hv ht => hmin v (List.mem_filter.2 ⟨hv, ht⟩), ?_⟩
    intro v hv ht r res hres
    rw [checkDuplicateTarget_eq hres]
    exact passesGate_conflictIn_iff hc (hu _ (List.Perm.refl _)) hm hmin (List.mem_filter.2 ⟨hv, ht⟩)

/-- A policy for the ingress of one deployment. -/
def ingressPolicy (name : String) (created : Time) : WorkloadNetworkPolicy :=
  { ns := "shop", name := name, creationTimestamp := created,
    spec := { backend := .kubernetes
              kubernetes := some {
                podSelector := { matchLabels := AList.singleton "app" "web" }, policyTypes := [.ingress] }
              targetRef := ⟨"Deployment", "web"⟩, direction := .ingress } }

/-- Two of them. -/
def twoPolicies : Cluster := { wnps := .ofList [ingressPolicy "a" 1, ingressPolicy "b" 2] }

theorem duplicate_detectors_agree_sample :
    ∃ v w : WorkloadNetworkPolicy, v ∈ twoPolicies.wnps.values ∧ w ∈ twoPolicies.wnps.values ∧ v ≠ w ∧
      targets w.ns w.spec.targetRef w.spec.direction v = true ∧
      ∃ m ∈ twoPolicies.wnps.values, ∀ x ∈ twoPolicies.wnps.values,
        targets w.ns w.spec.targetRef w.spec.direction x = true →
        ∀ (r : Reader twoPolicies) (res : Option DuplicateTargetConflict),
          checkDuplicateTarget r x = .ok res → (passesGate res = true ↔ x = m) := by
  have ha : ingressPolicy "a" 1 ∈ twoPolicies.wnps.values :=
    List.mem_cons_of_mem _ (List.mem_cons_self ..)
  have hb : ingressPolicy "b" 2 ∈ twoPolicies.wnps.values := List.mem_cons_self ..
  refine ⟨ingressPolicy "b" 2, ingressPolicy "a" 1, hb, ha, ?_, rfl, ?_⟩
  · intro h
    exact absurd (congrArg (fun w : WorkloadNetworkPolicy => w.name) h) (by decide)
  · have hnames : ∀ v ∈ twoPolicies.wnps.values, '/' ∉ v.spec.targetRef.name.toList :=
      show ∀ v ∈ [ingressPolicy "b" 2, ingressPolicy "a" 1], '/' ∉ v.spec.targetRef.name.toList by decide
    obtain ⟨m, hm, -, -, hgate⟩ :=
      (duplicate_detectors_agree hnames ha ⟨by decide, by decide, by decide⟩).2.2
    exact ⟨m, hm, hgate⟩

end NetworkEnforcer.Reconcile
