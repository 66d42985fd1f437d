import NetworkEnforcer.Scraper.Calico

/-!
# Aggregated names and the order of the pods

The resolver takes the first pod that was generated with the aggregated name, or whose own name starts with
it.  A list has no fixed order, and the second test also holds for the pods of a workload with a longer name.
So the workload of the name is found in every order exactly when those pods belong to it as well
(`resolve_any_order_iff`).
-/

namespace NetworkEnforcer.Scraper

open NetworkEnforcer.Lib NetworkEnforcer.Api NetworkEnforcer.Workload

/-- Every element that passes a test is the first to pass it in some order. -/
lemma exists_perm_find?_eq_some {α : Type} {p : α → Bool} {l : List α} {a : α} (ha : a ∈ l) (hp : p a = true) :
    ∃ order : List α, order.Perm l ∧ order.find? p = some a := by
  obtain ⟨before, after, rfl⟩ := List.append_of_mem ha
  refine ⟨a :: (before ++ after), List.perm_middle.symm, ?_⟩
  simp only [List.find?_cons, hp]

/-- The client, where the list of a namespace comes back as `pods`. -/
def listing (c : WorkloadClient) (ns : String) (pods : List Pod) : WorkloadClient :=
  { c with listPods := fun n => if n = ns then .ok pods else c.listPods n }

/-- The test of `resolvePod`. -/
def isNamed (generateName : String) (pod : Pod) : Bool :=
  pod.generateName = generateName || hasPrefix pod.name generateName

namespace CalicoScraper

/-- An aggregated name is resolved through the first pod that passes the test. -/
lemma resolve_listing {lib : Apimachinery} {c : WorkloadClient} {ref W : WorkloadRef} {ownerName : String}
    {pods : List Pod} {pod : Pod} (howner : ownerName ≠ "") (hname : ref.ownerName = ownerName ++ "-*")
    (hfirst : pods.find? (isNamed (ownerName ++ "-")) = some pod) (hW : W.isSupported = true) :
    resolve lib (listing c ref.ns pods) ref = .ok W ↔ Workload.get lib c pod.key = .ok W := by
  have hpod : resolvePod lib (listing c ref.ns pods) ref.ns ownerName = Workload.get lib c pod.key := by
    have hlist : (listing c ref.ns pods).listPods ref.ns = .ok pods := if_pos rfl
    unfold isNamed at hfirst
    simp only [resolvePod, hlist, hfirst]
    rfl
  have hcut : cutSuffix ref.ownerName "-*" = some ownerName := cutSuffix_eq_some.2 hname
  simp only [resolve, hcut, if_neg howner, hpod]
  cases hget : Workload.get lib c pod.key with
  | error err => simp
  | ok resolved =>
    constructor
    · intro h
      by_cases hs : resolved.isSupported = true
      · simpa [hs] using h
      · simp [hs] at h
    · intro h
      obtain rfl := Except.ok.inj h
      simp [hW]

/-- **When an aggregated name is resolved whatever the order.**  Some pod was generated with the name, and
all that were belong to the workload.  Then the resolver finds it in every order of the pods, exactly when
the pods whose names merely start so belong to it too. -/
theorem resolve_any_order_iff (lib : Apimachinery) (c : WorkloadClient) (ref : WorkloadRef) {W : WorkloadRef}
    {ownerName : String} (howner : ownerName ≠ "") (hname : ref.ownerName = ownerName ++ "-*")
    (pods : List Pod) (hsome : ∃ pod ∈ pods, pod.generateName = ownerName ++ "-")
    (hall : ∀ pod ∈ pods, pod.generateName = ownerName ++ "-" → Workload.get lib c pod.key = .ok W)
    (hW : W.isSupported = true) :
    (∀ order, order.Perm pods → resolve lib (listing c ref.ns order) ref = .ok W) ↔
      ∀ pod ∈ pods, hasPrefix pod.name (ownerName ++ "-") = true → Workload.get lib c pod.key = .ok W := by
  constructor
  · intro h pod hpod hprefix
    have hnamed : isNamed (ownerName ++ "-") pod = true := by simp [isNamed, hprefix]
    obtain ⟨order, hperm, hfirst⟩ := exists_perm_find?_eq_some hpod hnamed
    exact (resolve_listing howner hname hfirst hW).1 (h order hperm)
  · intro h order hperm
    obtain ⟨generated, hmem, hgen⟩ := hsome
    have hany : (order.find? (isNamed (ownerName ++ "-"))).isSome = true := by
      rw [List.find?_isSome]
      exact ⟨generated, hperm.mem_iff.2 hmem, by simp [isNamed, hgen]⟩
    obtain ⟨pod, hfirst⟩ := Option.isSome_iff_exists.1 hany
    have hpod : pod ∈ pods := hperm.mem_iff.1 (List.mem_of_find?_eq_some hfirst)
    have htest := List.find?_some hfirst
    rw [isNamed, Bool.or_eq_true, decide_eq_true_eq] at htest
    exact (resolve_listing howner hname hfirst hW).2 (htest.elim (hall pod hpod) (h pod hpod))

/-! ## Two stateful sets -/

/-- The first pod of a stateful set. -/
def firstPod (name : String) : Pod where
  ns := "shop"
  name := name ++ "-0"
  generateName := name ++ "-"
  ownerReferences :=
    [{ apiVersion := "apps/v1", kind := workloadKindStatefulSet, name := name, uid := name, controller := some true }]

def statefulSetSelector : LabelSelector := { matchLabels := AList.singleton "tier" "backend" }

def statefulSetRef (name : String) : WorkloadRef where
  ns := "shop"
  ownerKind := workloadKindStatefulSet
  ownerName := name
  selector := statefulSetSelector

/-- A cluster with the stateful sets `web` and `web-api`, of one pod each. -/
def statefulSets : WorkloadClient where
  getPod k :=
    if k = ⟨"shop", "web-0"⟩ then .ok (firstPod "web")
    else if k = ⟨"shop", "web-api-0"⟩ then .ok (firstPod "web-api")
    else .error (.notFound "pod not found")
  getDeployment _ := .error noSuchWorkload
  getStatefulSet k :=
    if k ∈ [⟨"shop", "web"⟩, ⟨"shop", "web-api"⟩] then
      .ok { ns := k.ns, name := k.name, selector := some statefulSetSelector }
    else .error (.notFound "statefulset not found")
  getDaemonSet _ := .error noSuchWorkload
  listPods _ := .ok []
  getDeployment_named := Named.error noSuchWorkload
  getStatefulSet_named := by
    intro k v h
    simp only at h
    split at h
    · rename_i hk
      rcases List.mem_pair.1 hk with rfl | rfl
      · decide
      · decide
    · cases h
  getDaemonSet_named := Named.error noSuchWorkload

/-- The longer name is resolved in both orders of the two pods. -/
theorem resolve_any_order_longer_name :
    resolve .documented (listing statefulSets "shop" [firstPod "web", firstPod "web-api"])
        { ns := "shop", ownerName := "web-api-*" } = .ok (statefulSetRef "web-api") ∧
      resolve .documented (listing statefulSets "shop" [firstPod "web-api", firstPod "web"])
        { ns := "shop", ownerName := "web-api-*" } = .ok (statefulSetRef "web-api") := by
  have horders : ∀ order : List Pod, order.Perm [firstPod "web", firstPod "web-api"] →
      resolve .documented (listing statefulSets "shop" order) { ns := "shop", ownerName := "web-api-*" } =
        .ok (statefulSetRef "web-api") := by
    have hname : "web-api-*" = "web-api" ++ "-*" := by decide
    have hsupported : (statefulSetRef "web-api").isSupported = true := rfl
    refine (resolve_any_order_iff .documented statefulSets { ns := "shop", ownerName := "web-api-*" } (by decide)
      hname [firstPod "web", firstPod "web-api"] ⟨firstPod "web-api", by simp, rfl⟩ ?_ hsupported).2 ?_
    · intro pod hpod hgen
      rcases List.mem_pair.1 hpod with rfl | rfl
      · exact absurd hgen (by decide)
      · rfl
    · intro pod hpod hprefix
      rcases List.mem_pair.1 hpod with rfl | rfl
      · exact absurd hprefix (by decide)
      · rfl
  exact ⟨horders _ (List.Perm.refl _), horders _ (List.Perm.swap ..)⟩

/-- The shorter name is resolved to the workload of the pod that comes first. -/
theorem resolve_depends_on_order :
    resolve .documented (listing statefulSets "shop" [firstPod "web", firstPod "web-api"])
        { ns := "shop", ownerName := "web-*" } = .ok (statefulSetRef "web") ∧
      resolve .documented (listing statefulSets "shop" [firstPod "web-api", firstPod "web"])
        { ns := "shop", ownerName := "web-*" } = .ok (statefulSetRef "web-api") :=
  ⟨rfl, rfl⟩

end CalicoScraper

end NetworkEnforcer.Scraper
