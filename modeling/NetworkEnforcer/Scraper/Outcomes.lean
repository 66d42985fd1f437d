import NetworkEnforcer.Scraper.Calico
import NetworkEnforcer.Scraper.Cilium

/-!
# What the scrapers record

Both scrapers parse a flow and resolve what they parsed.  Neither dereferences a nil endpoint, and both
outcomes that leave the scraper are `Recordable`: the controller can attribute a violation, and a learning
event has two workloads with selectors.
-/

namespace NetworkEnforcer.Scraper

open NetworkEnforcer.Lib NetworkEnforcer.Api NetworkEnforcer.Workload

section Pipelines

variable (lib : Apimachinery) (c : WorkloadClient) (wnps : TargetReader) (now : Time)

lemma cilium_recordable (flow : HubbleFlow) :
    ∃ r, (do resolveParsedFlow (CiliumScraper.resolve lib c) wnps (← parseCiliumFlowResponse now flow)) =
        .ok r ∧
      ((∀ n, flow.trafficDirection ≠ .undeclared n) → Recordable lib r) := by
  obtain ⟨parsed, hparsed, hpointed, hdirected⟩ := parseCiliumFlowResponse_parsed now flow
  obtain ⟨r, hr, hrec⟩ := resolveParsedFlow_recordable (CiliumScraper.resolve_sound lib c) wnps hpointed
  refine ⟨r, ?_, fun hdecl => hrec (hdirected hdecl)⟩
  rw [hparsed]
  exact hr

lemma calico_recordable (flowResult : Option GoldmaneFlowResult) :
    ∃ r, resolveParsedFlow (CalicoScraper.resolve lib c) wnps (parseCalicoFlow now flowResult) = .ok r ∧
      Recordable lib r := by
  obtain ⟨hpointed, hdirected⟩ := parseCalicoFlow_parsed now flowResult
  obtain ⟨r, hr, hrec⟩ := resolveParsedFlow_recordable (CalicoScraper.resolve_sound lib c) wnps hpointed
  exact ⟨r, hr, hrec hdirected⟩

/-- **No response makes the Cilium scraper panic.** -/
theorem processFlow_total (response : Option GetFlowsResponse) :
    ∃ r, CiliumScraper.processFlow lib c wnps now response = .ok r := by
  unfold CiliumScraper.processFlow
  split
  case h_3 flow =>
    obtain ⟨r, hr, -⟩ := cilium_recordable lib c wnps now flow
    exact ⟨r, hr⟩
  all_goals exact ⟨_, rfl⟩

/-- **Every violation has an attributable subject, and every learning event is complete.**  A flow whose
traffic direction is not declared keeps no direction, and its violation no subject. -/
theorem scrapers_record_resolved_workloads :
    (∀ flow : HubbleFlow, ∃ r,
      (do resolveParsedFlow (CiliumScraper.resolve lib c) wnps (← parseCiliumFlowResponse now flow)) =
          .ok r ∧
        ((∀ n, flow.trafficDirection ≠ .undeclared n) → Recordable lib r)) ∧
      ∀ flowResult : Option GoldmaneFlowResult, ∃ r,
        resolveParsedFlow (CalicoScraper.resolve lib c) wnps (parseCalicoFlow now flowResult) = .ok r ∧
          Recordable lib r :=
  ⟨cilium_recordable lib c wnps now, calico_recordable lib c wnps now⟩

end Pipelines

/-! ## A violation and an event -/

def webSelector : LabelSelector := { matchLabels := AList.singleton "app" "web" }

def webRef : WorkloadRef :=
  { ns := "shop", ownerKind := workloadKindDeployment, ownerName := "web", selector := webSelector }

def webPod : Pod :=
  { ns := "shop", name := "web-5d4f7-x2x9k", generateName := "web-5d4f7-",
    labels := AList.singleton defaultDeploymentUniqueLabelKey "5d4f7",
    ownerReferences :=
      [{ apiVersion := "apps/v1", kind := workloadKindReplicaSet, name := "web-5d4f7", uid := "rs-1",
         controller := some true }] }

/-- A cluster with one deployment and one pod of it. -/
def webClient : WorkloadClient where
  getPod k := if k = ⟨"shop", "web-5d4f7-x2x9k"⟩ then .ok webPod else .error (.notFound "pod not found")
  getDeployment k :=
    if k = ⟨"shop", "web"⟩ then
      .ok { ns := "shop", name := "web", selector := some webSelector }
    else .error (.notFound "deployment not found")
  getStatefulSet _ := .error (.notFound "statefulset not found")
  getDaemonSet _ := .error (.notFound "daemonset not found")
  listPods ns := .ok (if ns = "shop" then [webPod] else [])
  getDeployment_named := by
    intro k v h
    simp only at h
    split at h
    · rename_i hk
      rw [hk]
      decide
    · cases h
  getStatefulSet_named := Named.error _
  getDaemonSet_named := Named.error _

/-- Dropped at its source, on the way out of the cluster. -/
def droppedFlow : HubbleFlow :=
  { time := some 7, verdict := .dropped, dropReasonDesc := .policyDenied, trafficDirection := .egress,
    ipDestination := "203.0.113.7", l4 := some (.tcp 443),
    source := some { ns := "shop", workloads := [{ name := "web", kind := "Deployment" }] },
    destination := some {} }

/-- Allowed, between two pods of the deployment. -/
def allowedFlow : GoldmaneFlowResult :=
  { flow := some
      { key := some
          { sourceName := "web-5d4f7-*", sourceNamespace := "shop", sourceType := .workloadEndpoint,
            destName := "web-5d4f7-*", destNamespace := "shop", destType := .workloadEndpoint,
            destPort := 8080, proto := "tcp", reporter := .dst, action := .allow } } }

theorem scrapers_record_resolved_workloads_sample :
    (∃ observation,
      (do resolveParsedFlow (CiliumScraper.resolve .documented webClient) (.ofList [])
            (← parseCiliumFlowResponse 0 droppedFlow)) = .ok (.violation observation) ∧
        Recordable .documented (.violation observation)) ∧
      ∃ event, resolveParsedFlow (CalicoScraper.resolve .documented webClient) (.ofList [])
          (parseCalicoFlow 0 (some allowedFlow)) = .ok (.enqueue event) ∧
        Recordable .documented (.enqueue event) := by
  obtain ⟨hcilium, hcalico⟩ := scrapers_record_resolved_workloads .documented webClient (.ofList []) 0
  constructor
  · obtain ⟨r, hr, hrec⟩ := hcilium droppedFlow
    have hrun :
        (do resolveParsedFlow (CiliumScraper.resolve .documented webClient) (.ofList [])
              (← parseCiliumFlowResponse 0 droppedFlow)) = .ok (.violation
          { provider := .kubernetes, direction := .egress, timestamp := 7, source := webRef,
            dest := { ownerName := "203.0.113.7" }, protocol := "TCP", dstPort := 443,
            action := .protect }) := rfl
    obtain rfl := Except.ok.inj (hrun.symm.trans hr)
    exact ⟨_, hrun, hrec nofun⟩
  · obtain ⟨r, hr, hrec⟩ := hcalico (some allowedFlow)
    have hrun : resolveParsedFlow (CalicoScraper.resolve .documented webClient) (.ofList [])
        (parseCalicoFlow 0 (some allowedFlow)) = .ok (.enqueue
          { source := some webRef, dest := some webRef, dstPort := 8080, protocol := "TCP",
            backend := .kubernetes }) := rfl
    obtain rfl := Except.ok.inj (hrun.symm.trans hr)
    exact ⟨_, hrun, hrec⟩

end NetworkEnforcer.Scraper
