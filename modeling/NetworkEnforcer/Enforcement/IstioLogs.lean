import NetworkEnforcer.Enforcement.Istio
import NetworkEnforcer.Enforcement.Violations
import NetworkEnforcer.Learner.Provenance
import NetworkEnforcer.Scraper.Outcomes
import NetworkEnforcer.Scraper.Ztunnel
import NetworkEnforcer.Sync.Correlation

/-!
# From the log of ztunnel to the policies, istio backend

The whole way of a line of the log: through the Lua filter and the output of Fluent Bit, the scraper and the enricher,
and then through the learner into a policy, or through the sync into a status.

* `authorized_iff_logged` — the authorization policy that is rendered for a proposal of the learner allows exactly the
  connections that were logged;
* `istio_status_is_log` — the violations of a learned policy are the newest hundred of the rejected connections that
  were logged for the pods of its workload.  None of them is ever cleared, even if the connection has been learned
  since: the log of a rejected connection has no port, and the rules that are learned all have one.
-/

namespace NetworkEnforcer.Enforcement

open NetworkEnforcer.Lib NetworkEnforcer.Api NetworkEnforcer.Semantics NetworkEnforcer.Status
open NetworkEnforcer.Workload NetworkEnforcer.Attribution NetworkEnforcer.Istio
open NetworkEnforcer.Ztunnel (Fields Record LuaError Known knownRecord)
open NetworkEnforcer.Reconcile (populateIstioAuthorizationPolicySpec)
open NetworkEnforcer.Scraper (Ingest FlowResult rejected)
open NetworkEnforcer.Sync (violationRecord correlateViolationsToWNPs ViolationsByWNP agreeing recordFor
  recordFor_eq_some correlate_records)
open NetworkEnforcer.Learning hiding World Request ask reconcile admits system Answers

/-! ## Logs -/

/-- A line of the log of ztunnel. -/
structure LogLine where
  timestamp : Nat
  fields : Fields
  proxy : Fields
  inbound : Fields
  known : Known fields proxy inbound

def LogLine.record (l : LogLine) : Record := knownRecord l.fields l.proxy l.inbound

/-- A line of the log, with the surroundings in which it was scraped. -/
structure ScrapedLine where
  ingest : Ingest
  now : Time
  tag : Bytes
  line : LogLine

namespace ScrapedLine

/-- What becomes of the line. -/
def result (s : ScrapedLine) : Except LuaError (Option FlowResult) :=
  s.ingest.scraped s.now s.tag s.line.timestamp s.line.fields

/-- The line is about a completed connection of the principal to a pod of `dest`. -/
def Completed (s : ScrapedLine) (dest : WorkloadRef) (principal : String) (port : Int) : Prop :=
  s.ingest.Completed s.line.record dest principal port

lemma result_eq_enqueue_iff (s : ScrapedLine) {event : LearningEvent} :
    s.result = .ok (some (.enqueue event)) ↔ ∃ dest principal port, s.Completed dest principal port ∧
      event = Ingest.connectionEvent dest principal port :=
  Ingest.scraped_event_iff s.line.known s.now s.tag s.line.timestamp

lemma Completed.port_nonneg {s : ScrapedLine} {dest : WorkloadRef} {principal : String} {port : Int}
    (h : s.Completed dest principal port) : 0 ≤ port := by
  have hlo := (Scraper.parsePort_some h.port).1
  unfold Scraper.minValidPort at hlo
  omega

end ScrapedLine

/-! ## What is allowed -/

/-- The proposal that connections to the workload are learned into. -/
def ingressProposal (dest : WorkloadRef) : NamespacedName := (getProposalMetadata dest .ingress).namespacedName

/-- Of the events for the proposal, the learner has accepted those of the log. -/
def AcceptedFrom (log : List ScrapedLine) (key : NamespacedName) (w : Learner.World) : Prop :=
  ∀ event, (∃ u ∈ Learner.updates event, Learner.proposalOf u = key) →
    (event ∈ w.accepted ↔ ∃ s ∈ log, s.result = .ok (some (.enqueue event)))

/-- The updates of the proposal are those of the completed connections. -/
lemma AcceptedFrom.updateOf_iff {log : List ScrapedLine} {key : NamespacedName} {w : Learner.World}
    (h : AcceptedFrom log key w) {u : LearnerUpdate} : Learner.UpdateOf w.accepted key u ↔
      ∃ s ∈ log, ∃ dest principal port, ingressProposal dest = key ∧ s.Completed dest principal port ∧
        u = .istio dest principal port := by
  constructor
  · rintro ⟨event, hevent, hu, hkey⟩
    obtain ⟨s, hs, hresult⟩ := (h event ⟨u, hu, hkey⟩).1 hevent
    obtain ⟨dest, principal, port, hc, rfl⟩ := s.result_eq_enqueue_iff.1 hresult
    obtain rfl : u = .istio dest principal port := List.mem_singleton.1 hu
    exact ⟨s, hs, dest, principal, port, hkey, hc, rfl⟩
  · rintro ⟨s, hs, dest, principal, port, hkey, hc, rfl⟩
    have hu : LearnerUpdate.istio dest principal port ∈
        Learner.updates (Ingest.connectionEvent dest principal port) := List.mem_singleton_self _
    exact ⟨_, (h _ ⟨_, hu, hkey⟩).2 ⟨s, hs, s.result_eq_enqueue_iff.2 ⟨dest, principal, port, hc, rfl⟩⟩, hu, hkey⟩

lemma AcceptedFrom.completed_iff {log : List ScrapedLine} {key : NamespacedName} {w : Learner.World}
    (h : AcceptedFrom log key w) {dest : WorkloadRef} {principal : String} {port : Int} :
    Learner.UpdateOf w.accepted key (.istio dest principal port) ↔
      ∃ s ∈ log, ingressProposal dest = key ∧ s.Completed dest principal port := by
  rw [h.updateOf_iff]
  constructor
  · rintro ⟨s, hs, dest', principal', port', hkey, hc, heq⟩
    obtain ⟨rfl, rfl, rfl⟩ := LearnerUpdate.istio.inj heq
    exact ⟨s, hs, hkey, hc⟩
  · rintro ⟨s, hs, hkey, hc⟩
    exact ⟨s, hs, dest, principal, port, hkey, hc, rfl⟩

/-- A rule that was learned is that of a connection. -/
lemma mem_of_istioContains {spec : IstioAuthorizationPolicySpec} (hempty : spec.rules = [])
    {connections : List (String × Int)} (hports : ∀ e ∈ connections, 0 ≤ e.2) {principal : String} {port : Int}
    (hport : 0 ≤ port) (h : istioContains (learnIstio spec connections).rules principal (formatInt port)) :
    (principal, port) ∈ connections := by
  rw [learnedIstioRules_eq_map hempty] at h
  obtain ⟨rule, hrule, ⟨f, hf, hprincipal⟩, t, ht, hq⟩ := h
  obtain ⟨group, hgroup, rfl⟩ := List.mem_map.1 hrule
  obtain rfl := List.mem_singleton.1 hf
  obtain rfl := List.mem_singleton.1 ht
  obtain ⟨e, he, hfirst, hsecond⟩ := (mem_learnedIstioGroups hgroup).2 _ hq
  have hsame : e.2 = port := by
    rw [← portIs_formatInt (hports e he), hsecond]
    exact (portIs_formatInt hport).2 rfl
  have heq : e = (principal, port) := Prod.ext (hfirst.trans (List.mem_singleton.1 hprincipal).symm) hsame
  exact heq ▸ he

/-- **What is allowed is what was logged.**  In a run of the learner the channel has taken the events that the scraper
made of the lines of a log, each with the cluster as it was then.  When the learner is at rest, with a proposal that is
new and its own, and the proposal is promoted, then the rules that are rendered for the policy allow a connection
exactly if the log has one of the same principal, on the same port, to a pod of a workload with this proposal. -/
theorem authorized_iff_logged {lib : Apimachinery} {ctrl : Reconcile.ControllerLib}
    {initial : Store fun p : WorkloadNetworkPolicyProposal => p.namespacedName} {w : Learner.World}
    (hrun : Learner.Reachable lib ctrl initial w) {key : NamespacedName} (hnew : initial.lookup key = none)
    (hrest : Learner.AtRest w key) {log : List ScrapedLine} (hlog : AcceptedFrom log key w)
    (hne : ∃ s ∈ log, ∃ dest principal port, ingressProposal dest = key ∧ s.Completed dest principal port)
    (hliteral : ∀ s ∈ log, ∀ dest principal port, ingressProposal dest = key → s.Completed dest principal port →
      literalPrincipal principal = true) :
    ∃ proposal, w.proposals.lookup key = some proposal ∧
      ∀ mode promoted, promotedPolicy proposal mode = .ok promoted → promoted.spec.backend = .istio ∧
        ∃ spec, promoted.spec.istio = some spec ∧ ∀ c, allows (populateIstioAuthorizationPolicySpec spec) c = true ↔
          ∃ s ∈ log, ∃ dest, ingressProposal dest = key ∧ s.Completed dest c.principal c.port := by
  -- what was accepted has its rule in the proposal
  have hcontains : ∀ {s dest principal port}, s ∈ log → ingressProposal dest = key → s.Completed dest principal port →
      ∃ p, w.proposals.lookup key = some p ∧
        Contains lib p.spec.toPolicyBackendSpec (.istio principal (formatInt port)) := by
    intro s dest principal port hs hkey hc
    obtain ⟨event, hevent, hu, hkey⟩ := hlog.completed_iff.2 ⟨s, hs, hkey, hc⟩
    exact hrun.inv.contains_of_accepted hrest hevent hu hkey
  obtain ⟨s, hs, dest, principal, port, hkey, hc⟩ := hne
  obtain ⟨proposal, hproposal, -⟩ := hcontains hs hkey hc
  -- and the proposal is made of nothing else
  have hlearned := hrun.learned hproposal hrest.rewritten hnew
  obtain ⟨hbackend, selector, connections, hspec, hall⟩ := hlearned.istio fun hu => by
    obtain ⟨_, _, dest, principal, port, _, _, rfl⟩ := hlog.updateOf_iff.1 hu
    exact ⟨dest, principal, port, rfl⟩
  have hlogged : ∀ e ∈ connections, ∃ s ∈ log, ∃ dest, ingressProposal dest = key ∧ s.Completed dest e.1 e.2 := by
    intro e he
    obtain ⟨dest, hu⟩ := hall e he
    obtain ⟨s, hs, hkey, hc⟩ := hlog.completed_iff.1 hu
    exact ⟨s, hs, dest, hkey, hc⟩
  have hports : ∀ e ∈ connections, 0 ≤ e.2 := by
    intro e he
    obtain ⟨_, -, _, -, hc⟩ := hlogged e he
    exact hc.port_nonneg
  have hliterals : ∀ e ∈ connections, literalPrincipal e.1 = true := by
    intro e he
    obtain ⟨s, hs, dest, hkey, hc⟩ := hlogged e he
    exact hliteral s hs dest e.1 e.2 hkey hc
  refine ⟨proposal, hproposal, fun mode promoted hpromoted => ?_⟩
  have hcopied := (promotedPolicy_eq_ok hpromoted).2.2
  refine ⟨by rw [hcopied]; exact hbackend, _, by rw [hcopied]; exact hspec, fun c => ?_⟩
  rw [allows_learnIstio rfl hliterals hports c]
  constructor
  · exact fun hmem => hlogged _ hmem
  · rintro ⟨s, hs, dest, hkey, hc⟩
    obtain ⟨p, hp, i, hi, hrule⟩ := hcontains hs hkey hc
    obtain rfl := Option.some.inj (hproposal.symm.trans hp)
    obtain rfl := Option.some.inj (hspec.symm.trans hi)
    exact mem_of_istioContains rfl hports hc.port_nonneg hrule

/-- The cluster of `webClient`, with its policies. -/
def meshClient (wnps : List WorkloadNetworkPolicy) : EnricherClient where
  toWorkloadClient := Scraper.webClient
  toTargetReader := .ofList wnps
  pods := [Scraper.webPod]
  listByIP ip := .ok ([Scraper.webPod].filter fun pod => ip ∈ indexPodByIP pod)
  listByIP_ok h := List.Perm.of_eq (Except.ok.inj h).symm

def meshIngest (wnps : List WorkloadNetworkPolicy) : Ingest where
  lib := .documented
  output := .direct
  runes := Ztunnel.asciiDecoder
  formatFloat _ := ""
  enricher := some (meshClient wnps)
  resource := ∅
  resource_foreign _ _ := AList.lookup_empty _

/-- A connection of the service account `client` to the pod of `web`. -/
def completedFields : Fields :=
  [(Ztunnel.messageKey, .string Ztunnel.msgLearn), (Ztunnel.directionKey, .string Ztunnel.directionInbound),
    (Ztunnel.srcIdentityKey, .string (ascii "spiffe://cluster.local/ns/shop/sa/client")),
    (Ztunnel.dstIdentityKey, .string (ascii "spiffe://cluster.local/ns/shop/sa/web")),
    (Ztunnel.dstWorkloadKey, .string (ascii "web-5d4f7-x2x9k")), (Ztunnel.dstNamespaceKey, .string (ascii "shop")),
    (Ztunnel.dstHboneAddrKey, .string (ascii "10.244.0.7:8080"))]

/-- Lines whose fields are missing or texts. -/
def isTextual (fields : Fields) (key : Bytes) : Bool :=
  match fields.lookup key with
  | none | some .null | some (.string _) => true
  | _ => false

lemma textual_of_isTextual {fields : Fields} {key : Bytes} (h : isTextual fields key = true) :
    Ztunnel.Textual fields key := by
  unfold isTextual at h
  unfold Ztunnel.Textual
  split at h
  next hnone => exact Or.inl hnone
  next hnull => exact Or.inr (Or.inl hnull)
  next s htext => exact Or.inr (Or.inr ⟨s, htext⟩)
  next => cases h

def completedLine : LogLine where
  timestamp := 5
  fields := completedFields
  proxy := []
  inbound := []
  known :=
    { texts := fun key hk => textual_of_isTextual
        ((by decide : ∀ key ∈ Ztunnel.textKeys, isTextual completedFields key = true) key hk)
      nestedProxy := Or.inl ⟨rfl, rfl⟩
      wl := Or.inl rfl
      nestedInbound := Or.inl ⟨rfl, rfl⟩
      peer := Or.inl rfl }

def clientPrincipal : String := "cluster.local/ns/shop/sa/client"

lemma completed_completedLine : (meshIngest []).Completed completedLine.record Scraper.webRef clientPrincipal 8080 where
  message := rfl
  direction := rfl
  meshed := by decide
  identity := by decide +kernel
  principal_ne := by decide
  pod := ⟨_, "shop", "web-5d4f7-x2x9k", rfl, by decide, by decide, by decide +kernel, by decide +kernel, rfl⟩
  supported := by decide
  port := by decide +kernel

def completedScraped : ScrapedLine := ⟨meshIngest [], 0, [], completedLine⟩

/-- The connection of the log is learned, and a policy that is promoted from its proposal allows it. -/
theorem authorized_iff_logged_web : ∃ w proposal, Learner.Reachable .documented (.direct 0) (.ofList []) w ∧
    w.proposals.lookup ⟨"shop", "deployment-web-ingress"⟩ = some proposal ∧
    ∀ mode promoted, promotedPolicy proposal mode = .ok promoted → ∃ spec, promoted.spec.istio = some spec ∧
      allows (populateIstioAuthorizationPolicySpec spec) ⟨clientPrincipal, 8080⟩ = true := by
  obtain ⟨w, hrun, hrested⟩ :=
    Learner.exists_learned_run { identity := clientPrincipal } ⟨"shop", "web"⟩ Scraper.webRef.selector 8080
  have hrest := hrested.atRest ⟨"shop", "deployment-web-ingress"⟩
  have hresult : completedScraped.result = .ok (some (.enqueue
      (Ingest.connectionEvent Scraper.webRef clientPrincipal 8080))) :=
    completedScraped.result_eq_enqueue_iff.2 ⟨_, _, _, completed_completedLine, rfl⟩
  have hline : completedScraped ∈ [completedScraped] := List.mem_singleton_self _
  have hkey : ingressProposal Scraper.webRef = ⟨"shop", "deployment-web-ingress"⟩ := by decide
  have hlog : AcceptedFrom [completedScraped] ⟨"shop", "deployment-web-ingress"⟩ w := by
    intro event _
    rw [hrested.1, List.mem_singleton]
    constructor
    · rintro rfl
      exact ⟨_, hline, hresult⟩
    · rintro ⟨s, hs, hs'⟩
      obtain rfl := List.mem_singleton.1 hs
      rw [hresult] at hs'
      exact (FlowResult.enqueue.inj (Option.some.inj (Except.ok.inj hs'))).symm
  have hliteral : ∀ s ∈ [completedScraped], ∀ dest principal port,
      ingressProposal dest = ⟨"shop", "deployment-web-ingress"⟩ → s.Completed dest principal port →
        literalPrincipal principal = true := by
    intro s hs dest principal port _ hc
    obtain rfl := List.mem_singleton.1 hs
    have hsame : "spiffe://" ++ clientPrincipal = "spiffe://" ++ principal :=
      completed_completedLine.identity.symm.trans hc.identity
    obtain rfl : clientPrincipal = principal := (String.append_right_inj _).1 hsame
    decide +kernel
  obtain ⟨proposal, hproposal, hpromote⟩ := authorized_iff_logged hrun rfl hrest hlog
    ⟨_, hline, _, _, _, hkey, completed_completedLine⟩ hliteral
  refine ⟨w, proposal, hrun, hproposal, fun mode promoted hpromoted => ?_⟩
  obtain ⟨-, spec, hspec, hallows⟩ := hpromote mode promoted hpromoted
  exact ⟨spec, hspec, (hallows _).2 ⟨_, hline, _, hkey, completed_completedLine⟩⟩

/-! ## Learned rules have ports -/

/-- The specification of a policy that was promoted from a proposal with learned connections. -/
def IsLearnedIstioPolicy (spec : WorkloadNetworkPolicySpec) : Prop :=
  ∃ dest events proposal mode policy, events ≠ [] ∧ (∀ e ∈ events, (1 : Int) ≤ e.2 ∧ e.2 ≤ 65535) ∧
    proposal.spec = learnIstioProposal dest events ∧ promotedPolicy proposal mode = .ok policy ∧ spec = policy.spec

/-- **A learned policy permits no violation without a port.** -/
lemma not_permits_of_learned_istio {lib : Apimachinery} {spec : WorkloadNetworkPolicySpec}
    (h : IsLearnedIstioPolicy spec) : spec.backend = .istio ∧
      ∀ v : ViolationRecord, v.dstPort = 0 → Status.permits lib spec v = false := by
  obtain ⟨dest, events, proposal, mode, policy, hne, hports, hlearn, hpromoted, rfl⟩ := h
  obtain ⟨hbackend, histio⟩ := learnIstioProposal_spec dest hne
  have hcopied := (promotedPolicy_eq_ok hpromoted).2.2
  rw [hlearn] at hcopied
  have hb : policy.spec.backend = .istio := by rw [hcopied]; exact hbackend
  have hi : policy.spec.istio = some (learnIstio { selector := dest.selector } events) := by
    rw [hcopied]
    exact histio
  refine ⟨hb, fun v hv => ?_⟩
  rw [Status.permits, hb, hi, Bool.eq_false_iff]
  intro hallows
  have hallows : istioAllows (learnIstio { selector := dest.selector } events) v = true := hallows
  obtain ⟨rule, hrule, hallow⟩ := List.any_eq_true.1 hallows
  have hrules : (learnIstio { selector := dest.selector } events).rules = (learnedIstioGroups events).map istioRuleOf :=
    learnedIstioRules_eq_map rfl events
  rw [hrules] at hrule
  obtain ⟨group, hgroup, rfl⟩ := List.mem_map.1 hrule
  have hsome : group.2 ≠ [] := (Groups.grouped_ofPairs _).nonempty group hgroup
  have hport : istioRuleAllowsPort (istioRuleOf group) 0 = true := by
    rw [← hv]
    exact (Bool.and_eq_true_iff.1 hallow).2
  simp only [istioRuleAllowsPort, istioRuleOf, List.isEmpty_cons, List.any_cons, List.any_nil, Bool.false_or,
    Bool.or_false, List.isEmpty_eq_false_iff.2 hsome, List.any_eq_true] at hport
  obtain ⟨q, hq, hmatch⟩ := hport
  obtain ⟨e, he, -, rfl⟩ := (mem_learnedIstioGroups hgroup).2 q hq
  obtain ⟨hlo, hhi⟩ := hports e he
  rw [istioPortMatches_formatInt (by omega) (by omega)] at hmatch
  omega

/-! ## What is reported -/

/-- The observation of a result. -/
def observationOf : Except LuaError (Option FlowResult) → Option Observation
  | .ok (some (.violation obs)) => some obs
  | _ => none

lemma observationOf_eq_some {result : Except LuaError (Option FlowResult)} {obs : Observation} :
    observationOf result = some obs ↔ result = .ok (some (.violation obs)) := by
  constructor
  · intro h
    unfold observationOf at h
    split at h
    next => rw [Option.some.inj h]
    next => cases h
  · rintro rfl
    rfl

/-- The observations of a part of the log. -/
def loggedObservations (g : Ingest) (now : Time) (tag : Bytes) (log : List LogLine) : List Observation :=
  log.filterMap fun l => observationOf (g.scraped now tag l.timestamp l.fields)

/-- The server is a pod of this workload. -/
def ServedBy (g : Ingest) (rec : Record) (wk : WorkloadRef) : Prop :=
  ∃ client pod, g.enricher = some client ∧ (g.server rec).ns ≠ "" ∧ (g.server rec).name ≠ "" ∧
    client.getPod (g.server rec) = .ok pod ∧ workloadRefFromPod pod = wk ∧ wk.ns ≠ "" ∧ wk.ownerName ≠ "" ∧
    wk.isSupported = true

section Subject

variable {e : Enricher} {obs : Observation}

lemma enrichDenyingPolicy_frame (client : EnricherClient) (obs : Observation) :
    (enrichDenyingPolicy client obs).dest = obs.dest ∧ (enrichDenyingPolicy client obs).direction = obs.direction ∧
      (enrichDenyingPolicy client obs).dstPort = obs.dstPort := by
  unfold enrichDenyingPolicy
  repeat' split
  all_goals exact ⟨rfl, rfl, rfl⟩

/-- Enriching leaves the direction and the port as they are. -/
lemma enrich_frame (e : Enricher) (obs : Observation) :
    (enrich e obs).direction = obs.direction ∧ (enrich e obs).dstPort = obs.dstPort := by
  cases e with
  | none => exact ⟨rfl, rfl⟩
  | some client =>
    have hsource : (enrichSource client obs).direction = obs.direction ∧
        (enrichSource client obs).dstPort = obs.dstPort := by
      unfold enrichSource
      split <;> exact ⟨rfl, rfl⟩
    have hdest : ∀ o : Observation, (enrichDest client o).direction = o.direction ∧
        (enrichDest client o).dstPort = o.dstPort := by
      intro o
      unfold enrichDest
      split
      · exact ⟨rfl, rfl⟩
      · exact (enrichDenyingPolicy_frame client _).2
    exact ⟨(hdest _).1.trans hsource.1, (hdest _).2.trans hsource.2⟩

lemma resolveDestWorkload_eq_ok {client : EnricherClient} {pod : Pod} : resolveDestWorkload client obs = .ok pod ↔
    obs.dest.ns ≠ "" ∧ obs.dest.ownerName ≠ "" ∧ client.getPod ⟨obs.dest.ns, obs.dest.ownerName⟩ = .ok pod := by
  unfold resolveDestWorkload
  by_cases hempty : (obs.dest.ns = "" || obs.dest.ownerName = "") = true
  · rw [if_pos hempty]
    rw [Bool.or_eq_true, decide_eq_true_iff, decide_eq_true_iff] at hempty
    refine iff_of_false (fun h => by cases h) ?_
    rintro ⟨hns, hname, -⟩
    exact hempty.elim hns hname
  · rw [if_neg hempty]
    rw [Bool.or_eq_true, decide_eq_true_iff, decide_eq_true_iff, not_or] at hempty
    cases client.getPod ⟨obs.dest.ns, obs.dest.ownerName⟩ with
    | error err => exact iff_of_false (fun h => by cases h) (fun h => by cases h.2.2)
    | ok found => exact ⟨fun h => ⟨hempty.1, hempty.2, h⟩, fun h => h.2.2⟩

lemma enrichSource_dest (client : EnricherClient) (obs : Observation) : (enrichSource client obs).dest = obs.dest := by
  unfold enrichSource
  split <;> rfl

/-- The destination after the enrichment. -/
lemma dest_enrich_of_ok {client : EnricherClient} {pod : Pod} (h : resolveDestWorkload client obs = .ok pod) :
    (enrich (some client) obs).dest = workloadRefFromPod pod := by
  have hresolve : resolveDestWorkload client (enrichSource client obs) = .ok pod := by
    unfold resolveDestWorkload at h ⊢
    rw [enrichSource_dest]
    exact h
  have henrich : enrich (some client) obs = enrichDenyingPolicy client
      { enrichSource client obs with dest := workloadRefFromPod pod } := by
    simp only [enrich, enrichDest, hresolve]
  rw [henrich, (enrichDenyingPolicy_frame client _).1]

lemma dest_enrich_of_error {client : EnricherClient} {err : Err} (h : resolveDestWorkload client obs = .error err) :
    (enrich (some client) obs).dest = obs.dest := by
  have hresolve : resolveDestWorkload client (enrichSource client obs) = .error err := by
    unfold resolveDestWorkload at h ⊢
    rw [enrichSource_dest]
    exact h
  have henrich : enrich (some client) obs = enrichSource client obs := by
    simp only [enrich, enrichDest, hresolve]
  rw [henrich, enrichSource_dest]

lemma violationSubject_ingress {obs : Observation} (h : obs.direction = .ingress) {s : WorkloadRef} :
    violationSubject obs = some s ↔
      obs.dest = s ∧ s.ns ≠ "" ∧ s.ownerName ≠ "" ∧ s.isSupported = true := by
  unfold violationSubject
  rw [h, Option.filter_eq_some_iff]
  simp [and_assoc]

/-- **The subject of a rejected connection is the workload of the server.** -/
lemma subject_denied (g : Ingest) (now : Time) (timestamp : Nat) (rec : Record) (action : WorkloadNetworkPolicyMode)
    {wk : WorkloadRef} :
    violationSubject (enrich g.enricher (g.denied now timestamp rec action)) = some wk ↔ ServedBy g rec wk := by
  rw [violationSubject_ingress (enrich_frame _ _).1]
  unfold ServedBy
  -- the name of a pod is no workload
  have hname : (g.denied now timestamp rec action).dest.isSupported = false := rfl
  cases g.enricher with
  | none =>
    refine iff_of_false ?_ (by rintro ⟨_, _, hnone, -⟩; cases hnone)
    rintro ⟨rfl, -, -, hsupported⟩
    exact absurd hsupported (Bool.eq_false_iff.1 hname)
  | some client =>
    cases hresolve : resolveDestWorkload client (g.denied now timestamp rec action) with
    | error err =>
      rw [dest_enrich_of_error hresolve]
      refine iff_of_false ?_ ?_
      · rintro ⟨rfl, -, -, hsupported⟩
        exact absurd hsupported (Bool.eq_false_iff.1 hname)
      · rintro ⟨_, pod, hclient, hns, hpod, hget, -⟩
        obtain rfl := Option.some.inj hclient
        have hok : resolveDestWorkload client (g.denied now timestamp rec action) = .ok pod :=
          resolveDestWorkload_eq_ok.2 ⟨hns, hpod, hget⟩
        rw [hresolve] at hok
        cases hok
    | ok pod =>
      rw [dest_enrich_of_ok hresolve]
      obtain ⟨hns, hpod, hget⟩ := resolveDestWorkload_eq_ok.1 hresolve
      constructor
      · rintro ⟨hwk, hrest⟩
        exact ⟨client, pod, rfl, hns, hpod, hget, hwk, hrest⟩
      · rintro ⟨_, pod', hclient, -, -, hget', hwk, hrest⟩
        obtain rfl := Option.some.inj hclient
        obtain rfl := Except.ok.inj (hget.symm.trans hget')
        exact ⟨hwk, hrest⟩

end Subject

/-- A cycle of the sync, on the observations of a part of the log. -/
structure LogCycle where
  ingest : Ingest
  scrapedAt : Time
  tag : Bytes
  log : List LogLine
  snap : Snapshot
  nps : List NetworkPolicy
  /-- The policy, as the cycle finds it. -/
  wnp : WorkloadNetworkPolicy
  stored : snap.lookup wnp.key = some wnp
  result : ViolationsByWNP
  correlated : (agreeing snap).RunsOnce ((), correlateViolationsToWNPs (loggedObservations ingest scrapedAt tag log)
    (buildOwnershipIndex nps snap) snap (duplicateTargets snap)) ((), .ret result)
  now : Time

namespace LogCycle

/-- The call of `RecomputeStatus` on the policy. -/
def call (c : LogCycle) : Call where
  spec := c.wnp.spec
  annotations := c.wnp.annotations
  generation := c.wnp.generation
  scraped := (c.result.lookup c.wnp.key).getD []
  now := c.now

/-- The server of the connection is a pod of the workload that this policy and no other is for. -/
def Concerns (c : LogCycle) (rec : Record) : Prop :=
  ∃ wk, ServedBy c.ingest rec wk ∧ c.snap.values.filter (targets wk.ns (targetRefOf wk) .ingress) = [c.wnp]

/-- **The records of a cycle** are those of the rejected connections to pods of the workload. -/
lemma mem_scraped (c : LogCycle) {v : ViolationRecord} : v ∈ c.call.scraped ↔
    ∃ l ∈ c.log, ∃ action, rejected l.record.message = some action ∧ c.Concerns l.record ∧
      v = violationRecord c.wnp.key (enrich c.ingest.enricher
        (c.ingest.denied c.scrapedAt l.timestamp l.record action)) := by
  have hrecords : c.call.scraped = _ := correlate_records c.correlated c.wnp.key
  rw [hrecords, List.mem_filterMap]
  constructor
  · rintro ⟨obs, hobs, hrecord⟩
    obtain ⟨l, hl, hof⟩ := List.mem_filterMap.1 hobs
    obtain ⟨action, haction, rfl⟩ :=
      (Ingest.scraped_violation_iff l.known _ _ _).1 (observationOf_eq_some.1 hof)
    obtain ⟨htarget, rfl⟩ := recordFor_eq_some.1 hrecord
    obtain ⟨wk, wnp, hsubject, hone, hkey⟩ := attributeByTargetRef_eq_ok.1 htarget
    refine ⟨l, hl, action, haction, ⟨wk, (subject_denied ..).1 hsubject, ?_⟩, rfl⟩
    rw [(enrich_frame _ _).1] at hone
    -- two policies of the snapshot with one key
    have hmem : wnp ∈ c.snap.values := (List.mem_filter.1 (hone ▸ List.mem_singleton_self wnp)).1
    have hlookup := Store.mem_values.1 hmem
    rw [hkey, c.stored] at hlookup
    rw [Option.some.inj hlookup]
    exact hone
  · rintro ⟨l, hl, action, haction, ⟨wk, hserved, hone⟩, rfl⟩
    refine ⟨_, List.mem_filterMap.2 ⟨l, hl, observationOf_eq_some.2
      ((Ingest.scraped_violation_iff l.known _ _ _).2 ⟨action, haction, rfl⟩)⟩, recordFor_eq_some.2 ⟨?_, rfl⟩⟩
    refine attributeByTargetRef_eq_ok.2 ⟨wk, c.wnp, (subject_denied ..).2 hserved, ?_, rfl⟩
    rw [(enrich_frame _ _).1]
    exact hone

lemma dstPort_of_mem_scraped (c : LogCycle) {v : ViolationRecord} (hv : v ∈ c.call.scraped) : v.dstPort = 0 := by
  obtain ⟨l, -, action, -, -, rfl⟩ := c.mem_scraped.1 hv
  exact (enrich_frame _ _).2

lemma length_scraped_le (c : LogCycle) : c.call.scraped.length ≤ c.log.length := by
  have hrecords : c.call.scraped = _ := correlate_records c.correlated c.wnp.key
  rw [hrecords]
  exact (List.length_filterMap_le ..).trans (List.length_filterMap_le ..)

end LogCycle

/-- **The violations of a learned policy are the rejected connections of the log.**  Cycle after cycle, each with a
part of the log, with the cluster as it is then, on the status that the one before has stored and with whatever the
policy has learned by then: as long as nobody acknowledges a violation, the status has the newest hundred of the
violations that it had and of the rejected connections that were logged for pods of the workload which this policy alone
is for. -/
theorem istio_status_is_log {lib : Apimachinery} {key : NamespacedName} {cycles : List LogCycle}
    (hkey : ∀ c ∈ cycles, c.wnp.key = key) (hlearned : ∀ c ∈ cycles, IsLearnedIstioPolicy c.wnp.spec)
    (hannotations : ∀ c ∈ cycles, ∀ k ∈ c.wnp.annotations, acknowledgedID k = none) {w : WorkloadNetworkPolicy}
    (hstart : Settled w.status.violations) (hports : ∀ v ∈ w.status.violations, v.dstPort = 0) :
    (∃ w', syncCycles lib w (cycles.map LogCycle.call) = some w' ∧ IsNewest maxViolationRecords
      (latest ((w.status.violations ++ observed (cycles.map LogCycle.call)).map storedEntry))
        (w'.status.violations.map entry)) ∧
    ∀ v, v ∈ observed (cycles.map LogCycle.call) ↔ ∃ c ∈ cycles, ∃ l ∈ c.log, ∃ action,
      rejected l.record.message = some action ∧ c.Concerns l.record ∧
        v = violationRecord key (enrich c.ingest.enricher
          (c.ingest.denied c.scrapedAt l.timestamp l.record action)) := by
  have hkeeps : ∀ call ∈ cycles.map LogCycle.call, Keeps lib (fun k => (ofKey k).dstPort = 0) call := by
    intro call hcall
    obtain ⟨c, hc, rfl⟩ := List.mem_map.1 hcall
    obtain ⟨hbackend, hpermits⟩ : c.wnp.spec.backend = .istio ∧ ∀ v : ViolationRecord, v.dstPort = 0 →
      Status.permits lib c.wnp.spec v = false := not_permits_of_learned_istio (hlearned c hc)
    refine ⟨fun hk => ?_, hannotations c hc, fun k hk => hpermits (ofKey k) hk, fun v hv => ?_⟩
    · rw [show c.call.spec.backend = .istio from hbackend] at hk
      cases hk
    · exact (c.dstPort_of_mem_scraped hv : v.dstPort = 0)
  refine ⟨syncCycles_keeps hkeeps hstart hports, fun v => ?_⟩
  simp only [observed, List.mem_flatMap, List.mem_map, exists_exists_and_eq_and]
  refine exists_congr fun c => and_congr_right fun hc => ?_
  rw [c.mem_scraped, hkey c hc]

/-! A connection that was learned and is rejected in a later cycle. -/

def rejectedFields : Fields :=
  [(Ztunnel.messageKey, .string Ztunnel.msgViolationAllowMiss),
    (Ztunnel.proxyKey, .object [(Ztunnel.wlKey, .string (ascii "shop/web-5d4f7-x2x9k"))]),
    (Ztunnel.inboundKey, .object [(Ztunnel.peerKey, .string (ascii "10.244.0.9:40112"))])]

def rejectedLine : LogLine where
  timestamp := 7
  fields := rejectedFields
  proxy := [(Ztunnel.wlKey, .string (ascii "shop/web-5d4f7-x2x9k"))]
  inbound := [(Ztunnel.peerKey, .string (ascii "10.244.0.9:40112"))]
  known :=
    { texts := fun key hk => textual_of_isTextual
        ((by decide : ∀ key ∈ Ztunnel.textKeys, isTextual rejectedFields key = true) key hk)
      nestedProxy := Or.inr (Or.inr rfl)
      wl := Or.inr (Or.inr ⟨_, rfl⟩)
      nestedInbound := Or.inr (Or.inr rfl)
      peer := Or.inr (Or.inr ⟨_, rfl⟩) }

/-- The policy of `web`, which has learned a connection. -/
def meshProposal : WorkloadNetworkPolicyProposal where
  ns := "shop"
  name := getProposalName Scraper.webRef .ingress
  spec := learnIstioProposal Scraper.webRef [(clientPrincipal, 8080)]

def meshPolicy : WorkloadNetworkPolicy where
  ns := "shop"
  name := meshProposal.name
  spec := { toPolicyBackendSpec := meshProposal.spec.toPolicyBackendSpec
            toWorkloadTargetingSpec := meshProposal.spec.toWorkloadTargetingSpec
            mode := .protect }

def meshSnapshot : Snapshot := .ofList [meshPolicy]

lemma learned_meshPolicy : IsLearnedIstioPolicy meshPolicy.spec := by
  obtain ⟨promoted, hpromoted⟩ := exists_promotedPolicy meshProposal (by decide) .protect
  exact ⟨Scraper.webRef, [(clientPrincipal, 8080)], meshProposal, .protect, promoted, List.cons_ne_nil _ _, by decide,
    rfl, hpromoted, (promotedPolicy_eq_ok hpromoted).2.2.symm⟩

/-- The rejected connection, as it is recorded. -/
def rejectedRecord : ViolationRecord :=
  violationRecord meshPolicy.key (enrich (some (meshClient [meshPolicy]))
    ((meshIngest [meshPolicy]).denied 0 7 rejectedLine.record .protect))

lemma served_rejectedLine :
    ServedBy (meshIngest [meshPolicy]) rejectedLine.record (workloadRefFromPod Scraper.webPod) := by
  have hserver : (meshIngest [meshPolicy]).server rejectedLine.record = ⟨"shop", "web-5d4f7-x2x9k"⟩ := by
    decide +kernel
  unfold ServedBy
  rw [hserver]
  exact ⟨_, Scraper.webPod, rfl, by decide, by decide, rfl, rfl, by decide, by decide, by decide⟩

/-- The rejected connection is in the status. -/
theorem istio_status_is_log_web : ∃ c : LogCycle, c.log = [rejectedLine] ∧ c.wnp = meshPolicy ∧
    ∃ w', syncCycles .documented meshPolicy [c.call] = some w' ∧
      w'.status.violations.map entry = [storedEntry rejectedRecord] := by
  have hagrees : Sync.Agrees meshSnapshot ⟨.ofList [meshPolicy], fun _ => none⟩ :=
    ⟨List.Perm.refl _, fun _ _ => ⟨_, rfl⟩, by decide⟩
  obtain ⟨m, hm⟩ : ∃ m, (agreeing meshSnapshot).RunsOnce ((), correlateViolationsToWNPs
      (loggedObservations (meshIngest [meshPolicy]) 0 [] [rejectedLine]) (buildOwnershipIndex [] meshSnapshot)
      meshSnapshot (duplicateTargets meshSnapshot)) ((), .ret m) := Sync.correlate_ends hagrees _
  let c : LogCycle :=
    { ingest := meshIngest [meshPolicy], scrapedAt := 0, tag := [], log := [rejectedLine], snap := meshSnapshot,
      nps := [], wnp := meshPolicy, stored := rfl, result := m, correlated := hm, now := 9 }
  have hrejected : rejected rejectedLine.record.message = some .protect := by decide
  have hscraped : c.call.scraped = [rejectedRecord] := by
    have hmem : rejectedRecord ∈ c.call.scraped := c.mem_scraped.2
      ⟨rejectedLine, List.mem_singleton_self _, .protect, hrejected, ⟨_, served_rejectedLine, rfl⟩, rfl⟩
    have hle : c.call.scraped.length ≤ 1 := c.length_scraped_le
    have hone : c.call.scraped.length = 1 := le_antisymm hle (List.length_pos_of_mem hmem)
    obtain ⟨v, hv⟩ := List.length_eq_one_iff.1 hone
    rw [hv] at hmem ⊢
    rw [List.mem_singleton.1 hmem]
  have hobserved : meshPolicy.status.violations ++ observed ([c].map LogCycle.call) = [rejectedRecord] :=
    (List.append_nil c.call.scraped).trans hscraped
  have hkey : ∀ c' ∈ [c], c'.wnp.key = meshPolicy.key := List.forall_mem_singleton.2 rfl
  have hlearned : ∀ c' ∈ [c], IsLearnedIstioPolicy c'.wnp.spec := List.forall_mem_singleton.2 learned_meshPolicy
  have hannotations : ∀ c' ∈ [c], ∀ k ∈ c'.wnp.annotations, acknowledgedID k = none :=
    List.forall_mem_singleton.2 fun _ hk => absurd hk (AList.notMem_empty _)
  have hstart : Settled meshPolicy.status.violations := ⟨List.nodup_nil, by decide, List.forall_mem_nil _⟩
  obtain ⟨⟨w', hcycles, hnewest⟩, -⟩ := istio_status_is_log hkey hlearned hannotations hstart (List.forall_mem_nil _)
  rw [hobserved] at hnewest
  exact ⟨c, rfl, rfl, w', hcycles, hnewest.eq_singleton (by decide)⟩

end NetworkEnforcer.Enforcement
