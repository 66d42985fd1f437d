import Mathlib.Data.List.TakeWhile
import NetworkEnforcer.Lib.Groups
import NetworkEnforcer.Api.ViolationRecord
import NetworkEnforcer.Learning.Proposal

/-!
# Learning and clearing, istio backend

`internal/controller/learning_istio.go` files a learned port under its principal as nested lists of
strings; `clearAllowedIstioViolations` reads the same lists back as ranges of ports.  In between stand
the groups of `Lib.Groups`: `learnedIstioRules_eq_map` on the side of the learner,
`istioAllows_map` on the side of the matcher.
-/

namespace NetworkEnforcer.Learning

open NetworkEnforcer.Lib NetworkEnforcer.Api

/-! ## The learner -/

/-- The rule has exactly one source with exactly one principal, and it is this one. -/
def hasPrincipal (rule : IstioAuthorizationPolicyRule) (principal : String) : Bool :=
  match rule.from_ with
  | [f] =>
    match f.source.principals with
    | [p] => p = principal
    | _ => false
  | _ => false

/-- The destination with one port. -/
def istioTo (port : String) : IstioTo := { operation := { ports := [port] } }

/-- The part of the loop that runs on the rule of the principal. -/
def attachPort (rule : IstioAuthorizationPolicyRule) (port : String) : IstioAuthorizationPolicyRule :=
  match rule.to_ with
  | [] => { rule with to_ := [istioTo port] }
  | t :: ts =>
    if (t :: ts).any (fun t => t.operation.ports.contains port) then rule
    else { rule with to_ := { t with operation := { ports := t.operation.ports ++ [port] } } :: ts }

def upsertIstioRules (principal port : String) :
    List IstioAuthorizationPolicyRule → List IstioAuthorizationPolicyRule
  | [] => [{ from_ := [{ source := { principals := [principal] } }], to_ := [istioTo port] }]
  | rule :: rules =>
    if hasPrincipal rule principal then attachPort rule port :: rules
    else rule :: upsertIstioRules principal port rules

def upsertIstioLearnedRule (spec : IstioAuthorizationPolicySpec) (principal port : String) :
    IstioAuthorizationPolicySpec :=
  { spec with rules := upsertIstioRules principal port spec.rules }

/-- The mutation of `updateProposal`. -/
def mutateIstioProposal (dest : WorkloadRef) (principal : String) (dstPort : Int)
    (proposal : WorkloadNetworkPolicyProposalSpec) : WorkloadNetworkPolicyProposalSpec :=
  let proposal := { proposal with toWorkloadTargetingSpec := workloadTargetingSpec dest .ingress }
  match proposal.istio with
  | some spec =>
    { proposal with istio := some (upsertIstioLearnedRule spec principal (formatInt dstPort)) }
  | none =>
    { proposal with
        backend := .istio
        istio := some (upsertIstioLearnedRule { selector := dest.selector } principal (formatInt dstPort)) }

/-- The rules of a sequence of learned principals and ports, from a specification without rules. -/
def learnIstio (spec : IstioAuthorizationPolicySpec) (events : List (String × Int)) :
    IstioAuthorizationPolicySpec :=
  events.foldl (fun spec e => upsertIstioLearnedRule spec e.1 (formatInt e.2)) spec

/-! ## Rules as groups -/

/-- The rule of a group of ports. -/
def istioRuleOf (g : String × List String) : IstioAuthorizationPolicyRule where
  from_ := [{ source := { principals := [g.1] } }]
  to_ := [{ operation := { ports := g.2 } }]

/-- Equality of principals, as `upsertIstioLearnedRule` compares them. -/
def samePrincipal (p q : String) : Bool := p = q

lemma samePrincipal_equivalence : Equivalence fun p q => samePrincipal p q = true := by
  refine ⟨?_, ?_, ?_⟩
  · simp [samePrincipal]
  · intro p q h
    simpa [samePrincipal, eq_comm] using h
  · intro p q r h h'
    simp only [samePrincipal, decide_eq_true_iff] at h h' ⊢
    exact h.trans h'

@[simp] lemma hasPrincipal_istioRuleOf (g : String × List String) (principal : String) :
    hasPrincipal (istioRuleOf g) principal = samePrincipal g.1 principal := rfl

lemma attachPort_istioRuleOf (g : String × List String) (port : String) :
    attachPort (istioRuleOf g) port =
      istioRuleOf (g.1, if port ∈ g.2 then g.2 else g.2 ++ [port]) := by
  by_cases h : port ∈ g.2
  · simp [attachPort, istioRuleOf, h]
  · simp [attachPort, istioRuleOf, h]

lemma upsertIstioRules_map (principal port : String) (gs : Groups String String) :
    upsertIstioRules principal port (gs.map istioRuleOf) =
      (Groups.insert samePrincipal principal port gs).map istioRuleOf := by
  induction gs with
  | nil => rfl
  | cons g gs ih =>
    rw [List.map_cons, upsertIstioRules, Groups.insert, hasPrincipal_istioRuleOf]
    by_cases hp : samePrincipal g.1 principal = true
    · rw [if_pos hp, if_pos hp, List.map_cons, attachPort_istioRuleOf]
    · rw [if_neg hp, if_neg hp, List.map_cons, ih]

/-- The groups behind the learned rules. -/
def learnedIstioGroups (events : List (String × Int)) : Groups String String :=
  Groups.ofPairs samePrincipal (events.map fun e => (e.1, formatInt e.2))

theorem learnedIstioRules_eq_map {spec : IstioAuthorizationPolicySpec} (h : spec.rules = [])
    (events : List (String × Int)) :
    (learnIstio spec events).rules = (learnedIstioGroups events).map istioRuleOf := by
  have key : ∀ (events : List (String × Int)) (spec : IstioAuthorizationPolicySpec)
      (gs : Groups String String), spec.rules = gs.map istioRuleOf →
      (learnIstio spec events).rules = ((events.map fun e => (e.1, formatInt e.2)).foldl
        (fun gs e => Groups.insert samePrincipal e.1 e.2 gs) gs).map istioRuleOf := by
    intro events
    induction events with
    | nil => exact fun _ _ h => h
    | cons e events ih =>
      intro spec gs h
      rw [List.map_cons, List.foldl_cons]
      refine ih (upsertIstioLearnedRule spec e.1 (formatInt e.2)) _ ?_
      show upsertIstioRules e.1 (formatInt e.2) spec.rules = _
      rw [h, upsertIstioRules_map]
  exact key events spec [] h

/-! ## The matcher -/

/-- A port written in decimal matches exactly itself. -/
lemma istioPortMatches_formatInt {port dstPort : Int} (h0 : 0 ≤ port) (h : port < 2 ^ 31) :
    istioPortMatches (formatInt port) dstPort = true ↔ port = dstPort := by
  have hdigits : ∀ c ∈ (formatInt port).toList, (decide (c ≠ '-')) = true := by
    intro c hc
    rw [toList_formatInt h0] at hc
    have hdigit := Nat.isDigit_of_mem_toDigits (by decide) (by decide) hc
    rw [decide_eq_true_iff]
    rintro rfl
    exact absurd hdigit (by decide)
  have hlo : (formatInt port).toList.takeWhile (· ≠ '-') = (formatInt port).toList :=
    List.takeWhile_eq_self_iff.2 hdigits
  have hhi : (formatInt port).toList.dropWhile (· ≠ '-') = [] :=
    List.dropWhile_eq_nil_iff.2 hdigits
  have hparse : parseInt 32 (formatInt port) = some port := parseInt_formatInt h0 (by omega)
  have hrange : parseIstioPortRange (formatInt port) = some (port, port) := by
    simp only [parseIstioPortRange, hlo, hhi, String.ofList_toList, hparse, List.drop_nil]
    rfl
  simp only [istioPortMatches, hrange, Bool.and_eq_true, decide_eq_true_iff]
  omega

lemma istioAllows_map {spec : IstioAuthorizationPolicySpec} {gs : Groups String String}
    (hrules : spec.rules = gs.map istioRuleOf) (hstar : ∀ g ∈ gs, g.1 ≠ "*")
    (hne : ∀ g ∈ gs, g.2 ≠ []) {v : ViolationRecord} :
    istioAllows spec v = true ↔
      ∃ g ∈ gs, g.1 = v.source.identity ∧ ∃ port ∈ g.2, istioPortMatches port v.dstPort = true := by
  simp only [istioAllows, hrules, List.any_map, List.any_eq_true, Function.comp, Bool.and_eq_true]
  refine exists_congr fun g => and_congr_right fun hg => ?_
  have hports : g.2.isEmpty = false := by simpa using hne g hg
  simp [istioRuleAllowsSource, istioRuleAllowsPort, istioRuleOf, hstar g hg, hports]

/-- **The learned rules allow exactly the learned pairs.** -/
theorem istioAllows_learnIstio {spec : IstioAuthorizationPolicySpec} (hempty : spec.rules = [])
    {events : List (String × Int)} (hstar : ∀ e ∈ events, e.1 ≠ "*")
    (hport : ∀ e ∈ events, 1 ≤ e.2 ∧ e.2 ≤ 65535) (v : ViolationRecord) :
    istioAllows (learnIstio spec events) v = true ↔ (v.source.identity, v.dstPort) ∈ events := by
  have hgrouped : Groups.Grouped samePrincipal (learnedIstioGroups events) := Groups.grouped_ofPairs _
  have hholds : ∀ {p q : String}, Groups.Holds samePrincipal (learnedIstioGroups events) p q ↔
      ∃ e ∈ events, e.1 = p ∧ formatInt e.2 = q := by
    intro p q
    rw [learnedIstioGroups, Groups.holds_ofPairs samePrincipal_equivalence]
    simp [samePrincipal]
  have hmem : ∀ g ∈ learnedIstioGroups events, ∀ q ∈ g.2, ∃ e ∈ events, e.1 = g.1 ∧ formatInt e.2 = q :=
    fun g hg q hq => hholds.1 ⟨g, hg, samePrincipal_equivalence.refl _, hq⟩
  rw [istioAllows_map (learnedIstioRules_eq_map hempty events) ?star hgrouped.nonempty]
  case star =>
    intro g hg
    obtain ⟨q, hq⟩ := List.exists_mem_of_ne_nil _ (hgrouped.nonempty g hg)
    obtain ⟨e, he, heq, _⟩ := hmem g hg q hq
    exact heq ▸ hstar e he
  constructor
  · rintro ⟨g, hg, hid, q, hq, hmatch⟩
    obtain ⟨e, he, hprincipal, rfl⟩ := hmem g hg q hq
    obtain ⟨hlo, hhi⟩ := hport e he
    rw [istioPortMatches_formatInt (by omega) (by omega)] at hmatch
    obtain ⟨p, port⟩ := e
    obtain rfl : port = v.dstPort := hmatch
    obtain rfl : p = v.source.identity := hprincipal.trans hid
    exact he
  · intro he
    obtain ⟨g, hg, hsame, hq⟩ := hholds.2 ⟨_, he, rfl, rfl⟩
    obtain ⟨hlo, hhi⟩ := hport _ he
    refine ⟨g, hg, by simpa [samePrincipal] using hsame, _, hq, ?_⟩
    rw [istioPortMatches_formatInt (by omega) (by omega)]

/-- **Learning and clearing agree.**  Clearing a policy with the rules of a learned sequence drops
exactly the violations whose identity and port were learned together, in whatever order and however
often that happened. -/
theorem istio_learning_matches_clearing {spec : IstioAuthorizationPolicySpec} (hempty : spec.rules = [])
    {events : List (String × Int)} (hprincipal : ∀ e ∈ events, e.1 ≠ "" ∧ e.1 ≠ "*")
    (hport : ∀ e ∈ events, 1 ≤ e.2 ∧ e.2 ≤ 65535) {w : WorkloadNetworkPolicy}
    (hw : w.spec.istio = some (learnIstio spec events)) :
    (∀ v, istioAllows (learnIstio spec events) v = true ↔ (v.source.identity, v.dstPort) ∈ events) ∧
    w.clearAllowedIstioViolations.status.violations =
      w.status.violations.filter (fun v => (v.source.identity, v.dstPort) ∉ events) ∧
    ∀ (events' : List (String × Int)) (w' : WorkloadNetworkPolicy), (∀ e, e ∈ events' ↔ e ∈ events) →
      w'.spec.istio = some (learnIstio spec events') → w'.status = w.status →
      w'.clearAllowedIstioViolations.status = w.clearAllowedIstioViolations.status := by
  have hstar : ∀ e ∈ events, e.1 ≠ "*" := fun e he => (hprincipal e he).2
  have hallows := istioAllows_learnIstio hempty hstar hport
  have hfilter : ∀ v, (!istioAllows (learnIstio spec events) v) =
      decide ((v.source.identity, v.dstPort) ∉ events) := by
    intro v
    rw [Bool.eq_iff_iff, decide_eq_true_iff, Bool.not_eq_true', Bool.eq_false_iff, ne_eq, hallows v]
  refine ⟨hallows, ?_, ?_⟩
  · rw [WorkloadNetworkPolicy.clearAllowedIstioViolations, hw]
    exact List.filter_congr fun v _ => hfilter v
  · intro events' w' hmem hw' hstatus
    have hallows' := istioAllows_learnIstio hempty (fun e he => hstar e ((hmem e).1 he))
      (fun e he => hport e ((hmem e).1 he))
    have heq : istioAllows (learnIstio spec events') = istioAllows (learnIstio spec events) := by
      funext v
      rw [Bool.eq_iff_iff, hallows v, hallows' v, hmem]
    simp only [WorkloadNetworkPolicy.clearAllowedIstioViolations, hw, hw', hstatus, heq]

/-- Two principals, each learned with a port of its own. -/
def sampleEvents : List (String × Int) := [("td/ns/a/sa/x", 80), ("td/ns/a/sa/y", 443)]

/-- A violation of the first principal. -/
def sampleViolation (port : Int) : ViolationRecord :=
  { source := { identity := "td/ns/a/sa/x" }, dstPort := port }

def sampleIstioPolicy : WorkloadNetworkPolicy where
  spec := { backend := .istio
            istio := some (learnIstio { selector := { matchLabels := AList.singleton "app" "web" } } sampleEvents)
            targetRef := ⟨workloadKindDeployment, "web"⟩, direction := .ingress }
  status := { violations := [sampleViolation 80, sampleViolation 443] }

/-- The violation on the other principal's port stays. -/
theorem istio_learning_matches_clearing_sample :
    sampleIstioPolicy.clearAllowedIstioViolations.status.violations = [sampleViolation 443] := by
  rw [(istio_learning_matches_clearing (w := sampleIstioPolicy) rfl (by decide) (by decide) rfl).2.1]
  rfl

end NetworkEnforcer.Learning
