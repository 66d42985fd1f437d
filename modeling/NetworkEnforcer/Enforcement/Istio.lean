import NetworkEnforcer.Learning.Istio
import NetworkEnforcer.Reconcile.Ready
import NetworkEnforcer.Semantics.AuthorizationPolicy
import NetworkEnforcer.Status.IstioClearing

/-!
# What the data plane allows, istio backend

The rules of a policy are rendered one by one (`populatedRule`).  Two results compare what the rendered
`AuthorizationPolicy` allows with what the rest of the program takes it to allow:

* `authorized_iff_learned` — once `Ready` is `True`, the connections that pass are the learned ones, and in
  monitor mode the object is a dry run;
* `istioClearing_matches_policy` — clearing drops no violation that the policy would still deny, as long as
  ports are written in decimal, and without patterns in the principals it drops all the others.
-/

namespace NetworkEnforcer.Enforcement

open NetworkEnforcer.Lib NetworkEnforcer.Api NetworkEnforcer.Semantics NetworkEnforcer.Reconcile
open NetworkEnforcer.Learning
open NetworkEnforcer.Status (drops)

/-! ## Rendered rules -/

/-- A rule as `populateIstioAuthorizationPolicySpec` renders it. -/
def populatedRule (rule : IstioAuthorizationPolicyRule) : AuthorizationRule where
  from_ := rule.from_.map fun f => ⟨⟨f.source.principals⟩⟩
  to_ := rule.to_.map fun t => ⟨⟨t.operation.ports⟩⟩

lemma rules_populated (spec : IstioAuthorizationPolicySpec) :
    (populateIstioAuthorizationPolicySpec spec).rules = spec.rules.map populatedRule := rfl

lemma allows_populated (spec : IstioAuthorizationPolicySpec) (c : Connection) :
    allows (populateIstioAuthorizationPolicySpec spec) c = true ↔
      ∃ rule ∈ spec.rules, ruleAllows (populatedRule rule) c = true := by
  rw [allows, rules_populated, List.any_map, List.any_eq_true]
  rfl

lemma ruleAllows_populatedRule (rule : IstioAuthorizationPolicyRule) (c : Connection) :
    ruleAllows (populatedRule rule) c =
      (admits (fun f => admits (principalMatches · c.principal) f.source.principals) rule.from_ &&
        admits (fun t => admits (portIs · c.port) t.operation.ports) rule.to_) := by
  rw [ruleAllows, populatedRule, admits_map, admits_map]
  rfl

/-! ## Learned rules -/

/-- The specification of a workload's proposal after a sequence of learned principals and ports. -/
def learnIstioProposal (dest : WorkloadRef) (events : List (String × Int)) : WorkloadNetworkPolicyProposalSpec :=
  events.foldl (fun spec e => mutateIstioProposal dest e.1 e.2 spec) (getProposalMetadata dest .ingress).spec

/-- **The proposal after a sequence of connections has the rules of exactly these.** -/
lemma learnIstioProposal_spec (dest : WorkloadRef) {events : List (String × Int)} (hne : events ≠ []) :
    (learnIstioProposal dest events).backend = .istio ∧
      (learnIstioProposal dest events).istio = some (learnIstio { selector := dest.selector } events) := by
  -- from the first event on there is a specification, to which each later one adds its rule
  have hstep : ∀ (events : List (String × Int)) (proposal : WorkloadNetworkPolicyProposalSpec)
      (spec : IstioAuthorizationPolicySpec), proposal.backend = .istio → proposal.istio = some spec →
      (events.foldl (fun spec e => mutateIstioProposal dest e.1 e.2 spec) proposal).backend = .istio ∧
        (events.foldl (fun spec e => mutateIstioProposal dest e.1 e.2 spec) proposal).istio =
          some (learnIstio spec events) := by
    intro events
    induction events with
    | nil => exact fun _ _ hb hi => ⟨hb, hi⟩
    | cons e events ih =>
      intro proposal spec hb hi
      refine ih _ (upsertIstioLearnedRule spec e.1 (formatInt e.2)) ?_ ?_
      · simp only [mutateIstioProposal, hi]
        exact hb
      · simp only [mutateIstioProposal, hi]
  cases events with
  | nil => exact absurd rfl hne
  | cons e events => exact hstep events _ _ rfl rfl

/-- The groups of a sequence hold its principals and ports. -/
lemma mem_learnedIstioGroups {events : List (String × Int)} {g : String × List String}
    (hg : g ∈ learnedIstioGroups events) :
    (∃ e ∈ events, e.1 = g.1) ∧ ∀ q ∈ g.2, ∃ e ∈ events, e.1 = g.1 ∧ formatInt e.2 = q := by
  have hports : ∀ q ∈ g.2, ∃ e ∈ events, e.1 = g.1 ∧ formatInt e.2 = q := by
    intro q hq
    have hholds : Groups.Holds samePrincipal (learnedIstioGroups events) g.1 q :=
      ⟨g, hg, samePrincipal_equivalence.refl _, hq⟩
    rw [learnedIstioGroups, Groups.holds_ofPairs samePrincipal_equivalence] at hholds
    simpa [samePrincipal] using hholds
  obtain ⟨q, hq⟩ := List.exists_mem_of_ne_nil _ ((Groups.grouped_ofPairs _).nonempty g hg)
  obtain ⟨e, he, hprincipal, -⟩ := hports q hq
  exact ⟨⟨e, he, hprincipal⟩, hports⟩

/-- The rule of a group allows the principal of the group on its ports. -/
lemma ruleAllows_group {g : String × List String} (hliteral : literalPrincipal g.1 = true) (hne : g.2 ≠ [])
    (c : Connection) : ruleAllows (populatedRule (istioRuleOf g)) c = true ↔
      g.1 = c.principal ∧ ∃ q ∈ g.2, portIs q c.port = true := by
  rw [ruleAllows_populatedRule, Bool.and_eq_true]
  refine and_congr ?_ ?_
  · simp only [istioRuleOf, admits_cons, List.any_nil, Bool.or_false,
      principalMatches_literal hliteral, decide_eq_true_eq]
  · simp only [istioRuleOf, admits_cons, List.any_nil, Bool.or_false]
    rw [admits_of_ne_nil hne, List.any_eq_true]

/-- **The rendered rules of a sequence allow its connections, and no others.** -/
theorem allows_learnIstio {spec : IstioAuthorizationPolicySpec} (hempty : spec.rules = [])
    {events : List (String × Int)} (hliteral : ∀ e ∈ events, literalPrincipal e.1 = true)
    (hport : ∀ e ∈ events, 0 ≤ e.2) (c : Connection) :
    allows (populateIstioAuthorizationPolicySpec (learnIstio spec events)) c = true ↔
      (c.principal, c.port) ∈ events := by
  have hgroups : Groups.Grouped samePrincipal (learnedIstioGroups events) := Groups.grouped_ofPairs _
  have hrule : ∀ g ∈ learnedIstioGroups events, literalPrincipal g.1 = true := by
    intro g hg
    obtain ⟨⟨e, he, heq⟩, -⟩ := mem_learnedIstioGroups hg
    exact heq ▸ hliteral e he
  rw [allows_populated, learnedIstioRules_eq_map hempty]
  simp only [List.mem_map, exists_exists_and_eq_and]
  constructor
  · rintro ⟨g, hg, hallow⟩
    obtain ⟨hprincipal, q, hq, hmatch⟩ := (ruleAllows_group (hrule g hg) (hgroups.nonempty g hg) c).1 hallow
    obtain ⟨e, he, hfirst, rfl⟩ := (mem_learnedIstioGroups hg).2 q hq
    have heq : e = (c.principal, c.port) :=
      Prod.ext (hfirst.trans hprincipal) ((portIs_formatInt (hport e he)).1 hmatch)
    exact heq ▸ he
  · intro he
    have hholds : Groups.Holds samePrincipal (learnedIstioGroups events) c.principal (formatInt c.port) := by
      rw [learnedIstioGroups, Groups.holds_ofPairs samePrincipal_equivalence]
      exact ⟨_, List.mem_map_of_mem he, samePrincipal_equivalence.refl _, rfl⟩
    obtain ⟨g, hg, hsame, hq⟩ := hholds
    refine ⟨g, hg, (ruleAllows_group (hrule g hg) (hgroups.nonempty g hg) c).2 ⟨?_, _, hq, ?_⟩⟩
    · simpa [samePrincipal] using hsame
    · exact (portIs_formatInt (hport _ he)).2 rfl

/-! ## The rendered object -/

/-- Istio evaluates a dry run, and enforces anything else. -/
def enforced (ap : AuthorizationPolicy) : Bool := ap.annotations.lookup istioDryRunAnnotationKey ≠ some "true"

/-- **The data plane allows what was learned.**  Connections to a workload are learned into a proposal, the
proposal is promoted in either mode, and a call of `Reconcile` on the policy ends without an error and with
`Ready = True`.  Then the cluster has an authorization policy for the pods with the labels of the workload's
selector, which the policy controls; it is enforced in protect mode only, and it allows exactly the
connections that were learned. -/
theorem authorized_iff_learned {dest : WorkloadRef} {events : List (String × Int)}
    {proposal : WorkloadNetworkPolicyProposal} {mode : WorkloadNetworkPolicyMode}
    {promoted wnp : WorkloadNetworkPolicy} (w : Reconcile.World) (env : Env w.toCluster) (hne : events ≠ [])
    (hliteral : ∀ e ∈ events, literalPrincipal e.1 = true) (hport : ∀ e ∈ events, 0 ≤ e.2)
    (hlearn : proposal.spec = learnIstioProposal dest events)
    (hpromoted : promotedPolicy proposal mode = .ok promoted)
    (hw : w.wnps.lookup wnp.key = some wnp) (hspec : wnp.spec = promoted.spec)
    (hok : (Reconcile.reconcile w env wnp.key).1 = none)
    (hready : readyStatus (Reconcile.reconcile w env wnp.key).2 wnp.key = some .conditionTrue) :
    ∃ ap, (Reconcile.reconcile w env wnp.key).2.authorizationPolicies.lookup wnp.key = some ap ∧
      isControlledBy ap.ownerReferences wnp.uid = true ∧ ap.spec.action = .allow ∧
      (∀ labels, selectsPod ap.spec labels = true ↔
        ∀ e ∈ dest.selector.matchLabels.entries, labels.lookup e.1 = some e.2) ∧
      (enforced ap = true ↔ mode = .protect) ∧
      ∀ c, allows ap.spec c = true ↔ (c.principal, c.port) ∈ events := by
  obtain ⟨hbackend, histio⟩ := learnIstioProposal_spec dest hne
  have hcopied := (promotedPolicy_eq_ok hpromoted).2.2
  rw [hlearn, ← hspec] at hcopied
  have hb : wnp.spec.backend = .istio := by rw [hcopied]; exact hbackend
  have hi : wnp.spec.istio = some (learnIstio { selector := dest.selector } events) := by
    rw [hcopied]
    exact histio
  have hmode : wnp.spec.mode = mode := by rw [hcopied]
  obtain ⟨-, -, hrender, hsame⟩ := ready_inversion w env hw hok hready
  obtain ⟨ap, hlook, hr⟩ := renderPolicy_istio env hb hrender
  have hap : populateIstioAuthorizationPolicySpec (learnIstio { selector := dest.selector } events) = ap.spec := by
    have hmap := hr.spec
    rw [hi] at hmap
    exact Option.some.inj hmap
  have hselector : ∀ (events : List (String × Int)) (spec : IstioAuthorizationPolicySpec),
      (learnIstio spec events).selector = spec.selector := by
    intro events
    induction events with
    | nil => exact fun _ => rfl
    | cons e events ih => exact fun spec => ih _
  refine ⟨ap, by rw [hsame.authorizationPolicies]; exact hlook, hr.controlled, by rw [← hap]; rfl, ?_, ?_, ?_⟩
  · intro labels
    have hlabels : ap.spec.selector = some ⟨dest.selector.matchLabels⟩ := by
      rw [← hap]
      exact congrArg (fun s : LabelSelector => some (WorkloadSelector.mk s.matchLabels)) (hselector events _)
    rw [selectsPod, hlabels]
    simp
  · rw [enforced, hr.dryRun, hmode]
    cases mode <;> decide
  · intro c
    rw [← hap]
    exact allows_learnIstio rfl hliteral hport c

/-- The API of the shop, to which its frontend connects. -/
def apiWorkload : WorkloadRef where
  ns := "shop"
  ownerKind := workloadKindDeployment
  ownerName := "api"
  selector := { matchLabels := AList.singleton "app" "api" }

def apiConnections : List (String × Int) := [("cluster.local/ns/shop/sa/web", 8080)]

/-- The proposal after that connection, and the policy promoted from it. -/
def apiProposal : WorkloadNetworkPolicyProposal where
  ns := "shop"
  name := getProposalName apiWorkload .ingress
  spec := learnIstioProposal apiWorkload apiConnections

def apiPolicy : WorkloadNetworkPolicy where
  ns := "shop"
  name := apiProposal.name
  uid := "u2"
  spec := { toPolicyBackendSpec := apiProposal.spec.toPolicyBackendSpec
            toWorkloadTargetingSpec := apiProposal.spec.toWorkloadTargetingSpec
            mode := .protect }

def apiWorld : Reconcile.World where
  wnps := .ofList [apiPolicy]
  deployments := .ofList [{ ns := "shop", name := "api", uid := "d2", templateLabels := AList.singleton "app" "api" }]

/-- One connection is learned, promoted and enforced. -/
theorem authorized_iff_learned_api :
    ∃ ap, (Reconcile.reconcile apiWorld (.direct _ 5) apiPolicy.key).2.authorizationPolicies.lookup apiPolicy.key = some ap ∧
      enforced ap = true ∧ ∀ c, allows ap.spec c = true ↔ (c.principal, c.port) ∈ apiConnections := by
  obtain ⟨promoted, hpromoted⟩ := exists_promotedPolicy apiProposal (by decide) .protect
  have hspec : apiPolicy.spec = promoted.spec := (promotedPolicy_eq_ok hpromoted).2.2.symm
  have hlearn : apiProposal.spec = learnIstioProposal apiWorkload apiConnections := rfl
  obtain ⟨ap, hlook, -, -, -, henforced, hallows⟩ := authorized_iff_learned apiWorld (.direct _ 5)
    (List.cons_ne_nil _ _) (by decide +kernel) (by decide) hlearn hpromoted rfl hspec (by decide +kernel)
    (by decide +kernel)
  exact ⟨ap, hlook, henforced.2 rfl, hallows⟩

/-! ## Clearing -/

/-- Ports are written in decimal, as Istio demands. -/
def DecimalPorts (spec : IstioAuthorizationPolicySpec) : Prop :=
  ∀ rule ∈ spec.rules, ∀ t ∈ rule.to_, ∀ q ∈ t.operation.ports, (parseUint q.toList).isSome = true

/-- Principals stand for themselves, or for any. -/
def PlainPrincipals (spec : IstioAuthorizationPolicySpec) : Prop :=
  ∀ rule ∈ spec.rules, ∀ f ∈ rule.from_, ∀ p ∈ f.source.principals, p = "*" ∨ literalPrincipal p = true

section Clearing

variable {spec : IstioAuthorizationPolicySpec} {rule : IstioAuthorizationPolicyRule}

/-- The source part, as alternatives of alternatives. -/
lemma istioRuleAllowsSource_eq_admits (rule : IstioAuthorizationPolicyRule) (src : WorkloadRef) :
    istioRuleAllowsSource rule src =
      admits (fun f => admits (fun p => p = "*" || p = src.identity) f.source.principals) rule.from_ := rfl

/-- With decimal ports both readings of the port part are the same. -/
lemma istioRuleAllowsPort_eq (h : DecimalPorts spec) (hrule : rule ∈ spec.rules) {port : Int}
    (hport : port < 2 ^ 31) : istioRuleAllowsPort rule port =
      admits (fun t => admits (portIs · port) t.operation.ports) rule.to_ := by
  have hadmits : istioRuleAllowsPort rule port =
      admits (fun t => admits (istioPortMatches · port) t.operation.ports) rule.to_ := rfl
  rw [hadmits]
  refine admits_congr fun t ht => admits_congr fun q hq => ?_
  obtain ⟨n, hn⟩ := Option.isSome_iff_exists.1 (h rule hrule t ht q hq)
  exact istioPortMatches_decimal hn hport

/-- What clearing takes for an allowed source is one. -/
lemma sourceAllowed_of_istioRuleAllowsSource {src : WorkloadRef} (hknown : src.identity ≠ "")
    (h : istioRuleAllowsSource rule src = true) :
    admits (fun f => admits (principalMatches · src.identity) f.source.principals) rule.from_ = true := by
  rw [istioRuleAllowsSource_eq_admits, admits_iff] at h
  rw [admits_iff]
  refine h.imp_right ?_
  rintro ⟨f, hf, hp⟩
  refine ⟨f, hf, ?_⟩
  rw [admits_iff] at hp ⊢
  refine hp.imp_right ?_
  rintro ⟨p, hmem, hp⟩
  refine ⟨p, hmem, ?_⟩
  rw [Bool.or_eq_true, decide_eq_true_eq, decide_eq_true_eq] at hp
  rcases hp with rfl | rfl
  · exact decide_eq_true hknown
  · exact principalMatches_self hknown

/-- Without patterns both readings of the source part are the same. -/
lemma istioRuleAllowsSource_eq (h : PlainPrincipals spec) (hrule : rule ∈ spec.rules) {src : WorkloadRef}
    (hknown : src.identity ≠ "") : istioRuleAllowsSource rule src =
      admits (fun f => admits (principalMatches · src.identity) f.source.principals) rule.from_ := by
  rw [istioRuleAllowsSource_eq_admits]
  refine admits_congr fun f hf => admits_congr fun p hp => ?_
  rcases h rule hrule f hf p hp with rfl | hliteral
  · rw [principalMatches_star, decide_eq_true hknown]
    rfl
  · have hstar : p ≠ "*" := by
      rintro rfl
      cases hliteral
    rw [principalMatches_literal hliteral, decide_eq_false hstar, Bool.false_or]

end Clearing

/-- **Clearing follows the rendered policy.**  Take a policy whose ports are written in decimal, and a violation
with a known source.  If clearing drops it then the authorization policy rendered from the same specification
allows the connection; and if no principal is a pattern, clearing drops every violation of an allowed
connection. -/
theorem istioClearing_matches_policy {w : WorkloadNetworkPolicy} {spec : IstioAuthorizationPolicySpec}
    (hspec : w.spec.istio = some spec) (hports : DecimalPorts spec) {v : ViolationRecord}
    (hv : v ∈ w.status.violations) (hknown : v.source.identity ≠ "") (hport : v.dstPort < 2 ^ 31) :
    (v ∉ w.clearAllowedIstioViolations.status.violations →
      allows (populateIstioAuthorizationPolicySpec spec) ⟨v.source.identity, v.dstPort⟩ = true) ∧
    (PlainPrincipals spec →
      allows (populateIstioAuthorizationPolicySpec spec) ⟨v.source.identity, v.dstPort⟩ = true →
        v ∉ w.clearAllowedIstioViolations.status.violations) := by
  have hdropped : v ∉ w.clearAllowedIstioViolations.status.violations ↔ ∃ rule ∈ spec.rules, drops rule v = true := by
    rw [Status.mem_clearAllowedIstioViolations hspec]
    simp [hv]
  rw [hdropped, allows_populated]
  constructor
  · rintro ⟨rule, hrule, hdrop⟩
    rw [drops, Bool.and_eq_true] at hdrop
    refine ⟨rule, hrule, ?_⟩
    rw [ruleAllows_populatedRule, Bool.and_eq_true, ← istioRuleAllowsPort_eq hports hrule hport]
    exact ⟨sourceAllowed_of_istioRuleAllowsSource hknown hdrop.1, hdrop.2⟩
  · rintro hplain ⟨rule, hrule, hallow⟩
    refine ⟨rule, hrule, ?_⟩
    rw [ruleAllows_populatedRule] at hallow
    rw [drops, istioRuleAllowsSource_eq hplain hrule hknown, istioRuleAllowsPort_eq hports hrule hport]
    exact hallow

/-- A violation on a port that was learned since: clearing may drop it. -/
theorem istioClearing_matches_policy_api :
    let v : ViolationRecord := { source := { identity := "cluster.local/ns/shop/sa/web" }, dstPort := 8080 }
    let w := { apiPolicy with status := { violations := [v] } }
    v ∉ w.clearAllowedIstioViolations.status.violations := by
  intro v w
  have hspec : w.spec.istio = some (learnIstio { selector := apiWorkload.selector } apiConnections) := rfl
  refine (istioClearing_matches_policy hspec ?_ (List.mem_singleton_self v) (by decide) (by decide)).2 ?_ ?_
  · unfold DecimalPorts
    decide +kernel
  · unfold PlainPrincipals
    decide +kernel
  · decide +kernel

end NetworkEnforcer.Enforcement
