import NetworkEnforcer.Api.ViolationRecord

/-!
# Clearing on the istio backend when something is unknown

An unknown source identity is the empty string and an unknown port is 0.  Both are compared like any other
value: the empty string with the principals of a rule, 0 with its ranges of ports.  So a rule that constrains
its sources can still admit the unknown one, if it lists the empty principal, and a rule that constrains its
ports admits the unknown one if a range contains 0.  A record is dropped through the first rule that admits
it, so that such a rule does no harm behind one that is not constrained.  `istioClearing_failSafe_iff` says
that nothing else goes wrong.
-/

namespace NetworkEnforcer.Status

open NetworkEnforcer.Lib NetworkEnforcer.Api

/-- The rule lets the record be dropped. -/
def drops (rule : IstioAuthorizationPolicyRule) (v : ViolationRecord) : Bool :=
  istioRuleAllowsSource rule v.source && istioRuleAllowsPort rule v.dstPort

/-- The source part: no `From`, an entry without principals, or the principal `*`. -/
def sourceUnconstrained (rule : IstioAuthorizationPolicyRule) : Bool :=
  rule.from_.isEmpty || rule.from_.any fun f =>
    f.source.principals.isEmpty || f.source.principals.contains "*"

/-- The port part: no `To`, or an entry without ports. -/
def portUnconstrained (rule : IstioAuthorizationPolicyRule) : Bool :=
  rule.to_.isEmpty || rule.to_.any fun t => t.operation.ports.isEmpty

/-! ## The two parts of a rule -/

lemma istioRuleAllowsSource_iff {rule : IstioAuthorizationPolicyRule} {src : WorkloadRef} :
    istioRuleAllowsSource rule src = true ↔
      sourceUnconstrained rule = true ∨ ∃ f ∈ rule.from_, src.identity ∈ f.source.principals := by
  simp only [istioRuleAllowsSource, sourceUnconstrained, Bool.or_eq_true, List.any_eq_true, decide_eq_true_eq,
    List.contains_iff_mem]
  constructor
  · rintro (h | ⟨f, hf, h | ⟨p, hp, rfl | rfl⟩⟩)
    · exact Or.inl (Or.inl h)
    · exact Or.inl (Or.inr ⟨f, hf, Or.inl h⟩)
    · exact Or.inl (Or.inr ⟨f, hf, Or.inr hp⟩)
    · exact Or.inr ⟨f, hf, hp⟩
  · rintro ((h | ⟨f, hf, h | h⟩) | ⟨f, hf, hp⟩)
    · exact Or.inl h
    · exact Or.inr ⟨f, hf, Or.inl h⟩
    · exact Or.inr ⟨f, hf, Or.inr ⟨_, h, Or.inl rfl⟩⟩
    · exact Or.inr ⟨f, hf, Or.inr ⟨_, hp, Or.inr rfl⟩⟩

lemma istioRuleAllowsPort_iff {rule : IstioAuthorizationPolicyRule} {port : Int} :
    istioRuleAllowsPort rule port = true ↔ portUnconstrained rule = true ∨
      ∃ t ∈ rule.to_, ∃ portSpec ∈ t.operation.ports, istioPortMatches portSpec port = true := by
  simp only [istioRuleAllowsPort, portUnconstrained, Bool.or_eq_true, List.any_eq_true]
  constructor
  · rintro (h | ⟨t, ht, h | h⟩)
    · exact Or.inl (Or.inl h)
    · exact Or.inl (Or.inr ⟨t, ht, h⟩)
    · exact Or.inr ⟨t, ht, h⟩
  · rintro ((h | ⟨t, ht, h⟩) | ⟨t, ht, h⟩)
    · exact Or.inl h
    · exact Or.inr ⟨t, ht, Or.inl h⟩
    · exact Or.inr ⟨t, ht, Or.inr h⟩

/-! ## Dropping -/

/-- The violations that clearing leaves are those that no rule drops. -/
lemma mem_clearAllowedIstioViolations {w : WorkloadNetworkPolicy} {spec : IstioAuthorizationPolicySpec}
    (h : w.spec.istio = some spec) {v : ViolationRecord} :
    v ∈ w.clearAllowedIstioViolations.status.violations ↔
      v ∈ w.status.violations ∧ ∀ rule ∈ spec.rules, drops rule v = false := by
  rw [WorkloadNetworkPolicy.clearAllowedIstioViolations, h]
  show v ∈ w.status.violations.filter (fun v => !istioAllows spec v) ↔ _
  rw [List.mem_filter, Bool.not_eq_true']
  simp only [istioAllows, List.any_eq_false, Bool.not_eq_true, drops]

/-- The port of a record: a port number, or 0 for an unknown one. -/
def HasPort (v : ViolationRecord) : Prop := 0 ≤ v.dstPort ∧ v.dstPort ≤ 65535

/-- What holds whenever clearing drops a record through a rule holds whenever a rule is the first to drop a
record: any record may be the only violation of a policy. -/
lemma forall_cleared_iff (spec : IstioAuthorizationPolicySpec)
    (P : IstioAuthorizationPolicyRule → ViolationRecord → Prop) :
    (∀ w : WorkloadNetworkPolicy, w.spec.istio = some spec → ∀ v ∈ w.status.violations, HasPort v →
        v ∉ w.clearAllowedIstioViolations.status.violations →
        ∀ rule, spec.rules.find? (drops · v) = some rule → P rule v) ↔
      ∀ v, HasPort v → ∀ rule, spec.rules.find? (drops · v) = some rule → P rule v := by
  constructor
  · intro h v hport rule hfirst
    let w : WorkloadNetworkPolicy :=
      { spec := ⟨⟨.istio, none, some spec⟩, ⟨⟨workloadKindDeployment, "web"⟩, .ingress⟩, .monitor⟩
        status := { violations := [v] } }
    refine h w rfl v (List.mem_singleton.2 rfl) hport ?_ rule hfirst
    intro hmem
    have hkept := ((mem_clearAllowedIstioViolations (w := w) rfl).1 hmem).2 rule (List.mem_of_find?_eq_some hfirst)
    rw [List.find?_some hfirst] at hkept
    cases hkept
  · intro h w _ v _ hport _ rule hfirst
    exact h v hport rule hfirst

/-! ## The first rule that drops a record -/

section First

variable {rules before after : List IstioAuthorizationPolicyRule} {rule : IstioAuthorizationPolicyRule}
  {v : ViolationRecord}

lemma exists_of_first (h : rules.find? (drops · v) = some rule) :
    ∃ before after, rules = before ++ rule :: after ∧ ∀ r ∈ before, drops r v = false := by
  obtain ⟨-, before, after, hrules, hbefore⟩ := List.find?_eq_some_iff_append.1 h
  exact ⟨before, after, hrules, fun r hr => by simpa using hbefore r hr⟩

/-- The first rule that drops a record is not behind one that does. -/
lemma first_of_drops (hrules : rules = before ++ rule :: after) (hdrop : drops rule v = true) :
    ∃ r, rules.find? (drops · v) = some r ∧ (r = rule ∨ r ∈ before) := by
  rw [hrules, List.find?_append]
  cases hfirst : before.find? (drops · v) with
  | some r => exact ⟨r, rfl, Or.inr (List.mem_of_find?_eq_some hfirst)⟩
  | none => exact ⟨rule, List.find?_cons_of_pos (p := (drops · v)) hdrop, Or.inl rfl⟩

end First

/-- Behind an unconstrained source part, as far as ports go, a rule may list the empty principal. -/
def SourceSafe (before : List IstioAuthorizationPolicyRule) (rule : IstioAuthorizationPolicyRule) : Prop :=
  sourceUnconstrained rule = true ∨ (∀ f ∈ rule.from_, "" ∉ f.source.principals) ∨
    ∀ port : Int, 0 ≤ port → port ≤ 65535 → istioRuleAllowsPort rule port = true →
      ∃ r ∈ before, sourceUnconstrained r = true ∧ istioRuleAllowsPort r port = true

/-- Behind an unconstrained port part, as far as sources go, a rule may have a range that contains 0. -/
def PortSafe (before : List IstioAuthorizationPolicyRule) (rule : IstioAuthorizationPolicyRule) : Prop :=
  portUnconstrained rule = true ∨
    (∀ t ∈ rule.to_, ∀ portSpec ∈ t.operation.ports, istioPortMatches portSpec 0 = false) ∨
    ∀ src : WorkloadRef, istioRuleAllowsSource rule src = true →
      ∃ r ∈ before, portUnconstrained r = true ∧ istioRuleAllowsSource r src = true

/-- An unknown source is dropped through rules with an unconstrained source part only. -/
lemma drops_unknown_source_iff (rules : List IstioAuthorizationPolicyRule) :
    (∀ v, HasPort v → ∀ rule, rules.find? (drops · v) = some rule → v.source.identity = "" →
        sourceUnconstrained rule = true) ↔
      ∀ before rule after, rules = before ++ rule :: after → SourceSafe before rule := by
  constructor
  · intro h before rule after hrules
    by_contra hno
    simp only [SourceSafe, not_or, not_forall, not_not] at hno
    obtain ⟨hconstrained, ⟨f, hf, hempty⟩, port, hlo, hhi, hport, hearlier⟩ := hno
    have hdrop : drops rule { dstPort := port } = true := by
      rw [drops, Bool.and_eq_true]
      exact ⟨istioRuleAllowsSource_iff.2 (Or.inr ⟨f, hf, hempty⟩), hport⟩
    obtain ⟨r, hfirst, hr⟩ := first_of_drops hrules hdrop
    have hfree := h _ ⟨hlo, hhi⟩ r hfirst rfl
    rcases hr with rfl | hr
    · exact hconstrained hfree
    · have hdropped := List.find?_some hfirst
      rw [drops, Bool.and_eq_true] at hdropped
      exact hearlier ⟨r, hr, hfree, hdropped.2⟩
  · intro h v hport rule hfirst hid
    obtain ⟨before, after, hrules, hbefore⟩ := exists_of_first hfirst
    have hdrop := List.find?_some hfirst
    rw [drops, Bool.and_eq_true] at hdrop
    rcases h before rule after hrules with hs | hs | hs
    · exact hs
    · rcases istioRuleAllowsSource_iff.1 hdrop.1 with hfree | ⟨f, hf, hmem⟩
      · exact hfree
      · exact absurd (hid ▸ hmem) (hs f hf)
    · -- an earlier rule would have dropped it
      obtain ⟨r, hr, hfree, hallowed⟩ := hs v.dstPort hport.1 hport.2 hdrop.2
      have hkept := hbefore r hr
      rw [drops, istioRuleAllowsSource_iff.2 (Or.inl hfree), hallowed] at hkept
      cases hkept

/-- An unknown port is dropped through rules with an unconstrained port part only. -/
lemma drops_unknown_port_iff (rules : List IstioAuthorizationPolicyRule) :
    (∀ v, HasPort v → ∀ rule, rules.find? (drops · v) = some rule → v.dstPort = 0 →
        portUnconstrained rule = true) ↔
      ∀ before rule after, rules = before ++ rule :: after → PortSafe before rule := by
  constructor
  · intro h before rule after hrules
    by_contra hno
    simp only [PortSafe, not_or, not_forall] at hno
    obtain ⟨hconstrained, ⟨t, ht, portSpec, hspec, hzero⟩, src, hsrc, hearlier⟩ := hno
    have hdrop : drops rule { source := src } = true := by
      rw [drops, Bool.and_eq_true]
      exact ⟨hsrc, istioRuleAllowsPort_iff.2 (Or.inr ⟨t, ht, portSpec, hspec, by simpa using hzero⟩)⟩
    obtain ⟨r, hfirst, hr⟩ := first_of_drops hrules hdrop
    have hport : HasPort { source := src } := ⟨Int.le_refl 0, Int.le_of_lt (by decide : (0 : Int) < 65535)⟩
    have hfree := h _ hport r hfirst rfl
    rcases hr with rfl | hr
    · exact hconstrained hfree
    · have hdropped := List.find?_some hfirst
      rw [drops, Bool.and_eq_true] at hdropped
      exact hearlier ⟨r, hr, hfree, hdropped.1⟩
  · intro h v _ rule hfirst hzero
    obtain ⟨before, after, hrules, hbefore⟩ := exists_of_first hfirst
    have hdrop := List.find?_some hfirst
    rw [drops, Bool.and_eq_true] at hdrop
    rcases h before rule after hrules with hp | hp | hp
    · exact hp
    · rcases istioRuleAllowsPort_iff.1 hdrop.2 with hfree | ⟨t, ht, portSpec, hspec, hmatch⟩
      · exact hfree
      · rw [hzero, hp t ht portSpec hspec] at hmatch
        cases hmatch
    · -- an earlier rule would have dropped it
      obtain ⟨r, hr, hfree, hallowed⟩ := hp v.source hdrop.1
      have hkept := hbefore r hr
      rw [drops, hallowed, istioRuleAllowsPort_iff.2 (Or.inl hfree)] at hkept
      cases hkept

/-- **When clearing is safe for unknown fields.**  A policy drops a record through the first rule that admits
its source and its port.  If the source is unknown then the source part of that rule is unconstrained, and if
the port is unknown then its port part is, for every record, exactly when this holds of every rule and those
before it: a constrained source part lists no empty principal, or every port that the rule admits is admitted
before it by a rule with an unconstrained source part; and a constrained port part has no range that contains
0, or every source that the rule admits is admitted before it by a rule with an unconstrained port part. -/
theorem istioClearing_failSafe_iff (spec : IstioAuthorizationPolicySpec) :
    (∀ w : WorkloadNetworkPolicy, w.spec.istio = some spec → ∀ v ∈ w.status.violations, HasPort v →
        v ∉ w.clearAllowedIstioViolations.status.violations →
        ∀ rule, spec.rules.find? (drops · v) = some rule →
          (v.source.identity = "" → sourceUnconstrained rule = true) ∧
          (v.dstPort = 0 → portUnconstrained rule = true)) ↔
      ∀ before rule after, spec.rules = before ++ rule :: after →
        SourceSafe before rule ∧ PortSafe before rule := by
  rw [forall_cleared_iff spec fun rule v => (v.source.identity = "" → sourceUnconstrained rule = true) ∧
    (v.dstPort = 0 → portUnconstrained rule = true)]
  have hsource := drops_unknown_source_iff spec.rules
  have hport := drops_unknown_port_iff spec.rules
  constructor
  · intro h before rule after hrules
    exact ⟨hsource.1 (fun v hv rule hfirst => (h v hv rule hfirst).1) before rule after hrules,
      hport.1 (fun v hv rule hfirst => (h v hv rule hfirst).2) before rule after hrules⟩
  · intro h v hv rule hfirst
    exact ⟨hsource.2 (fun before rule after hrules => (h before rule after hrules).1) v hv rule hfirst,
      hport.2 (fun before rule after hrules => (h before rule after hrules).2) v hv rule hfirst⟩

/-- A rule for the empty principal and the ports from 0 on: it drops a violation of which neither the source
nor the port is known. -/
theorem istioClearing_drops_unknown :
    let rule : IstioAuthorizationPolicyRule := { from_ := [⟨⟨[""]⟩⟩], to_ := [⟨⟨["0-1023"]⟩⟩] }
    let spec : IstioAuthorizationPolicySpec :=
      { selector := { matchLabels := AList.singleton "app" "web" }, rules := [rule] }
    let w : WorkloadNetworkPolicy :=
      { ns := "shop", name := "web-ingress"
        spec := ⟨⟨.istio, none, some spec⟩, ⟨⟨workloadKindDeployment, "web"⟩, .ingress⟩, .monitor⟩
        status := { violations := [{}] } }
    w.clearAllowedIstioViolations.status.violations = [] ∧ spec.rules.find? (drops · {}) = some rule ∧
      sourceUnconstrained rule = false ∧ portUnconstrained rule = false := by
  refine ⟨?_, rfl, ?_, ?_⟩
  all_goals decide +kernel

end NetworkEnforcer.Status
