import NetworkEnforcer.Lib.Constraint
import NetworkEnforcer.Learning.Promotion

/-!
# What a learned flow adds to an authorization policy

`allowsPair` is the set of source identities and ports that a list of rules allows, as clearing reads it.
The learner attaches a new port to the first rule of the principal alone.  If the port part of that rule is
unconstrained the port does not widen it: an empty `to` becomes the one port, and an empty list of ports too
(`narrows`).  What is left are the ports of the later entries (`laterPort`) and of the other rules.
Everything else is exact, for rules of any shape (`upsertIstioLearnedRule_exact_iff`).
-/

namespace NetworkEnforcer.Learning

open NetworkEnforcer.Lib NetworkEnforcer.Api

/-- Some rule allows the identity on the port. -/
def allowsPair (rules : List IstioAuthorizationPolicyRule) (identity : String) (port : Int) : Bool :=
  rules.any fun rule => istioRuleAllowsSource rule { identity := identity } && istioRuleAllowsPort rule port

/-- Attaching the port constrains a port part that was not constrained: there is no `to` entry at all, or
the first one has no ports, and no later one keeps the part unconstrained or has the port already. -/
def narrows (rule : IstioAuthorizationPolicyRule) (port : String) : Bool :=
  match rule.to_ with
  | [] => true
  | t :: ts => t.operation.ports.isEmpty &&
      ts.all fun t' => !t'.operation.ports.isEmpty && !t'.operation.ports.contains port

/-- An entry after the first one lists the port. -/
def laterPort (rule : IstioAuthorizationPolicyRule) (q : Int) : Bool :=
  rule.to_.tail.any fun t => t.operation.ports.any (istioPortMatches · q)

/-- The rule that is appended for a principal without one. -/
def learnedIstioRule (principal port : String) : IstioAuthorizationPolicyRule :=
  { from_ := [{ source := { principals := [principal] } }], to_ := [istioTo port] }

/-! ## The rule that is changed -/

/-- The port part of a rule, as alternatives of alternatives. -/
lemma istioRuleAllowsPort_eq_admits (rule : IstioAuthorizationPolicyRule) (q : Int) :
    istioRuleAllowsPort rule q =
      admits (fun t => admits (istioPortMatches · q) t.operation.ports) rule.to_ := rfl

/-- The rule of a principal allows that principal. -/
lemma istioRuleAllowsSource_of_hasPrincipal {rule : IstioAuthorizationPolicyRule} {principal : String}
    (h : hasPrincipal rule principal = true) (hstar : principal ≠ "*") (identity : String) :
    istioRuleAllowsSource rule { identity := identity } = true ↔ identity = principal := by
  unfold hasPrincipal at h
  split at h
  next f hfrom =>
    split at h
    next p hps =>
      obtain rfl : p = principal := of_decide_eq_true h
      simp [istioRuleAllowsSource, hfrom, hps, hstar, eq_comm]
    next => cases h
  next => cases h

lemma istioRuleAllowsSource_attachPort (rule : IstioAuthorizationPolicyRule) (port : String)
    (src : WorkloadRef) :
    istioRuleAllowsSource (attachPort rule port) src = istioRuleAllowsSource rule src := by
  simp only [istioRuleAllowsSource, attachPort_from]

/-- A rule that is narrowed allowed every port. -/
lemma istioRuleAllowsPort_of_narrows {rule : IstioAuthorizationPolicyRule} {port : String}
    (h : narrows rule port = true) (q : Int) : istioRuleAllowsPort rule q = true := by
  rw [istioRuleAllowsPort_eq_admits]
  unfold narrows at h
  split at h
  next hto => rw [hto, admits_nil]
  next t ts hto =>
    rw [Bool.and_eq_true, List.isEmpty_iff] at h
    rw [hto, admits_cons, h.1, admits_nil, Bool.true_or]

/-- A rule that is narrowed keeps the ports of its later entries. -/
lemma istioRuleAllowsPort_attachPort_of_narrows {rule : IstioAuthorizationPolicyRule} {s : String} {port : Int}
    (hs : ∀ q, istioPortMatches s q = true ↔ port = q) (h : narrows rule s = true) (q : Int) :
    istioRuleAllowsPort (attachPort rule s) q = true ↔ laterPort rule q = true ∨ q = port := by
  have hown : istioPortMatches s q = true ↔ q = port := (hs q).trans eq_comm
  unfold narrows at h
  unfold attachPort laterPort
  rw [istioRuleAllowsPort_eq_admits]
  cases hto : rule.to_ with
  | nil => simp [istioTo, admits_cons, hown]
  | cons t ts =>
    simp only [hto, Bool.and_eq_true, List.isEmpty_iff, List.all_eq_true] at h
    obtain ⟨hempty, hlater⟩ := h
    -- the port is in no entry, so the first one gets it
    have hnew : ¬((t :: ts).any fun t => t.operation.ports.contains s) = true := by
      intro hany
      obtain ⟨t', ht', hmem⟩ := List.any_eq_true.1 hany
      rcases List.mem_cons.1 ht' with rfl | ht'
      · rw [hempty] at hmem
        cases hmem
      · have hnot := (hlater t' ht').2
        rw [hmem] at hnot
        cases hnot
    have hentries : ts.any (fun t => admits (istioPortMatches · q) t.operation.ports) = true ↔
        ts.any (fun t => t.operation.ports.any (istioPortMatches · q)) = true := by
      rw [List.any_eq_true, List.any_eq_true]
      refine exists_congr fun t' => and_congr_right fun ht' => ?_
      rw [admits_of_ne_nil]
      intro he
      simpa [he] using hlater t' ht'
    simp only [hnew, Bool.false_eq_true, if_false, admits_cons, hempty, Bool.or_eq_true, hentries]
    rw [or_comm]
    simp [admits_cons, hown]

/-- **A port attached to a rule that is not narrowed is all that the rule gains.** -/
lemma istioRuleAllowsPort_attachPort {rule : IstioAuthorizationPolicyRule} {s : String} {port : Int}
    (hs : ∀ q, istioPortMatches s q = true ↔ port = q) (h : narrows rule s = false) (q : Int) :
    istioRuleAllowsPort (attachPort rule s) q = true ↔
      istioRuleAllowsPort rule q = true ∨ q = port := by
  have hown : istioPortMatches s q = true ↔ q = port := (hs q).trans eq_comm
  -- a rule that has the port already, or is unconstrained anyway, allows it
  have hlisted : ∀ t ∈ rule.to_, s ∈ t.operation.ports → q = port → istioRuleAllowsPort rule q = true := by
    intro t ht hmem hq
    rw [istioRuleAllowsPort_eq_admits]
    exact admits_iff.2 (Or.inr ⟨t, ht, admits_iff.2 (Or.inr ⟨s, hmem, hown.2 hq⟩)⟩)
  unfold narrows at h
  unfold attachPort
  cases hto : rule.to_ with
  | nil => simp [hto] at h
  | cons t ts =>
    simp only [hto] at h ⊢
    by_cases hany : ((t :: ts).any fun t => t.operation.ports.contains s) = true
    · rw [if_pos hany]
      obtain ⟨t', ht', hmem⟩ := List.any_eq_true.1 hany
      have hmem : s ∈ t'.operation.ports := by simpa using hmem
      exact ⟨Or.inl, fun h => h.elim id (hlisted t' (hto ▸ ht') hmem)⟩
    · rw [if_neg hany, istioRuleAllowsPort_eq_admits, istioRuleAllowsPort_eq_admits, hto, admits_cons,
        admits_cons]
      by_cases hempty : t.operation.ports = []
      · -- the first entry had no ports, so another one leaves the rule unconstrained
        have hother : ∃ t' ∈ ts, t'.operation.ports = [] := by
          by_contra hno
          apply Bool.eq_false_iff.1 h
          rw [hempty, Bool.and_eq_true, List.all_eq_true]
          refine ⟨rfl, fun t' ht' => ?_⟩
          have hne : t'.operation.ports ≠ [] := fun he => hno ⟨t', ht', he⟩
          have hnot : s ∉ t'.operation.ports := by
            intro hmem
            exact hany (List.any_eq_true.2 ⟨t', List.mem_cons_of_mem _ ht', by simpa using hmem⟩)
          simp [hne, hnot]
        obtain ⟨t', ht', he⟩ := hother
        have hrest : ts.any (fun t => admits (istioPortMatches · q) t.operation.ports) = true :=
          List.any_eq_true.2 ⟨t', ht', by rw [he, admits_nil]⟩
        simp [hrest]
      · rw [admits_concat hempty]
        simp only [Bool.or_eq_true, hown]
        exact or_right_comm

/-! ## The list of rules -/

lemma upsertIstioRules_eq (principal port : String) (rules : List IstioAuthorizationPolicyRule) :
    upsertIstioRules principal port rules =
      upsertFirst (hasPrincipal · principal) (attachPort · port) (learnedIstioRule principal port) rules := by
  induction rules with
  | nil => rfl
  | cons rule rules ih => rw [upsertIstioRules, upsertFirst, ih]

/-- The rule allows the identity on the port. -/
def ruleAllowsPair (rule : IstioAuthorizationPolicyRule) (pair : String × Int) : Bool :=
  istioRuleAllowsSource rule { identity := pair.1 } && istioRuleAllowsPort rule pair.2

/-- A rule of the principal allows the pairs of that principal on its ports. -/
lemma ruleAllowsPair_of_hasPrincipal {rule : IstioAuthorizationPolicyRule} {principal : String}
    (h : hasPrincipal rule principal = true) (hstar : principal ≠ "*") (pair : String × Int) :
    ruleAllowsPair rule pair = true ↔ pair.1 = principal ∧ istioRuleAllowsPort rule pair.2 = true := by
  rw [ruleAllowsPair, Bool.and_eq_true, istioRuleAllowsSource_of_hasPrincipal h hstar]

@[inherit_doc ruleAllowsPair_of_hasPrincipal]
lemma ruleAllowsPair_attachPort {rule : IstioAuthorizationPolicyRule} {principal : String}
    (h : hasPrincipal rule principal = true) (hstar : principal ≠ "*") (port : String) (pair : String × Int) :
    ruleAllowsPair (attachPort rule port) pair = true ↔
      pair.1 = principal ∧ istioRuleAllowsPort (attachPort rule port) pair.2 = true := by
  rw [ruleAllowsPair, Bool.and_eq_true, istioRuleAllowsSource_attachPort,
    istioRuleAllowsSource_of_hasPrincipal h hstar]

lemma ruleAllowsPair_learnedIstioRule {principal s : String} {port : Int} (hstar : principal ≠ "*")
    (hs : ∀ q, istioPortMatches s q = true ↔ port = q) (pair : String × Int) :
    ruleAllowsPair (learnedIstioRule principal s) pair = true ↔ pair.1 = principal ∧ pair.2 = port := by
  have hrule : hasPrincipal (learnedIstioRule principal s) principal = true := decide_eq_true rfl
  have hport : istioRuleAllowsPort (learnedIstioRule principal s) pair.2 = true ↔ pair.2 = port := by
    rw [eq_comm (a := pair.2), ← hs]
    simp [istioRuleAllowsPort, learnedIstioRule, istioTo]
  rw [ruleAllowsPair_of_hasPrincipal hrule hstar, hport]

/-- Attaching a port adds the learned pair, unless it narrows the rule; then it costs the principal all but
the ports of the later entries. -/
lemma addsTo_attachPort {principal s : String} {port : Int} (hstar : principal ≠ "*")
    (hs : ∀ q, istioPortMatches s q = true ↔ port = q) :
    AddsTo (hasPrincipal · principal) (attachPort · s) (learnedIstioRule principal s) ruleAllowsPair
      (fun pair => pair.1 = principal ∧ pair.2 = port) (fun pair => pair.1 = principal)
      (fun rule => narrows rule s = true)
      (fun rule pair => pair.1 = principal ∧ laterPort rule pair.2 = true) where
  new := ruleAllowsPair_learnedIstioRule hstar hs
  gain rule hrule hn pair := by
    rw [ruleAllowsPair_attachPort hrule hstar, ruleAllowsPair_of_hasPrincipal hrule hstar,
      istioRuleAllowsPort_attachPort hs (Bool.eq_false_iff.2 hn), and_or_left]
  old rule hrule hn pair := by
    rw [ruleAllowsPair_of_hasPrincipal hrule hstar, and_iff_left (istioRuleAllowsPort_of_narrows hn pair.2)]
  less rule hrule hn pair := by
    rw [ruleAllowsPair_attachPort hrule hstar, istioRuleAllowsPort_attachPort_of_narrows hs hn, and_or_left]
  added_own _ h := h.1
  left_own _ _ h := h.1

/-- **When learning is exact.**  After a learned flow the rules allow what they allowed before, and the
learned pair, and nothing else, exactly when the rule that gets the port is not narrowed, or every other port
is one of its later entries or allowed to the principal by another rule. -/
theorem upsertIstioLearnedRule_exact_iff (spec : IstioAuthorizationPolicySpec) {principal : String}
    (hstar : principal ≠ "*") {port : Int} (hlo : 1 ≤ port) (hhi : port ≤ 65535) :
    (∀ identity q, 0 ≤ q → q ≤ 65535 →
        (allowsPair (upsertIstioLearnedRule spec principal (formatInt port)).rules identity q = true ↔
          allowsPair spec.rules identity q = true ∨ (identity = principal ∧ q = port))) ↔
      ∀ rule, spec.rules.find? (hasPrincipal · principal) = some rule → narrows rule (formatInt port) = true →
        ∀ q, 0 ≤ q → q ≤ 65535 → q ≠ port → laterPort rule q = true ∨
          allowsPair (spec.rules.eraseP (hasPrincipal · principal)) principal q = true := by
  have hs : ∀ q, istioPortMatches (formatInt port) q = true ↔ port = q := fun q =>
    istioPortMatches_formatInt (by omega) (by omega)
  have hexact := (addsTo_attachPort hstar hs).any_upsertFirst_iff spec.rules
  rw [← upsertIstioRules_eq] at hexact
  -- the pairs of the library are the two arguments of `allowsPair`
  constructor
  · intro h rule hfound hn q hq hq' hne
    have hkept := (hexact (principal, q)).1 (h principal q hq hq') rule hfound hn rfl fun hadded => hne hadded.2
    exact hkept.imp_left And.right
  · intro h identity q hq hq'
    refine (hexact (identity, q)).2 fun rule hfound hn hown hadded => ?_
    obtain rfl : identity = principal := hown
    have hne : q ≠ port := fun he => hadded ⟨rfl, he⟩
    exact (h rule hfound hn q hq hq' hne).imp_left (And.intro rfl)

/-- A second port of a principal that is learned with one. -/
theorem upsertIstioLearnedRule_exact_second_port :
    let spec : IstioAuthorizationPolicySpec := { rules := [learnedIstioRule "td/ns/a/sa/x" "80"] }
    ∀ identity q, 0 ≤ q → q ≤ 65535 →
      (allowsPair (upsertIstioLearnedRule spec "td/ns/a/sa/x" (formatInt 443)).rules identity q = true ↔
        allowsPair spec.rules identity q = true ∨ (identity = "td/ns/a/sa/x" ∧ q = 443)) := by
  intro spec
  refine (upsertIstioLearnedRule_exact_iff spec (by decide) (by decide) (by decide)).2 ?_
  intro rule hfind hn
  obtain rfl : learnedIstioRule "td/ns/a/sa/x" "80" = rule := Option.some.inj hfind
  cases hn

/-- A rule without ports allows every port; after the principal is seen on port 443 it allows that one. -/
theorem upsertIstioLearnedRule_revokes :
    let rule : IstioAuthorizationPolicyRule := { from_ := [⟨⟨["td/ns/a/sa/x"]⟩⟩] }
    let spec : IstioAuthorizationPolicySpec := { rules := [rule] }
    allowsPair spec.rules "td/ns/a/sa/x" 80 = true ∧
      allowsPair (upsertIstioLearnedRule spec "td/ns/a/sa/x" (formatInt 443)).rules "td/ns/a/sa/x" 80 = false := by
  decide +kernel

end NetworkEnforcer.Learning
