import Mathlib.Data.List.Sort
import NetworkEnforcer.Api.Objects
import NetworkEnforcer.Lib.Matching

/-!
# Comparing policy rules (`api/v1alpha1/policy_helpers.go`)

Rules are compared structurally and without regard to the order of their lists.  Label selectors are
compared through the text `metav1.FormatLabelSelector` gives them.
-/

namespace NetworkEnforcer.Api

open NetworkEnforcer.Lib

/-- The functions of `k8s.io/apimachinery` the program calls on label selectors. -/
structure Apimachinery where
  /-- `metav1.FormatLabelSelector`. -/
  formatLabelSelector : Option LabelSelector → String
  /-- `metav1.LabelSelectorAsSelector`, with the `Matches` of the selector it returns. -/
  labelSelectorAsSelector : LabelSelector → Except String (Labels → Bool)

/-- A requirement met by a set of labels. -/
def LabelSelectorRequirement.matches (r : LabelSelectorRequirement) (ls : Labels) : Bool :=
  match r.operator, ls.lookup r.key with
  | "In", some v => r.values.contains v
  | "NotIn", some v => !r.values.contains v
  | "NotIn", none => true
  | "Exists", some _ => true
  | "DoesNotExist", none => true
  | _, _ => false

/-- The operators of a requirement. -/
def selectorOperators : List String := ["In", "NotIn", "Exists", "DoesNotExist"]

/-- The text of a requirement; its values are listed in their order. -/
def LabelSelectorRequirement.text (r : LabelSelectorRequirement) : String :=
  let values := " (" ++ ",".intercalate (r.values.insertionSort (· ≤ ·)) ++ ")"
  match r.operator with
  | "In" => r.key ++ " in" ++ values
  | "NotIn" => r.key ++ " notin" ++ values
  | "DoesNotExist" => "!" ++ r.key
  | _ => r.key

/-- The library as it is documented, for concrete runs: a selector is the conjunction of its label
equalities and its requirements, an unknown operator is an error, and the text of a selector lists
them in the order of their keys. -/
def Apimachinery.documented : Apimachinery where
  formatLabelSelector
    | none => "<none>"
    | some s =>
      if s.matchExpressions.any (·.operator ∉ selectorOperators) then "<error>"
      else
        let eqs := s.matchLabels.entries.map fun e => (e.1, e.1 ++ "=" ++ e.2)
        let reqs := s.matchExpressions.map fun r => (r.key, r.text)
        let parts := (eqs ++ reqs).insertionSort (·.1 ≤ ·.1)
        if parts = [] then "<none>" else ",".intercalate (parts.map (·.2))
  labelSelectorAsSelector s :=
    match s.matchExpressions.find? (·.operator ∉ selectorOperators) with
    | some r => .error ("\"" ++ r.operator ++ "\" is not a valid label selector operator")
    | none => .ok fun ls => s.matchLabels.entries.all (fun e => ls.lookup e.1 = some e.2) &&
        s.matchExpressions.all (·.matches ls)

/-! ## Unordered comparison -/

/-- The inner loop of `EqualUnordered`: the first free position of `right` that equals `l` is taken.
Each position carries the flag `free`. -/
def takeMatch {T : Type} (eq : T → T → Bool) (l : T) : List (Bool × T) → Option (List (Bool × T))
  | [] => none
  | (free, r) :: rest =>
    if free && eq l r then some ((false, r) :: rest)
    else (takeMatch eq l rest).map ((free, r) :: ·)

/-- The outer loop of `EqualUnordered`. -/
def matchAll {T : Type} (eq : T → T → Bool) : List T → List (Bool × T) → Bool
  | [], _ => true
  | l :: left, right =>
    match takeMatch eq l right with
    | some right' => matchAll eq left right'
    | none => false

def equalUnordered {T : Type} (left right : List T) (eq : T → T → Bool) : Bool :=
  left.length = right.length && matchAll eq left (right.map (true, ·))

section

variable {T : Type}

/-- The elements at the free positions. -/
def freeElements (right : List (Bool × T)) : List T := (right.filter Prod.fst).map Prod.snd

lemma freeElements_map_true (right : List T) : freeElements (right.map (true, ·)) = right := by
  simp [freeElements, List.filter_map, Function.comp_def]

variable {eq : T → T → Bool}

lemma takeMatch_eq_none {l : T} {right : List (Bool × T)} (h : takeMatch eq l right = none) :
    ∀ r ∈ freeElements right, eq l r = false := by
  induction right with
  | nil => simp [freeElements]
  | cons p rest ih =>
    obtain ⟨free, r⟩ := p
    rw [takeMatch] at h
    split at h
    next => cases h
    next hfree =>
      have hrest := ih (Option.map_eq_none_iff.1 h)
      cases free with
      | false => simpa [freeElements] using hrest
      | true =>
        have hlr : eq l r = false := by simpa using hfree
        simpa [freeElements, hlr] using hrest

lemma takeMatch_eq_some {l : T} {right right' : List (Bool × T)}
    (h : takeMatch eq l right = some right') :
    ∃ r, eq l r = true ∧ (freeElements right).Perm (r :: freeElements right') := by
  induction right generalizing right' with
  | nil => cases h
  | cons p rest ih =>
    obtain ⟨free, r⟩ := p
    rw [takeMatch] at h
    split at h
    next hfree =>
      obtain ⟨rfl, hlr⟩ : free = true ∧ eq l r = true := by simpa using hfree
      obtain rfl := Option.some.inj h
      exact ⟨r, hlr, by simp [freeElements]⟩
    next =>
      obtain ⟨rest', hrest, rfl⟩ := Option.map_eq_some_iff.1 h
      obtain ⟨r', hlr, hperm⟩ := ih hrest
      refine ⟨r', hlr, ?_⟩
      cases free with
      | false => simpa [freeElements] using hperm
      | true => simpa [freeElements] using (hperm.cons r).trans (List.Perm.swap r' r _)

/-- The first free match is as good as any other: the elements still free pair up with the rest of
`left` if they did so before. -/
lemma matchAll_iff_matching (heq : Equivalence fun a b => eq a b = true) {left : List T}
    {right : List (Bool × T)} (hlen : left.length = (freeElements right).length) :
    matchAll eq left right = true ↔
      Matching (fun a b => eq a b = true) left (freeElements right) := by
  induction left generalizing right with
  | nil =>
    have hnil : freeElements right = [] := List.length_eq_zero_iff.1 hlen.symm
    rw [hnil]
    exact iff_of_true rfl ((Matching.equivalence heq).refl [])
  | cons l left ih =>
    rw [matchAll]
    cases h : takeMatch eq l right with
    | none =>
      refine iff_of_false (by simp) ?_
      intro hmatch
      obtain ⟨r, hr, hlr⟩ := hmatch.exists_related (List.mem_cons_self ..)
      rw [takeMatch_eq_none h r hr] at hlr
      cases hlr
    | some right' =>
      obtain ⟨r, hlr, hperm⟩ := takeMatch_eq_some h
      have hlen' : left.length = (freeElements right').length := by
        rw [hperm.length_eq, List.length_cons, List.length_cons] at hlen
        omega
      rw [Matching.congr_perm heq (List.Perm.refl _) hperm, Matching.cons_iff heq hlr]
      exact ih hlen'

/-- **For an equivalence, `EqualUnordered` decides whether the positions of the lists can be paired.** -/
theorem equalUnordered_iff_matching (heq : Equivalence fun a b => eq a b = true)
    {left right : List T} :
    equalUnordered left right eq = true ↔ Matching (fun a b => eq a b = true) left right := by
  have hfree : freeElements (right.map (true, ·)) = right := freeElements_map_true right
  rw [equalUnordered, Bool.and_eq_true, decide_eq_true_iff]
  constructor
  · rintro ⟨hlen, hmatch⟩
    rw [matchAll_iff_matching heq (by rw [hfree]; exact hlen), hfree] at hmatch
    exact hmatch
  · intro h
    refine ⟨h.length_eq, ?_⟩
    rw [matchAll_iff_matching heq (by rw [hfree]; exact h.length_eq), hfree]
    exact h

/-- Lists are compared up to their order, and their elements up to what their own comparison allows. -/
theorem comparesUpTo_equalUnordered {same : T → T → Prop} (h : ComparesUpTo eq same)
    (hrefl : ∀ a, same a a) :
    ComparesUpTo (fun left right => equalUnordered left right eq) (Matching same) := by
  have hiff : ∀ left right, equalUnordered left right eq = true ↔
      Matching (fun a b => eq a b = true) left right :=
    fun _ _ => equalUnordered_iff_matching h.equivalence
  have hmatch := Matching.equivalence h.equivalence
  refine .of_equivalence ⟨?_, ?_, ?_⟩ ?_
  · exact fun left => (hiff left left).2 (hmatch.refl left)
  · exact fun hlr => (hiff _ _).2 (hmatch.symm ((hiff _ _).1 hlr))
  · exact fun hlm hmr => (hiff _ _).2 (hmatch.trans ((hiff _ _).1 hlm) ((hiff _ _).1 hmr))
  · exact fun hsame => (hiff _ _).2 (hsame.mono fun a b hab => h.eq_of_same (hrefl b) hab)

/-- **For plain equality, `EqualUnordered` decides whether one list is a reordering of the other.** -/
theorem equalUnordered_eq_iff_perm [DecidableEq T] {left right : List T} :
    equalUnordered left right (fun a b => decide (a = b)) = true ↔ left.Perm right := by
  have heq : Equivalence fun a b : T => decide (a = b) = true := by
    simpa using eq_equivalence (α := T)
  rw [equalUnordered_iff_matching heq, ← Matching.eq_iff_perm]
  simp only [decide_eq_true_eq]

end

/-! ## Peers, ports and rules -/

def ipBlockEqual : Option IPBlock → Option IPBlock → Bool
  | some a, some b => a.cidr = b.cidr && equalUnordered a.except b.except (· = ·)
  | none, none => true
  | _, _ => false

def policyPortEqual (a b : NetworkPolicyPort) : Bool := a = b

lemma policyPortEqual_iff {a b : NetworkPolicyPort} : policyPortEqual a b = true ↔ a = b := by
  simp [policyPortEqual]

lemma ipBlockEqual_some {a b : IPBlock} :
    ipBlockEqual (some a) (some b) = true ↔ a.cidr = b.cidr ∧ a.except.Perm b.except := by
  simp [ipBlockEqual, equalUnordered_eq_iff_perm]

lemma ipBlockEqual_equivalence : Equivalence fun a b => ipBlockEqual a b = true := by
  refine ⟨?_, ?_, ?_⟩
  · rintro (_ | a)
    · rfl
    · exact ipBlockEqual_some.2 ⟨rfl, .refl _⟩
  · rintro (_ | a) (_ | b) h
    · rfl
    · cases h
    · cases h
    · obtain ⟨hc, he⟩ := ipBlockEqual_some.1 h
      exact ipBlockEqual_some.2 ⟨hc.symm, he.symm⟩
  · rintro (_ | a) (_ | b) (_ | c) h h'
    · rfl
    · cases h'
    · cases h
    · cases h
    · cases h
    · cases h
    · cases h'
    · obtain ⟨hc, he⟩ := ipBlockEqual_some.1 h
      obtain ⟨hc', he'⟩ := ipBlockEqual_some.1 h'
      exact ipBlockEqual_some.2 ⟨hc.trans hc', he.trans he'⟩

/-- The same block, with its exceptions in any order. -/
structure IPBlock.Reordered (a b : IPBlock) : Prop where
  cidr : a.cidr = b.cidr
  except : a.except.Perm b.except

theorem comparesUpTo_ipBlockEqual : ComparesUpTo ipBlockEqual (Option.Rel IPBlock.Reordered) := by
  refine .of_equivalence ipBlockEqual_equivalence ?_
  intro a b h
  cases h with
  | none => rfl
  | some h => exact ipBlockEqual_some.2 ⟨h.cidr, h.except⟩

/-- The same peer, with the exceptions of its block in any order. -/
structure NetworkPolicyPeer.Reordered (a b : NetworkPolicyPeer) : Prop where
  namespaceSelector : a.namespaceSelector = b.namespaceSelector
  podSelector : a.podSelector = b.podSelector
  ipBlock : Option.Rel IPBlock.Reordered a.ipBlock b.ipBlock

lemma NetworkPolicyPeer.Reordered.refl (a : NetworkPolicyPeer) : a.Reordered a := by
  refine ⟨rfl, rfl, ?_⟩
  cases a.ipBlock with
  | none => exact .none
  | some b => exact .some ⟨rfl, .refl _⟩

section

variable (lib : Apimachinery)

def selectorEqual (a b : Option LabelSelector) : Bool :=
  lib.formatLabelSelector a = lib.formatLabelSelector b

def policyPeerEqual (a b : NetworkPolicyPeer) : Bool :=
  selectorEqual lib a.namespaceSelector b.namespaceSelector &&
    selectorEqual lib a.podSelector b.podSelector && ipBlockEqual a.ipBlock b.ipBlock

theorem comparesUpTo_policyPeerEqual :
    ComparesUpTo (policyPeerEqual lib) NetworkPolicyPeer.Reordered := by
  have hsel : ComparesUpTo (selectorEqual lib) (· = ·) := .of_eq lib.formatLabelSelector
  have hsels := hsel.and hsel NetworkPolicyPeer.namespaceSelector NetworkPolicyPeer.podSelector
  have hpeer := hsels.and comparesUpTo_ipBlockEqual id NetworkPolicyPeer.ipBlock
  exact hpeer.mono fun a b h => ⟨⟨h.namespaceSelector, h.podSelector⟩, h.ipBlock⟩

/-- **Peer equality is an equivalence**, whatever text the library gives to a selector. -/
theorem policyPeerEqual_equivalence : Equivalence fun a b => policyPeerEqual lib a b = true :=
  (comparesUpTo_policyPeerEqual lib).equivalence

def egressRuleEqual (a b : NetworkPolicyEgressRule) : Bool :=
  equalUnordered a.to_ b.to_ (policyPeerEqual lib) && equalUnordered a.ports b.ports policyPortEqual

def ingressRuleEqual (a b : NetworkPolicyIngressRule) : Bool :=
  equalUnordered a.from_ b.from_ (policyPeerEqual lib) &&
    equalUnordered a.ports b.ports policyPortEqual

/-- The same rule, with peers, their exceptions and ports in any order. -/
structure NetworkPolicyEgressRule.Reordered (a b : NetworkPolicyEgressRule) : Prop where
  to_ : Matching NetworkPolicyPeer.Reordered a.to_ b.to_
  ports : a.ports.Perm b.ports

structure NetworkPolicyIngressRule.Reordered (a b : NetworkPolicyIngressRule) : Prop where
  from_ : Matching NetworkPolicyPeer.Reordered a.from_ b.from_
  ports : a.ports.Perm b.ports

lemma comparesUpTo_peers :
    ComparesUpTo (fun left right => equalUnordered left right (policyPeerEqual lib))
      (Matching NetworkPolicyPeer.Reordered) :=
  comparesUpTo_equalUnordered (comparesUpTo_policyPeerEqual lib) NetworkPolicyPeer.Reordered.refl

lemma comparesUpTo_ports :
    ComparesUpTo (fun left right => equalUnordered left right policyPortEqual) List.Perm := by
  have hport : ComparesUpTo policyPortEqual (· = ·) := .of_eq id
  exact (comparesUpTo_equalUnordered hport fun _ => rfl).mono fun _ _ => Matching.of_perm

theorem comparesUpTo_egressRuleEqual :
    ComparesUpTo (egressRuleEqual lib) NetworkPolicyEgressRule.Reordered := by
  have hrule := (comparesUpTo_peers lib).and comparesUpTo_ports NetworkPolicyEgressRule.to_
    NetworkPolicyEgressRule.ports
  exact hrule.mono fun a b h => ⟨h.to_, h.ports⟩

theorem comparesUpTo_ingressRuleEqual :
    ComparesUpTo (ingressRuleEqual lib) NetworkPolicyIngressRule.Reordered := by
  have hrule := (comparesUpTo_peers lib).and comparesUpTo_ports NetworkPolicyIngressRule.from_
    NetworkPolicyIngressRule.ports
  exact hrule.mono fun a b h => ⟨h.from_, h.ports⟩

/-- **The greedy comparison is exact**: for every equivalence it decides whether the positions of the
lists can be paired, so it is an equivalence that does not see the order, and so are the comparisons
built from it. -/
theorem unordered_comparison_exact :
    (∀ {T : Type} {eq : T → T → Bool}, Equivalence (fun a b => eq a b = true) →
      (∀ left right : List T, equalUnordered left right eq = true ↔
        ∃ σ : Fin left.length ≃ Fin right.length, ∀ i, eq (left.get i) (right.get (σ i)) = true) ∧
      ComparesUpTo (fun left right => equalUnordered left right eq) List.Perm) ∧
    ComparesUpTo ipBlockEqual (Option.Rel IPBlock.Reordered) ∧
    ComparesUpTo (policyPeerEqual lib) NetworkPolicyPeer.Reordered ∧
    ComparesUpTo (egressRuleEqual lib) NetworkPolicyEgressRule.Reordered ∧
    ComparesUpTo (ingressRuleEqual lib) NetworkPolicyIngressRule.Reordered := by
  refine ⟨?_, comparesUpTo_ipBlockEqual, comparesUpTo_policyPeerEqual lib,
    comparesUpTo_egressRuleEqual lib, comparesUpTo_ingressRuleEqual lib⟩
  intro T eq heq
  have hself : ComparesUpTo eq (· = ·) := .of_equivalence heq fun h => h ▸ heq.refl _
  refine ⟨fun _ _ => equalUnordered_iff_matching heq, ?_⟩
  exact (comparesUpTo_equalUnordered hself fun _ => rfl).mono fun _ _ => Matching.of_perm

end

end NetworkEnforcer.Api
