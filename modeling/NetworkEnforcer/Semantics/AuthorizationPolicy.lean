import Mathlib.Data.List.TakeWhile
import NetworkEnforcer.Lib.Constraint
import NetworkEnforcer.Api.ViolationRecord

/-!
# What an authorization policy allows

The meaning of an `AuthorizationPolicy` with the action `ALLOW`, as the Istio API documents it: a connection
passes if some rule has a source and an operation for it, where a missing list admits any.  A principal is
compared exactly, except that `*` stands for any principal there is, and a `*` at one end for any text
there.  A port is a decimal number.

Clearing reads the same texts in its own way: it knows no `*` at one end of a principal, but ranges of
ports.  On plain texts the two readings agree (`principalMatches_literal`, `istioPortMatches_decimal`).
-/

namespace NetworkEnforcer.Semantics

open NetworkEnforcer.Lib NetworkEnforcer.Api

/-- A connection as the rules see it; the principal is empty if the peer has not proved any. -/
structure Connection where
  principal : String
  port : Int
  deriving DecidableEq, Repr

/-- Exact, prefix, suffix and presence matching. -/
def principalMatches (pattern principal : String) : Bool :=
  match pattern.toList with
  | ['*'] => principal ≠ ""
  | '*' :: rest => rest.isSuffixOf principal.toList
  | cs => if cs.getLast? = some '*' then cs.dropLast.isPrefixOf principal.toList else pattern = principal

/-- The text is the port, in decimal. -/
def portIs (text : String) (port : Int) : Bool := (parseUint text.toList).any fun n => (n : Int) = port

def sourceAllows (from_ : RuleFrom) (c : Connection) : Bool :=
  admits (principalMatches · c.principal) from_.source.principals

def operationAllows (to_ : RuleTo) (c : Connection) : Bool := admits (portIs · c.port) to_.operation.ports

def ruleAllows (rule : AuthorizationRule) (c : Connection) : Bool :=
  admits (sourceAllows · c) rule.from_ && admits (operationAllows · c) rule.to_

/-- An `ALLOW` policy lets a connection pass if a rule does; without rules it lets none pass. -/
def allows (spec : AuthorizationPolicySpec) (c : Connection) : Bool := spec.rules.any (ruleAllows · c)

/-- The pods the policy is for; without a selector those of the whole namespace. -/
def selectsPod (spec : AuthorizationPolicySpec) (labels : Labels) : Bool :=
  spec.selector.all fun s => s.matchLabels.entries.all fun e => labels.lookup e.1 = some e.2

/-! ## Plain texts -/

/-- A principal that stands for itself. -/
def literalPrincipal (p : String) : Bool := p ≠ "" && p.toList.head? ≠ some '*' && p.toList.getLast? ≠ some '*'

lemma principalMatches_star (principal : String) : principalMatches "*" principal = decide (principal ≠ "") := rfl

lemma principalMatches_literal {p : String} (h : literalPrincipal p = true) (principal : String) :
    principalMatches p principal = decide (p = principal) := by
  simp only [literalPrincipal, Bool.and_eq_true, decide_eq_true_eq] at h
  obtain ⟨⟨-, hhead⟩, hlast⟩ := h
  unfold principalMatches
  split
  · rename_i hp
    rw [hp] at hhead
    exact absurd rfl hhead
  · rename_i hp
    rw [hp] at hhead
    exact absurd rfl hhead
  · rw [if_neg hlast]

/-- Whatever the pattern, it matches its own text. -/
lemma principalMatches_self {p : String} (hne : p ≠ "") : principalMatches p p = true := by
  unfold principalMatches
  split
  · exact decide_eq_true hne
  · rename_i rest _ hp
    rw [hp, List.isSuffixOf_iff_suffix]
    exact List.suffix_cons _ _
  · split
    · rw [List.isPrefixOf_iff_prefix]
      exact List.dropLast_prefix _
    · exact decide_eq_true rfl

lemma isDigit_of_digits {cs : List Char} {acc n : Nat} (h : digits acc cs = some n) :
    ∀ c ∈ cs, c.isDigit = true := by
  induction cs generalizing acc with
  | nil => simp
  | cons c cs ih =>
    unfold digits digit at h
    by_cases hc : c.isDigit = true
    · rw [if_pos hc] at h
      exact List.forall_mem_cons.2 ⟨hc, ih h⟩
    · rw [if_neg hc] at h
      cases h

lemma digits_of_parseUint {cs : List Char} {n : Nat} (h : parseUint cs = some n) :
    cs ≠ [] ∧ (∀ c ∈ cs, c.isDigit = true) ∧ Nat.ofDigitChars 10 cs 0 = n := by
  cases cs with
  | nil => cases h
  | cons c cs =>
    have hdigits : digits 0 (c :: cs) = some n := h
    have hall := isDigit_of_digits hdigits
    rw [digits_of_isDigit hall] at hdigits
    exact ⟨List.cons_ne_nil _ _, hall, Option.some.inj hdigits⟩

/-- A decimal number is a range of one port. -/
lemma istioPortMatches_decimal {text : String} {n : Nat} (h : parseUint text.toList = some n) {port : Int}
    (hport : port < 2 ^ 31) : istioPortMatches text port = portIs text port := by
  obtain ⟨hne, hall, hn⟩ := digits_of_parseUint h
  have hdash : ∀ c ∈ text.toList, decide (c ≠ '-') = true := by
    intro c hc
    rw [decide_eq_true_eq]
    rintro rfl
    exact absurd (hall _ hc) (by decide)
  have hlo : text.toList.takeWhile (· ≠ '-') = text.toList := List.takeWhile_eq_self_iff.2 hdash
  have hhi : text.toList.dropWhile (· ≠ '-') = [] := List.dropWhile_eq_nil_iff.2 hdash
  have hrange : parseIstioPortRange text = (parseInt 32 text).map fun l => (l, l) := by
    simp only [parseIstioPortRange, hlo, hhi, String.ofList_toList, List.drop_nil]
    cases parseInt 32 text with
    | none => rfl
    | some l => rfl
  have hdecimal : portIs text port = decide ((n : Int) = port) := by
    rw [portIs, h]
    rfl
  by_cases hfit : n < 2 ^ 31
  · have hparse : parseInt 32 text = some (n : Int) := by
      rw [parseInt_of_isDigit hne hall (by rw [hn]; exact hfit), hn]
      rfl
    rw [hdecimal, Bool.eq_iff_iff]
    simp only [istioPortMatches, hrange, hparse, Option.map_some, Bool.and_eq_true, decide_eq_true_eq]
    omega
  · -- a number too large for a port is neither
    have hparse : parseInt 32 text = none := by
      unfold parseInt
      split
      · rename_i hs
        exact absurd (hall '-' (by rw [hs]; exact List.mem_cons_self ..)) (by decide)
      · rename_i hs
        exact absurd (hall '+' (by rw [hs]; exact List.mem_cons_self ..)) (by decide)
      · rw [h]
        exact if_neg hfit
    have hlarge : ¬ (n : Int) = port := by omega
    simp [istioPortMatches, hrange, hparse, hdecimal, hlarge]

/-- A port that is written in decimal is read as itself. -/
lemma parseUint_formatInt {port : Int} (h : 0 ≤ port) : parseUint (formatInt port).toList = some port.toNat := by
  have hdigits : ∀ c ∈ Nat.toDigits 10 port.toNat, c.isDigit = true :=
    fun c hc => Nat.isDigit_of_mem_toDigits (by decide) (by decide) hc
  rw [toList_formatInt h]
  cases hcs : Nat.toDigits 10 port.toNat with
  | nil => exact absurd hcs Nat.toDigits_ne_nil
  | cons c cs =>
    show digits 0 (c :: cs) = _
    rw [digits_of_isDigit (hcs ▸ hdigits), ← hcs, Nat.ofDigitChars_ten_toDigits]

lemma portIs_formatInt {port q : Int} (h : 0 ≤ port) : portIs (formatInt port) q = true ↔ port = q := by
  rw [portIs, parseUint_formatInt h]
  show decide ((port.toNat : Int) = q) = true ↔ _
  rw [decide_eq_true_eq, Int.toNat_of_nonneg h]

end NetworkEnforcer.Semantics
