import Mathlib.Algebra.Order.Ring.Int
import Mathlib.Data.List.Basic

/-!
# Machine integers and decimal numbers

`wrap64` is the two's complement reading of an integer in 64 bits; `parseInt` follows
`strconv.ParseInt` in base ten: an optional sign, at least one digit, nothing else, and a value
that fits the given number of bits.  `formatInt` is `strconv.FormatInt` in base ten, and
`parseInt_formatInt` says that parsing reads back what it writes.
-/

namespace NetworkEnforcer.Lib

/-- The value of an `int64` after an operation whose exact result is `x`. -/
def wrap64 (x : Int) : Int := Int.bmod x (2 ^ 64)

/-- The values of an `int64`. -/
def IsInt64 (x : Int) : Prop := -2 ^ 63 ≤ x ∧ x < 2 ^ 63
  deriving Decidable

/-- A value that fits is not changed. -/
lemma wrap64_of_isInt64 {x : Int} (h : IsInt64 x) : wrap64 x = x := by
  obtain ⟨h0, h1⟩ := h
  have hlo : -(((2 ^ 64 : Nat) : Int) / 2) ≤ x := by omega
  have hhi : x < (((2 ^ 64 : Nat) : Int) + 1) / 2 := by omega
  exact Int.bmod_eq_of_le hlo hhi

/-- Below `2 ^ 63` nothing wraps. -/
lemma wrap64_of_lt {x : Int} (h0 : 0 ≤ x) (h : x < 2 ^ 63) : wrap64 x = x :=
  wrap64_of_isInt64 ⟨by omega, h⟩

/-- Wrapping once at the end is enough. -/
lemma wrap64_wrap64_add (x y : Int) : wrap64 (wrap64 x + y) = wrap64 (x + y) :=
  Int.bmod_add_bmod

/-- The value of a decimal digit. -/
def digit (c : Char) : Option Nat := if c.isDigit then some (c.toNat - '0'.toNat) else none

/-- The number written by a list of decimal digits, read after `acc`. -/
def digits (acc : Nat) : List Char → Option Nat
  | [] => some acc
  | c :: cs =>
    match digit c with
    | some d => digits (10 * acc + d) cs
    | none => none

/-- `strconv.ParseUint(s, 10, _)` without the range check: no sign, no empty string. -/
def parseUint : List Char → Option Nat
  | [] => none
  | cs => digits 0 cs

/-- `strconv.ParseInt(s, 10, bitSize)`, `none` for an error. -/
def parseInt (bitSize : Nat) (s : String) : Option Int :=
  match s.toList with
  | '-' :: cs =>
    match parseUint cs with
    | some n => if n ≤ 2 ^ (bitSize - 1) then some (-(n : Int)) else none
    | none => none
  | '+' :: cs =>
    match parseUint cs with
    | some n => if n < 2 ^ (bitSize - 1) then some n else none
    | none => none
  | cs =>
    match parseUint cs with
    | some n => if n < 2 ^ (bitSize - 1) then some n else none
    | none => none

/-- `strings.CutPrefix(s, before)`: the rest of `s` after `before`. -/
def cutPrefix (s before : String) : Option String :=
  (before.toList.isPrefixOf? s.toList).map String.ofList

lemma cutPrefix_eq_some {s before rest : String} :
    cutPrefix s before = some rest ↔ s = before ++ rest := by
  rw [cutPrefix, Option.map_eq_some_iff]
  constructor
  · rintro ⟨cs, hcs, rfl⟩
    have hlist : before.toList ++ cs = s.toList := List.isPrefixOf?_eq_some_iff_append_eq.1 hcs
    rw [← String.toList_inj, String.toList_append, String.toList_ofList, hlist]
  · rintro rfl
    refine ⟨rest.toList, ?_, String.ofList_toList⟩
    exact List.isPrefixOf?_eq_some_iff_append_eq.2 (String.toList_append ..).symm

/-- Of two starts of one text, one starts the other. -/
lemma starts_comparable {a b x y : String} (h : a ++ x = b ++ y) :
    a.toList <+: b.toList ∨ b.toList <+: a.toList := by
  have hlist : a.toList ++ x.toList = b.toList ++ y.toList := by
    rw [← String.toList_append, ← String.toList_append, h]
  exact List.prefix_or_prefix_of_prefix ⟨x.toList, rfl⟩ ⟨y.toList, hlist.symm⟩

/-- Of two ends of one text, one ends the other. -/
lemma ends_comparable {a b x y : String} (h : x ++ a = y ++ b) :
    a.toList <:+ b.toList ∨ b.toList <:+ a.toList := by
  have hlist : x.toList ++ a.toList = y.toList ++ b.toList := by
    rw [← String.toList_append, ← String.toList_append, h]
  exact List.suffix_or_suffix_of_suffix ⟨x.toList, rfl⟩ ⟨y.toList, hlist.symm⟩

/-- `strings.HasPrefix`. -/
def hasPrefix (s before : String) : Bool := (cutPrefix s before).isSome

/-- `strings.CutSuffix(s, after)`: the rest of `s` before `after`. -/
def cutSuffix (s after : String) : Option String :=
  (after.toList.reverse.isPrefixOf? s.toList.reverse).map fun cs => String.ofList cs.reverse

lemma cutSuffix_eq_some {s after rest : String} : cutSuffix s after = some rest ↔ s = rest ++ after := by
  rw [cutSuffix, Option.map_eq_some_iff]
  constructor
  · rintro ⟨cs, hcs, rfl⟩
    have hrev : after.toList.reverse ++ cs = s.toList.reverse := List.isPrefixOf?_eq_some_iff_append_eq.1 hcs
    have hlist : s.toList = cs.reverse ++ after.toList := by
      rw [← List.reverse_reverse s.toList, ← hrev, List.reverse_append, List.reverse_reverse]
    rw [← String.toList_inj, String.toList_append, String.toList_ofList, hlist]
  · rintro rfl
    refine ⟨rest.toList.reverse, List.isPrefixOf?_eq_some_iff_append_eq.2 (by simp), ?_⟩
    rw [List.reverse_reverse, String.ofList_toList]

/-- `strings.HasSuffix`. -/
def hasSuffix (s after : String) : Bool := (cutSuffix s after).isSome

/-- `strings.TrimSuffix`: `s` itself when it does not end so. -/
def trimSuffix (s after : String) : String := (cutSuffix s after).getD s

lemma hasSuffix_iff {s after : String} : hasSuffix s after = true ↔ ∃ rest, s = rest ++ after := by
  simp only [hasSuffix, Option.isSome_iff_exists, cutSuffix_eq_some]

lemma trimSuffix_append (rest after : String) : trimSuffix (rest ++ after) after = rest := by
  rw [trimSuffix, cutSuffix_eq_some.2 rfl, Option.getD_some]

/-- `strings.Cut(s, sep)` for one character: what stands before and after it first occurs. -/
def cutAt (sep : Char) (s : String) : Option (String × String) :=
  match s.toList.dropWhile (· ≠ sep) with
  | [] => none
  | _ :: rest => some (String.ofList (s.toList.takeWhile (· ≠ sep)), String.ofList rest)

/-- `net.SplitHostPort`: the host and the port of `host:port` or `[host]:port`, or what is wrong. -/
def splitHostPort (s : String) : Except String (String × String) :=
  match s.toList with
  | '[' :: cs =>
    if ':' ∉ cs then .error "missing port in address"
    else
      match cs.dropWhile (· ≠ ']') with
      | [] => .error "missing ']' in address"
      | _ :: ':' :: port =>
        if ':' ∈ port then .error "too many colons in address"
        else if '[' ∈ cs then .error "unexpected '[' in address"
        else if ']' ∈ port then .error "unexpected ']' in address"
        else .ok (String.ofList (cs.takeWhile (· ≠ ']')), String.ofList port)
      | _ => .error "missing port in address"
  | cs =>
    match cs.dropWhile (· ≠ ':') with
    | [] => .error "missing port in address"
    | _ :: port =>
      if ':' ∈ port then .error "too many colons in address"
      else if '[' ∈ cs then .error "unexpected '[' in address"
      else if ']' ∈ cs then .error "unexpected ']' in address"
      else .ok (String.ofList (cs.takeWhile (· ≠ ':')), String.ofList port)

/-- `strings.ToLower` and `strings.ToUpper`, on ASCII letters. -/
def toLower (s : String) : String := String.ofList (s.toList.map Char.toLower)
def toUpper (s : String) : String := String.ofList (s.toList.map Char.toUpper)

/-- `strconv.FormatInt(i, 10)`. -/
def formatInt (i : Int) : String :=
  String.ofList (if i < 0 then '-' :: Nat.toDigits 10 i.natAbs else Nat.toDigits 10 i.natAbs)

lemma toList_formatInt {i : Int} (h : 0 ≤ i) : (formatInt i).toList = Nat.toDigits 10 i.toNat := by
  have habs : i.natAbs = i.toNat := by omega
  rw [formatInt, if_neg (by omega), String.toList_ofList, habs]

lemma digits_of_isDigit {cs : List Char} (h : ∀ c ∈ cs, c.isDigit = true) (acc : Nat) :
    digits acc cs = some (Nat.ofDigitChars 10 cs acc) := by
  induction cs generalizing acc with
  | nil => rfl
  | cons c cs ih =>
    obtain ⟨hc, hcs⟩ := List.forall_mem_cons.1 h
    rw [digits, digit, if_pos hc, Nat.ofDigitChars_cons]
    exact ih hcs _

/-- A nonempty list of digits is read as the number it writes, if that fits. -/
lemma parseInt_of_isDigit {s : String} {bitSize : Nat} (hne : s.toList ≠ [])
    (h : ∀ c ∈ s.toList, c.isDigit = true) (hfit : Nat.ofDigitChars 10 s.toList 0 < 2 ^ (bitSize - 1)) :
    parseInt bitSize s = some (Int.ofNat (Nat.ofDigitChars 10 s.toList 0)) := by
  have hparse : parseUint s.toList = some (Nat.ofDigitChars 10 s.toList 0) := by
    cases hs : s.toList with
    | nil => exact absurd hs hne
    | cons c cs =>
      rw [parseUint]
      · exact digits_of_isDigit (hs ▸ h) 0
      · simp
  rw [parseInt]
  split
  next cs hcs =>
    have hminus := h '-' (by rw [hcs]; simp)
    exact absurd hminus (by decide)
  next cs hcs =>
    have hplus := h '+' (by rw [hcs]; simp)
    exact absurd hplus (by decide)
  next =>
    rw [hparse]
    exact if_pos hfit

/-- **Parsing reads back a number that fits.** -/
theorem parseInt_formatInt {bitSize : Nat} {i : Int} (h0 : 0 ≤ i) (h : i.toNat < 2 ^ (bitSize - 1)) :
    parseInt bitSize (formatInt i) = some i := by
  have hof : Nat.ofDigitChars 10 (formatInt i).toList 0 = i.toNat := by
    rw [toList_formatInt h0, Nat.ofDigitChars_ten_toDigits]
  rw [parseInt_of_isDigit, hof]
  · exact congrArg some (Int.toNat_of_nonneg h0)
  · rw [toList_formatInt h0]
    exact Nat.toDigits_ne_nil
  · rw [toList_formatInt h0]
    exact fun c hc => Nat.isDigit_of_mem_toDigits (by decide) (by decide) hc
  · rw [hof]
    exact h

/-- A list is determined by its parts before and after the last occurrence of a separator. -/
lemma append_cons_inj_of_last {α : Type} {a : α} {x₁ x₂ z₁ z₂ : List α} (h₁ : a ∉ z₁) (h₂ : a ∉ z₂)
    (h : x₁ ++ a :: z₁ = x₂ ++ a :: z₂) : x₁ = x₂ ∧ z₁ = z₂ := by
  rcases List.append_eq_append_iff.1 h with ⟨c, rfl, hc⟩ | ⟨c, rfl, hc⟩
  · cases c with
    | nil => simpa using hc
    | cons y c =>
      rw [List.cons_append, List.cons.injEq] at hc
      exact absurd (hc.2 ▸ List.mem_append_right c (List.mem_cons_self ..)) h₁
  · cases c with
    | nil => simpa using hc.symm
    | cons y c =>
      rw [List.cons_append, List.cons.injEq] at hc
      exact absurd (hc.2 ▸ List.mem_append_right c (List.mem_cons_self ..)) h₂

/-- A list is determined by its parts before and after the first occurrence of a separator. -/
lemma append_cons_inj_of_first {α : Type} {a : α} {x₁ x₂ z₁ z₂ : List α} (h₁ : a ∉ x₁) (h₂ : a ∉ x₂)
    (h : x₁ ++ a :: z₁ = x₂ ++ a :: z₂) : x₁ = x₂ ∧ z₁ = z₂ := by
  have hrev := congrArg List.reverse h
  simp only [List.reverse_append, List.reverse_cons, List.append_assoc, List.singleton_append] at hrev
  obtain ⟨hz, hx⟩ := append_cons_inj_of_last (by simpa using h₁) (by simpa using h₂) hrev
  exact ⟨List.reverse_injective hx, List.reverse_injective hz⟩

example : parseInt 64 "007" = some 7 ∧ parseInt 64 "-0" = some 0 ∧ parseInt 64 "" = none ∧
    parseInt 64 "9223372036854775808" = none := by decide

end NetworkEnforcer.Lib
