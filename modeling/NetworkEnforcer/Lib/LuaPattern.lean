import Mathlib.Data.List.TakeWhile
import NetworkEnforcer.Lib.Bytes

/-!
# Lua patterns

The part of Lua's patterns made of single characters, captured repetitions `(x+)` and a closing `$`,
matched as the reference implementation does: a repetition takes as many characters as it can and gives
them back one by one, and `match` tries every position from the left.

`find_capture_end` is what a pattern `c(p+)$` captures.
-/

namespace NetworkEnforcer.Lib.LuaPattern

/-- An item of a pattern. -/
inductive Item where
  /-- One character of a class. -/
  | single (p : UInt8 → Bool)
  /-- One or more characters of a class, captured. -/
  | capture (p : UInt8 → Bool)
  /-- The end of the subject. -/
  | eos

/-- The loop of `max_expand`: `n` characters are taken, or as many less as the rest of the pattern needs,
but one at least. -/
def expand (rest : Bytes → Option (List Bytes)) (s : Bytes) : Nat → Option (List Bytes)
  | 0 => none
  | n + 1 =>
    match rest (s.drop (n + 1)) with
    | some captures => some (s.take (n + 1) :: captures)
    | none => expand rest s n

/-- `match` at one position: the captures. -/
def matchHere : List Item → Bytes → Option (List Bytes)
  | [], _ => some []
  | .single _ :: _, [] => none
  | .single p :: items, b :: s => if p b then matchHere items s else none
  | .capture p :: items, s => expand (matchHere items) s (s.takeWhile p).length
  | .eos :: items, s => if s = [] then matchHere items s else none

/-- `string.match`: the first position from the left where the pattern matches. -/
def find (pattern : List Item) : Bytes → Option (List Bytes)
  | [] => matchHere pattern []
  | b :: s =>
    match matchHere pattern (b :: s) with
    | some captures => some captures
    | none => find pattern s

/-- Up to the end there is one way to expand. -/
lemma expand_eos {s : Bytes} {n : Nat} (hn : n ≤ s.length) :
    expand (matchHere [.eos]) s n = if s ≠ [] ∧ n = s.length then some [s] else none := by
  induction n with
  | zero =>
    have hne : ¬ (s ≠ [] ∧ 0 = s.length) := by
      rintro ⟨hs, h0⟩
      exact hs (List.length_eq_zero_iff.1 h0.symm)
    rw [expand, if_neg hne]
  | succ n ih =>
    rw [expand]
    by_cases hlen : n + 1 = s.length
    · have hs : s ≠ [] := by
        rintro rfl
        cases hlen
      have hend : matchHere [.eos] (s.drop (n + 1)) = some [] := by
        rw [List.drop_eq_nil_of_le (Nat.le_of_eq hlen.symm)]
        rfl
      rw [hend, if_pos ⟨hs, hlen⟩, List.take_of_length_le (Nat.le_of_eq hlen.symm)]
    · have hmore : s.drop (n + 1) ≠ [] := by
        rw [Ne, List.drop_eq_nil_iff]
        omega
      have hnone : matchHere [.eos] (s.drop (n + 1)) = none := if_neg hmore
      rw [hnone, if_neg fun h => hlen h.2]
      simp only
      rw [ih (by omega), if_neg]
      omega

lemma matchHere_capture_end {p : UInt8 → Bool} (s : Bytes) :
    matchHere [.capture p, .eos] s = if s ≠ [] ∧ s.all p = true then some [s] else none := by
  rw [matchHere, expand_eos (List.takeWhile_prefix p).length_le]
  have hall : (s.takeWhile p).length = s.length ↔ s.all p = true := by
    rw [List.all_eq_true]
    constructor
    · intro h b hb
      have hself := (List.takeWhile_prefix p).eq_of_length h
      rw [← hself] at hb
      exact List.mem_takeWhile_imp hb
    · intro h
      rw [List.takeWhile_eq_self_iff.2 h]
  simp only [hall]

variable {c : UInt8} {p : UInt8 → Bool}

lemma matchHere_capture_end_cons (b : UInt8) (s : Bytes) :
    matchHere [.single (· = c), .capture p, .eos] (b :: s) =
      if b = c ∧ s ≠ [] ∧ s.all p = true then some [s] else none := by
  rw [matchHere, matchHere_capture_end]
  by_cases hb : b = c
  · simp [hb]
  · simp [hb]

/-- **What `c(p+)$` captures**: the characters after the last `c`, if there are some and `p` holds of all of
them, for a class `p` without `c`. -/
theorem find_capture_end (hc : p c = false) (s : Bytes) :
    find [.single (· = c), .capture p, .eos] s =
      (afterLast c s).bind fun rest => if rest ≠ [] ∧ rest.all p = true then some [rest] else none := by
  induction s with
  | nil => rfl
  | cons b s ih =>
    rw [find, matchHere_capture_end_cons]
    by_cases hhere : b = c ∧ s ≠ [] ∧ s.all p = true
    · -- it matches here, and no later character is `c`
      have hno : c ∉ s := by
        intro hmem
        have := List.all_eq_true.1 hhere.2.2 c hmem
        rw [hc] at this
        cases this
      rw [if_pos hhere, hhere.1, afterLast, afterLast_eq_none.2 hno]
      simp only [if_true, Option.bind_some]
      rw [if_pos hhere.2]
    · rw [if_neg hhere]
      simp only
      rw [ih, afterLast]
      cases hs : afterLast c s with
      | some rest => rfl
      | none =>
        simp only [Option.bind_none]
        split
        · rename_i hb
          rw [Option.bind_some, if_neg fun h => hhere ⟨hb, h⟩]
        · rfl

end NetworkEnforcer.Lib.LuaPattern
