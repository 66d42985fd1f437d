import Mathlib.Data.List.Basic

/-!
# Byte strings

Strings of Go and of Lua are sequences of bytes.  `cut` splits one at the first occurrence of a byte,
`afterLast` is what follows the last one.  A `range` loop over a Go string visits runes: `runes` is what it
sees, for any decoder that reads an ASCII byte as itself and nothing else as an ASCII character.
-/

namespace NetworkEnforcer.Lib

abbrev Bytes : Type := List UInt8

/-- A literal of ASCII characters. -/
def ascii (s : String) : Bytes := s.toList.map fun c => UInt8.ofNat c.toNat

/-! ## Splitting -/

/-- What stands before and after the first occurrence of `b`. -/
def cut (b : UInt8) : Bytes → Option (Bytes × Bytes)
  | [] => none
  | c :: s => if c = b then some ([], s) else (cut b s).map fun r => (c :: r.1, r.2)

lemma cut_append {b : UInt8} {before : Bytes} (h : b ∉ before) (rest : Bytes) :
    cut b (before ++ b :: rest) = some (before, rest) := by
  induction before with
  | nil => simp [cut]
  | cons c before ih =>
    rw [List.mem_cons, not_or] at h
    simp [cut, Ne.symm h.1, ih h.2]

/-- What stands after the last occurrence of `b`. -/
def afterLast (b : UInt8) : Bytes → Option Bytes
  | [] => none
  | c :: s =>
    match afterLast b s with
    | some rest => some rest
    | none => if c = b then some s else none

lemma afterLast_eq_none {b : UInt8} {s : Bytes} : afterLast b s = none ↔ b ∉ s := by
  induction s with
  | nil => simp [afterLast]
  | cons c s ih =>
    unfold afterLast
    cases hs : afterLast b s with
    | some rest =>
      have hmem : b ∈ s := by
        by_contra hno
        rw [ih.2 hno] at hs
        cases hs
      simp [hmem]
    | none =>
      have hno := ih.1 hs
      by_cases hc : c = b
      · simp [hc]
      · simp [hc, hno, Ne.symm hc]

/-! ## Runes -/

/-- The value and the width of the rune that starts at a byte outside ASCII, valid or not. -/
structure RuneDecoder where
  decode (first : UInt8) (rest : Bytes) : Nat × Nat
  /-- No such rune is an ASCII character: an invalid one reads as U+FFFD. -/
  decode_ge (first : UInt8) (rest : Bytes) : 0x80 ≤ (decode first rest).1

/-- The runes of a text, after `skip` bytes of the one before. -/
def runesFrom (d : RuneDecoder) (skip : Nat) : Bytes → List Nat
  | [] => []
  | b :: s =>
    if 0 < skip then runesFrom d (skip - 1) s
    else if b < 0x80 then b.toNat :: runesFrom d 0 s
    else (d.decode b s).1 :: runesFrom d ((d.decode b s).2 - 1) s

/-- The runes a `range` loop visits. -/
def runes (d : RuneDecoder) (s : Bytes) : List Nat := runesFrom d 0 s

/-- A test that no rune outside ASCII passes can be made byte by byte. -/
lemma all_runes (d : RuneDecoder) {p : Nat → Bool} (hp : ∀ n, 0x80 ≤ n → p n = false) (s : Bytes) :
    (runes d s).all p = s.all fun b => p b.toNat := by
  unfold runes
  induction s with
  | nil => rfl
  | cons b s ih =>
    rw [runesFrom, if_neg (Nat.lt_irrefl 0), List.all_cons]
    by_cases hb : b < 0x80
    · rw [if_pos hb, List.all_cons, ih]
    · have hge : 0x80 ≤ b.toNat := by
        have hlt : ¬ b.toNat < (0x80 : UInt8).toNat := fun h => hb (UInt8.lt_iff_toNat_lt.2 h)
        exact Nat.not_lt.1 hlt
      rw [if_neg hb, List.all_cons, hp _ (d.decode_ge b s), hp _ hge, Bool.false_and, Bool.false_and]

end NetworkEnforcer.Lib
