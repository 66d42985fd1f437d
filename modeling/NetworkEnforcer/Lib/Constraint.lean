import Mathlib.Data.List.Basic

/-!
# Lists of alternatives where none means any

`admits p l` holds if `l` is empty or one of its elements satisfies `p`.  So the empty list is the widest
of all, and adding an alternative to it makes it narrower: `admits_concat` needs a list that has one.

`upsertFirst` changes the first element that passes a test, or appends a new one.  Where the elements are
rules that allow, and the change is meant to add something to what they allow, it is exact unless it narrows
the element it changes (`AddsTo.any_upsertFirst_iff`).
-/

namespace NetworkEnforcer.Lib

variable {α : Type} {p : α → Bool} {l : List α}

/-- The list is empty, or one of its elements satisfies `p`. -/
def admits (p : α → Bool) (l : List α) : Bool := l.isEmpty || l.any p

lemma admits_iff : admits p l = true ↔ l = [] ∨ ∃ a ∈ l, p a = true := by
  simp [admits]

@[simp] lemma admits_nil : admits p [] = true := rfl

lemma admits_cons (a : α) (l : List α) : admits p (a :: l) = (p a || l.any p) := rfl

lemma admits_of_ne_nil (h : l ≠ []) : admits p l = l.any p := by
  cases l with
  | nil => exact absurd rfl h
  | cons a l => rfl

lemma admits_map {β : Type} (f : β → α) (l : List β) : admits p (l.map f) = admits (fun b => p (f b)) l := by
  simp [admits, List.any_map, Function.comp_def]

lemma admits_congr {q : α → Bool} (h : ∀ a ∈ l, p a = q a) : admits p l = admits q l := by
  rw [Bool.eq_iff_iff, admits_iff, admits_iff]
  refine or_congr_right (exists_congr fun a => and_congr_right fun ha => ?_)
  rw [h a ha]

/-- One more alternative. -/
lemma admits_concat (h : l ≠ []) (a : α) : admits p (l ++ [a]) = (admits p l || p a) := by
  rw [admits_of_ne_nil h, admits_of_ne_nil (by simp), List.any_append]
  simp

/-! ## Changing the first match -/

section Upsert

variable (test : α → Bool) (f : α → α) (new : α)

/-- Change the first element that passes the test by `f`; without one, append `new`. -/
def upsertFirst : List α → List α
  | [] => [new]
  | a :: l => if test a then f a :: l else a :: upsertFirst l

/-- The element that is changed, and the others, which stay. -/
lemma upsertFirst_cases (l : List α) :
    (l.find? test = none ∧ upsertFirst test f new l = l ++ [new]) ∨
    ∃ before a after, l = before ++ a :: after ∧ l.find? test = some a ∧
      l.eraseP test = before ++ after ∧ upsertFirst test f new l = before ++ f a :: after := by
  induction l with
  | nil => exact Or.inl ⟨rfl, rfl⟩
  | cons a l ih =>
    rw [upsertFirst]
    by_cases h : test a = true
    · right
      refine ⟨[], a, l, rfl, ?_, List.eraseP_cons_of_pos h, ?_⟩
      · simp only [List.find?_cons, h]
      · rw [if_pos h]
        rfl
    · have hfind : (a :: l).find? test = l.find? test := by simp only [List.find?_cons, h]
      have herase : (a :: l).eraseP test = a :: l.eraseP test := List.eraseP_cons_of_neg h
      rw [if_neg h, hfind, herase]
      rcases ih with ⟨hnone, heq⟩ | ⟨before, b, after, rfl, hfound, hothers, heq⟩
      · exact Or.inl ⟨hnone, by rw [heq]; rfl⟩
      · exact Or.inr ⟨a :: before, b, after, rfl, hfound, by rw [hothers]; rfl, by rw [heq]; rfl⟩

variable {β : Type}

/-- The change is meant to add something to what the elements allow: the new element allows just that, and
the change adds just that to an element it does not narrow.  One that it narrows allowed all of `own`, and
afterwards allows what is added and what is `left` of it. -/
structure AddsTo (allows : α → β → Bool) (added own : β → Prop) (narrowed : α → Prop)
    (left : α → β → Prop) : Prop where
  new : ∀ x, allows new x = true ↔ added x
  gain : ∀ a, test a = true → ¬narrowed a → ∀ x, allows (f a) x = true ↔ allows a x = true ∨ added x
  old : ∀ a, test a = true → narrowed a → ∀ x, allows a x = true ↔ own x
  less : ∀ a, test a = true → narrowed a → ∀ x, allows (f a) x = true ↔ left a x ∨ added x
  added_own : ∀ x, added x → own x
  left_own : ∀ a x, left a x → own x

variable {test f new} {allows : α → β → Bool} {added own : β → Prop} {narrowed : α → Prop}
  {left : α → β → Prop}

/-- **When adding is exact**, at each point: the list allows what it allowed and what is added, exactly when
no element is narrowed, or what it was for is left to it or allowed by the other elements. -/
theorem AddsTo.any_upsertFirst_iff (h : AddsTo test f new allows added own narrowed left) (l : List α)
    (x : β) :
    ((upsertFirst test f new l).any (allows · x) = true ↔ l.any (allows · x) = true ∨ added x) ↔
      ∀ a, l.find? test = some a → narrowed a → own x → ¬added x →
        left a x ∨ (l.eraseP test).any (allows · x) = true := by
  rcases upsertFirst_cases test f new l with ⟨hnone, heq⟩ | ⟨before, a, after, hl, hfound, hothers, heq⟩
  · refine iff_of_true ?_ ?_
    · rw [heq, List.any_append, Bool.or_eq_true]
      simp [h.new]
    · intro a hfound
      rw [hnone] at hfound
      cases hfound
  · have htest : test a = true := List.find?_some hfound
    -- the other elements are the same before and after
    have hbefore : l.any (allows · x) = true ↔
        (l.eraseP test).any (allows · x) = true ∨ allows a x = true := by
      rw [hothers, hl, List.any_append, List.any_cons, List.any_append]
      simp only [Bool.or_eq_true]
      rw [or_left_comm, or_comm]
    have hafter : (upsertFirst test f new l).any (allows · x) = true ↔
        (l.eraseP test).any (allows · x) = true ∨ allows (f a) x = true := by
      rw [hothers, heq, List.any_append, List.any_cons, List.any_append]
      simp only [Bool.or_eq_true]
      rw [or_left_comm, or_comm]
    rw [hafter, hbefore]
    by_cases hn : narrowed a
    · rw [h.old a htest hn, h.less a htest hn]
      constructor
      · intro hexact b hfound' _ hown hadded
        obtain rfl : a = b := Option.some.inj (hfound.symm.trans hfound')
        rcases hexact.2 (Or.inl (Or.inr hown)) with hother | hleft | hnew
        · exact Or.inr hother
        · exact Or.inl hleft
        · exact absurd hnew hadded
      · intro hkept
        constructor
        · rintro (hother | hleft | hnew)
          · exact Or.inl (Or.inl hother)
          · exact Or.inl (Or.inr (h.left_own a x hleft))
          · exact Or.inr hnew
        · rintro ((hother | hown) | hnew)
          · exact Or.inl hother
          · by_cases hadded : added x
            · exact Or.inr (Or.inr hadded)
            · exact (hkept a hfound hn hown hadded).symm.imp_right Or.inl
          · exact Or.inr (Or.inr hnew)
    · refine iff_of_true ?_ ?_
      · rw [h.gain a htest hn, or_assoc]
      · intro b hfound' hb
        obtain rfl : a = b := Option.some.inj (hfound.symm.trans hfound')
        exact absurd hb hn

end Upsert

end NetworkEnforcer.Lib
