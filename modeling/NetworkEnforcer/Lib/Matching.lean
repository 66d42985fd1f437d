import Mathlib.Data.Fintype.Card
import Mathlib.Logic.Equiv.Fin.Basic

/-!
# Pairing the positions of two lists

`Matching r l m` says that the positions of `l` and `m` can be paired so that related elements face each
other.  For an equivalence this is equality of the multisets of classes (`iff_perm_classes`), so it is an
equivalence again, it does not depend on the order of the lists, and a related pair can be taken out of
both lists (`cons_iff`).

`ComparesUpTo eq same` is a comparison that is an equivalence and does not see the differences `same`
allows; a comparison of records is put together from those of their parts.
-/

namespace NetworkEnforcer.Lib

variable {α β γ : Type}

/-- The positions can be paired so that related elements face each other. -/
def Matching (r : α → β → Prop) (l : List α) (m : List β) : Prop :=
  ∃ σ : Fin l.length ≃ Fin m.length, ∀ i, r (l.get i) (m.get (σ i))

namespace Matching

section

variable {r : α → β → Prop}

lemma length_eq {l : List α} {m : List β} (h : Matching r l m) : l.length = m.length := by
  obtain ⟨σ, -⟩ := h
  simpa using Fintype.card_congr σ

lemma mono {s : α → β → Prop} (hrs : ∀ a b, r a b → s a b) {l : List α} {m : List β}
    (h : Matching r l m) : Matching s l m := by
  obtain ⟨σ, hσ⟩ := h
  exact ⟨σ, fun i => hrs _ _ (hσ i)⟩

/-- One more pair in front. -/
lemma cons {a : α} {b : β} (hab : r a b) {l : List α} {m : List β} (h : Matching r l m) :
    Matching r (a :: l) (b :: m) := by
  obtain ⟨σ, hσ⟩ := h
  refine ⟨(finSuccEquiv _).trans (σ.optionCongr.trans (finSuccEquiv _).symm), ?_⟩
  refine Fin.cases ?_ fun i => ?_
  · simpa using hab
  · simpa using hσ i

lemma exists_related {l : List α} {m : List β} (h : Matching r l m) {a : α} (ha : a ∈ l) :
    ∃ b ∈ m, r a b := by
  obtain ⟨σ, hσ⟩ := h
  obtain ⟨i, rfl⟩ := List.mem_iff_get.1 ha
  exact ⟨_, List.get_mem _ _, hσ i⟩

end

/-- A reordering pairs equal elements. -/
lemma of_perm {l m : List α} (h : l.Perm m) : Matching (· = ·) l m := by
  induction h with
  | nil => exact ⟨Equiv.refl _, fun _ => rfl⟩
  | cons a _ ih => exact ih.cons rfl
  | swap a b l =>
    refine ⟨Equiv.swap 0 1, ?_⟩
    refine Fin.cases ?_ (Fin.cases ?_ fun i => ?_)
    · simp
    · simp
    · have h0 : i.succ.succ ≠ 0 := Fin.succ_ne_zero _
      have h1 : i.succ.succ ≠ 1 := by simp [Fin.ext_iff]
      rw [Equiv.swap_apply_of_ne_of_ne h0 h1]
      rfl
  | trans _ _ ih ih' =>
    obtain ⟨σ, hσ⟩ := ih
    obtain ⟨τ, hτ⟩ := ih'
    exact ⟨σ.trans τ, fun i => (hσ i).trans (hτ (σ i))⟩

/-- Pairing elements of equal value is a reordering of the values. -/
lemma iff_perm_map (f : α → γ) {l m : List α} :
    Matching (fun a b => f a = f b) l m ↔ (l.map f).Perm (m.map f) := by
  have values : ∀ l : List α, (↑(l.map f) : Multiset γ) =
      (Finset.univ : Finset (Fin l.length)).val.map fun i => f (l.get i) := by
    intro l
    have hofFn : List.ofFn (fun i => f (l.get i)) = l.map f := by
      rw [← Function.comp_def f, ← List.map_ofFn, List.ofFn_get]
    rw [Fin.univ_val_map, hofFn]
  constructor
  · rintro ⟨σ, hσ⟩
    rw [← Multiset.coe_eq_coe, values, values, ← Multiset.map_univ_val_equiv σ, Multiset.map_map]
    exact Multiset.map_congr rfl fun i _ => hσ i
  · intro h
    obtain ⟨σ, hσ⟩ := of_perm h
    refine ⟨(finCongr (List.length_map f).symm).trans (σ.trans (finCongr (List.length_map f))), ?_⟩
    intro i
    simpa using hσ (finCongr (List.length_map f).symm i)

lemma eq_iff_perm {l m : List α} : Matching (· = ·) l m ↔ l.Perm m := by
  simpa using iff_perm_map (id : α → α) (l := l) (m := m)

/-! ## Up to an equivalence -/

section Equivalence

variable {r : α → α → Prop} (hr : Equivalence r)
include hr

/-- **Pairing up to an equivalence is reordering the classes.** -/
theorem iff_perm_classes {l m : List α} :
    Matching r l m ↔ (l.map (Quotient.mk ⟨r, hr⟩)).Perm (m.map (Quotient.mk ⟨r, hr⟩)) := by
  rw [← iff_perm_map]
  have same : ∀ a b, r a b ↔ Quotient.mk ⟨r, hr⟩ a = Quotient.mk ⟨r, hr⟩ b :=
    fun a b => (Quotient.eq (r := ⟨r, hr⟩)).symm
  exact ⟨mono fun a b => (same a b).1, mono fun a b => (same a b).2⟩

theorem equivalence : Equivalence (Matching r) := by
  refine ⟨?_, ?_, ?_⟩
  · exact fun l => (iff_perm_classes hr).2 (.refl _)
  · exact fun h => (iff_perm_classes hr).2 ((iff_perm_classes hr).1 h).symm
  · exact fun h h' =>
      (iff_perm_classes hr).2 (((iff_perm_classes hr).1 h).trans ((iff_perm_classes hr).1 h'))

/-- Neither order matters. -/
lemma congr_perm {l l' m m' : List α} (hl : l.Perm l') (hm : m.Perm m') :
    Matching r l m ↔ Matching r l' m' := by
  rw [iff_perm_classes hr, iff_perm_classes hr, (hl.map _).congr_left, (hm.map _).congr_right]

/-- **Exchange**: whatever a pairing does with two related elements, they can be paired with each
other. -/
theorem cons_iff {a b : α} (hab : r a b) {l m : List α} :
    Matching r (a :: l) (b :: m) ↔ Matching r l m := by
  have hclass : Quotient.mk ⟨r, hr⟩ a = Quotient.mk ⟨r, hr⟩ b := Quotient.sound hab
  rw [iff_perm_classes hr, iff_perm_classes hr, List.map_cons, List.map_cons, hclass,
    List.perm_cons]

end Equivalence

end Matching

/-! ## Comparisons that do not see a difference -/

/-- The comparison is an equivalence, and `same` values can stand for each other in it. -/
structure ComparesUpTo (eq : α → α → Bool) (same : α → α → Prop) : Prop where
  equivalence : Equivalence fun a b => eq a b = true
  invariant : ∀ {a a' b b'}, same a a' → same b b' → eq a b = eq a' b'

namespace ComparesUpTo

variable {eq : α → α → Bool} {same : α → α → Prop}

lemma of_equivalence (h : Equivalence fun a b => eq a b = true)
    (hsame : ∀ {a b}, same a b → eq a b = true) : ComparesUpTo eq same := by
  refine ⟨h, ?_⟩
  intro a a' b b' ha hb
  rw [Bool.eq_iff_iff]
  constructor
  · exact fun hab => h.trans (h.symm (hsame ha)) (h.trans hab (hsame hb))
  · exact fun hab => h.trans (hsame ha) (h.trans hab (h.symm (hsame hb)))

lemma eq_of_same (h : ComparesUpTo eq same) {a b : α} (hrefl : same b b) (hab : same a b) :
    eq a b = true := by
  rw [h.invariant hab hrefl]
  exact h.equivalence.refl b

lemma mono {same' : α → α → Prop} (h : ComparesUpTo eq same)
    (hsame : ∀ a b, same' a b → same a b) : ComparesUpTo eq same' :=
  ⟨h.equivalence, fun ha hb => h.invariant (hsame _ _ ha) (hsame _ _ hb)⟩

/-- Plain equality of a value. -/
lemma of_eq {δ : Type} [DecidableEq δ] (f : α → δ) :
    ComparesUpTo (fun a b => decide (f a = f b)) (· = ·) := by
  refine .of_equivalence ⟨?_, ?_, ?_⟩ ?_
  · simp
  · intro a b hab
    simpa [eq_comm] using hab
  · intro a b c hab hbc
    rw [decide_eq_true_eq] at hab hbc ⊢
    exact hab.trans hbc
  · rintro a b rfl
    simp

/-- A comparison of two parts. -/
lemma and {eq' : β → β → Bool} {same' : β → β → Prop} (h : ComparesUpTo eq same)
    (h' : ComparesUpTo eq' same') (f : γ → α) (g : γ → β) :
    ComparesUpTo (fun a b => eq (f a) (f b) && eq' (g a) (g b))
      (fun a b => same (f a) (f b) ∧ same' (g a) (g b)) := by
  refine ⟨⟨?_, ?_, ?_⟩, ?_⟩
  · intro a
    rw [h.equivalence.refl, h'.equivalence.refl]
    rfl
  · intro a b hab
    rw [Bool.and_eq_true] at hab ⊢
    exact ⟨h.equivalence.symm hab.1, h'.equivalence.symm hab.2⟩
  · intro a b c hab hbc
    rw [Bool.and_eq_true] at hab hbc ⊢
    exact ⟨h.equivalence.trans hab.1 hbc.1, h'.equivalence.trans hab.2 hbc.2⟩
  · rintro a a' b b' ⟨ha, ha'⟩ ⟨hb, hb'⟩
    show (eq (f a) (f b) && eq' (g a) (g b)) = (eq (f a') (f b') && eq' (g a') (g b'))
    rw [h.invariant ha hb, h'.invariant ha' hb']

end ComparesUpTo

end NetworkEnforcer.Lib
