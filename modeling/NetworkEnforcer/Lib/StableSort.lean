import Mathlib.Data.List.Sort
import Mathlib.Order.Lattice

/-!
# Stable descending order and its first elements

`sortDesc f l` is the list `l` with the greatest values of `f` first and ties in their old order;
`StableDesc` says the same without an algorithm.  A filter passes through the sort
(`filter_sortDesc`), and through a cut exactly when the cut loses nothing to what the filter drops
(`filter_take_eq_iff`).  In a strictly descending list an element is among the first `n` when fewer
than `n` values are above its own (`mem_take_iff_of_strict`).
-/

namespace NetworkEnforcer.Lib

variable {α τ : Type} [LinearOrder τ]

/-- Greatest first, ties in the order of the list. -/
def sortDesc (f : α → τ) (l : List α) : List α := l.insertionSort fun a b => f b ≤ f a

/-- The list `l'` is `l` in descending order of `f`, with ties in their old order. -/
structure StableDesc (f : α → τ) (l l' : List α) : Prop where
  perm : l'.Perm l
  sorted : l'.Pairwise fun a b => f b ≤ f a
  stable : ∀ t, l'.filter (fun a => f a = t) = l.filter fun a => f a = t

section Sorting

variable (f : α → τ) (l : List α)

lemma sortDesc_perm : (sortDesc f l).Perm l := List.perm_insertionSort _ l

lemma sortDesc_pairwise : (sortDesc f l).Pairwise fun a b => f b ≤ f a := by
  have : Std.Total fun a b : α => f b ≤ f a := ⟨fun a b => le_total (f b) (f a)⟩
  have : IsTrans α fun a b => f b ≤ f a := ⟨fun _ _ _ h1 h2 => le_trans h2 h1⟩
  exact List.pairwise_insertionSort _ l

variable {l}

/-- Inserting into a sorted list, seen through a filter. -/
lemma filter_orderedInsert (p : α → Bool) (a : α) (h : l.Pairwise fun a b => f b ≤ f a) :
    (l.orderedInsert (fun a b => f b ≤ f a) a).filter p =
      if p a then (l.filter p).orderedInsert (fun a b => f b ≤ f a) a else l.filter p := by
  induction l with
  | nil => cases hp : p a <;> simp [hp]
  | cons b l ih =>
    rw [List.pairwise_cons] at h
    by_cases hab : f b ≤ f a
    · rw [List.orderedInsert_cons_of_le _ l hab, List.filter_cons]
      split
      · -- whatever the filter leaves is below `b`, hence below `a`
        have hbelow : ∀ c ∈ (b :: l).filter p, f c ≤ f a := by
          intro c hc
          rcases List.mem_cons.1 (List.mem_of_mem_filter hc) with rfl | hc
          · exact hab
          · exact (h.1 c hc).trans hab
        cases hf : (b :: l).filter p with
        | nil => rfl
        | cons c l' =>
          rw [List.orderedInsert_cons_of_le]
          exact hbelow c (hf ▸ List.mem_cons_self ..)
      · rfl
    · rw [List.orderedInsert_of_not_le _ l hab, List.filter_cons, List.filter_cons, ih h.2]
      cases p a <;> cases p b <;> simp [hab]

/-- **A filter passes through the sort.** -/
theorem filter_sortDesc (p : α → Bool) (l : List α) :
    (sortDesc f l).filter p = sortDesc f (l.filter p) := by
  induction l with
  | nil => rfl
  | cons a l ih =>
    have h := filter_orderedInsert f p a (sortDesc_pairwise f l)
    rw [ih] at h
    simp only [sortDesc, List.insertionSort_cons, List.filter_cons] at h ⊢
    rw [h]
    split <;> rfl

/-- **The sort is stable.** -/
theorem stableDesc_sortDesc (l : List α) : StableDesc f l (sortDesc f l) where
  perm := sortDesc_perm f l
  sorted := sortDesc_pairwise f l
  stable t := by
    rw [filter_sortDesc]
    -- among equals there is nothing to sort
    apply List.Pairwise.insertionSort_eq
    refine List.pairwise_of_forall_mem_list ?_
    intro a ha b hb
    have ha : f a = t := by simpa using (List.mem_filter.1 ha).2
    have hb : f b = t := by simpa using (List.mem_filter.1 hb).2
    rw [ha, hb]

/-- Sorting after a map that keeps the values. -/
lemma map_sortDesc {β : Type} (g : α → β) (f : β → τ) (l : List α) :
    (sortDesc (fun a => f (g a)) l).map g = sortDesc f (l.map g) :=
  List.map_insertionSort _ _ g l fun _ _ _ _ => Iff.rfl

end Sorting

/-! ## The first elements -/

/-- **When a filter passes through a cut**: nothing that it keeps was cut off, or it keeps everything that
was not. -/
theorem filter_take_eq_iff (p : α → Bool) (n : Nat) (l : List α) :
    (l.take n).filter p = (l.filter p).take n ↔
      (∀ a ∈ l.drop n, p a = false) ∨ ∀ a ∈ l.take n, p a = true := by
  have hsplit : (l.filter p).take n = (l.take n).filter p ++
      ((l.drop n).filter p).take (n - ((l.take n).filter p).length) := by
    conv_lhs => rw [← List.take_append_drop n l, List.filter_append, List.take_append]
    rw [List.take_of_length_le]
    exact (List.length_filter_le _ _).trans (List.length_take_le _ _)
  rw [hsplit, eq_comm, List.append_right_eq_self, List.take_eq_nil_iff]
  have hle : ((l.take n).filter p).length ≤ (l.take n).length := List.length_filter_le _ _
  have hlen : (l.take n).length = min n l.length := List.length_take
  constructor
  · rintro (h0 | hnil)
    · right
      have hall : ((l.take n).filter p).length = (l.take n).length := by omega
      exact List.length_filter_eq_length_iff.1 hall
    · left
      simpa using hnil
  · rintro (hnil | hall)
    · right
      simpa using hnil
    · have hall : ((l.take n).filter p).length = (l.take n).length :=
        List.length_filter_eq_length_iff.2 hall
      by_cases hn : n ≤ l.length
      · left
        omega
      · right
        rw [List.drop_eq_nil_of_le (by omega)]
        rfl

/-- **The first `n` of a strictly descending list** are those with fewer than `n` above them. -/
theorem mem_take_iff_of_strict {f : α → τ} {l : List α} (h : l.Pairwise fun a b => f b < f a) {a : α}
    (ha : a ∈ l) (n : Nat) :
    a ∈ l.take n ↔ (l.filter fun b => f a < f b).length < n := by
  induction l generalizing n with
  | nil => cases ha
  | cons b l ih =>
    rw [List.pairwise_cons] at h
    cases n with
    | zero => simp
    | succ n =>
      rw [List.take_succ_cons, List.mem_cons]
      rcases List.mem_cons.1 ha with rfl | hmem
      · -- the head: nothing is above it
        have hnone : ((a :: l).filter fun b => f a < f b) = [] := by
          rw [List.filter_eq_nil_iff]
          intro c hc
          rcases List.mem_cons.1 hc with rfl | hc
          · simp
          · simpa using (h.1 c hc).le
        simp [hnone]
      · have hlt := h.1 a hmem
        have hne : a ≠ b := by
          rintro rfl
          exact lt_irrefl _ hlt
        rw [List.filter_cons_of_pos (by simpa using hlt), List.length_cons, Nat.add_lt_add_iff_right,
          ← ih h.2 hmem n]
        simp [hne]

/-- Of a descending list, one of the first `n` has fewer than `n` strictly above it. -/
lemma length_filter_lt_of_mem_take {f : α → τ} {l : List α} (h : l.Pairwise fun a b => f b ≤ f a) {n : Nat}
    {a : α} (ha : a ∈ l.take n) : (l.filter fun b => f a < f b).length < n := by
  rw [← List.take_append_drop n l, List.pairwise_append] at h
  have hdrop : ((l.drop n).filter fun b => f a < f b) = [] := by
    rw [List.filter_eq_nil_iff]
    intro b hb
    simpa using h.2.2 a ha b hb
  have htake : ((l.take n).filter fun b => f a < f b).length < (l.take n).length :=
    List.length_filter_lt_length_iff_exists.2 ⟨a, ha, by simp⟩
  rw [← List.take_append_drop n l, List.filter_append, hdrop, List.append_nil]
  exact htake.trans_le (List.length_take_le n l)

/-- Of a descending list, what is not among the first `n` is not above any of them, and there are `n`. -/
lemma le_of_notMem_take {f : α → τ} {l : List α} (h : l.Pairwise fun a b => f b ≤ f a) {n : Nat} {a : α}
    (ha : a ∈ l) (hcut : a ∉ l.take n) : (l.take n).length = n ∧ ∀ b ∈ l.take n, f a ≤ f b := by
  rw [← List.take_append_drop n l, List.pairwise_append] at h
  have hdrop : a ∈ l.drop n := by
    rw [← List.take_append_drop n l, List.mem_append] at ha
    exact ha.resolve_left hcut
  have hlt : n < l.length := List.length_lt_of_drop_ne_nil (List.ne_nil_of_mem hdrop)
  exact ⟨List.length_take_of_le hlt.le, fun b hb => h.2.2 b hb a hdrop⟩

end NetworkEnforcer.Lib
