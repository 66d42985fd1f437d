import Mathlib.Data.List.Forall2
import Mathlib.Data.List.Nodup
import Mathlib.Data.List.Perm.Basic

/-!
# Values filed in groups

A list of groups, each a key with the values filed under it.  Keys are compared by a Boolean
equivalence, which need not be equality.  `insert` files a value under the first group with an
equivalent key and opens a new group when there is none.

* `holds_ofPairs` — filing a list of pairs one after another holds exactly these pairs;
* `grouped_ofPairs` — one group per key, no value twice in a group, no empty group;
* `sameGroups_of_holds_iff` — under `Grouped`, what is held determines the groups up to order.
-/

namespace NetworkEnforcer.Lib

/-- Values filed in groups, each group under one key. -/
abbrev Groups (K V : Type) : Type := List (K × List V)

namespace Groups

variable {K V : Type} (same : K → K → Bool)

/-- Some group of an equivalent key has the value. -/
def Holds (gs : Groups K V) (k : K) (v : V) : Prop := ∃ g ∈ gs, same g.1 k = true ∧ v ∈ g.2

/-- The shape that filing keeps. -/
structure Grouped (gs : Groups K V) : Prop where
  distinct : gs.Pairwise fun g g' => same g.1 g'.1 = false
  nodup : ∀ g ∈ gs, g.2.Nodup
  nonempty : ∀ g ∈ gs, g.2 ≠ []

/-- The same groups, up to the order of the groups and of the values in each of them. -/
def SameGroups (gs gs' : Groups K V) : Prop :=
  ∃ gs'', gs''.Perm gs' ∧
    List.Forall₂ (fun g g' => same g.1 g'.1 = true ∧ g.2.Perm g'.2) gs gs''

variable [DecidableEq V]

/-- File `v` under the first group whose key is equivalent to `k`, unless it is there already. -/
def insert (k : K) (v : V) : Groups K V → Groups K V
  | [] => [(k, [v])]
  | g :: gs =>
    if same g.1 k then (g.1, if v ∈ g.2 then g.2 else g.2 ++ [v]) :: gs else g :: insert k v gs

/-- File the pairs one after another, from nothing. -/
def ofPairs (es : List (K × V)) : Groups K V := es.foldl (fun gs e => insert same e.1 e.2 gs) []

section

variable {same}

omit [DecidableEq V]

@[simp] lemma not_holds_nil {k : K} {v : V} : ¬ Holds same [] k v := by simp [Holds]

@[simp] lemma holds_cons {g : K × List V} {gs : Groups K V} {k : K} {v : V} :
    Holds same (g :: gs) k v ↔ (same g.1 k = true ∧ v ∈ g.2) ∨ Holds same gs k v := by
  simp [Holds]

lemma Holds.of_perm {gs gs' : Groups K V} (hp : gs.Perm gs') {k : K} {v : V} :
    Holds same gs k v → Holds same gs' k v := by
  rintro ⟨g, hg, hk, hv⟩
  exact ⟨g, hp.mem_iff.1 hg, hk, hv⟩

lemma holds_perm {gs gs' : Groups K V} (hp : gs.Perm gs') {k : K} {v : V} :
    Holds same gs k v ↔ Holds same gs' k v :=
  ⟨Holds.of_perm hp, Holds.of_perm hp.symm⟩

lemma grouped_nil : Grouped same ([] : Groups K V) :=
  ⟨List.Pairwise.nil, by simp, by simp⟩

lemma grouped_cons {g : K × List V} {gs : Groups K V} :
    Grouped same (g :: gs) ↔
      (∀ g' ∈ gs, same g.1 g'.1 = false) ∧ g.2.Nodup ∧ g.2 ≠ [] ∧ Grouped same gs := by
  constructor
  · intro h
    obtain ⟨hd, hp⟩ := List.pairwise_cons.1 h.distinct
    exact ⟨hd, h.nodup g (by simp), h.nonempty g (by simp), hp,
      fun g' hg' => h.nodup g' (by simp [hg']), fun g' hg' => h.nonempty g' (by simp [hg'])⟩
  · rintro ⟨hd, hn, he, h⟩
    refine ⟨List.pairwise_cons.2 ⟨hd, h.distinct⟩, ?_, ?_⟩
    · exact List.forall_mem_cons.2 ⟨hn, h.nodup⟩
    · exact List.forall_mem_cons.2 ⟨he, h.nonempty⟩

end

variable {same} (hsame : Equivalence fun a b => same a b = true)

include hsame

omit [DecidableEq V] in
lemma Grouped.perm {gs gs' : Groups K V} (h : Grouped same gs) (hp : gs.Perm gs') :
    Grouped same gs' := by
  refine ⟨?_, ?_, ?_⟩
  · refine (hp.pairwise_iff ?_).1 h.distinct
    intro a b hab
    rw [Bool.eq_false_iff] at hab ⊢
    exact fun hba => hab (hsame.symm hba)
  · exact fun g hg => h.nodup g (hp.mem_iff.2 hg)
  · exact fun g hg => h.nonempty g (hp.mem_iff.2 hg)

/-! ## Filing one value -/

/-- **A filed value is held, and nothing else changes.** -/
theorem holds_insert {gs : Groups K V} {k k' : K} {v v' : V} :
    Holds same (insert same k v gs) k' v' ↔
      Holds same gs k' v' ∨ (same k k' = true ∧ v = v') := by
  induction gs with
  | nil =>
    simp only [insert, holds_cons, List.mem_singleton, not_holds_nil, or_false, false_or]
    exact and_congr_right fun _ => eq_comm
  | cons g gs ih =>
    rw [insert]
    by_cases hk : same g.1 k = true
    · rw [if_pos hk]
      -- the group's own key answers for `k`
      have hkk : same g.1 k' = true ↔ same k k' = true :=
        ⟨fun h => hsame.trans (hsame.symm hk) h, fun h => hsame.trans hk h⟩
      have hmem : (v' ∈ if v ∈ g.2 then g.2 else g.2 ++ [v]) ↔ v' ∈ g.2 ∨ v = v' := by
        split
        next hv =>
          constructor
          · exact Or.inl
          · rintro (h | rfl)
            · exact h
            · exact hv
        next => simp [eq_comm]
      simp only [holds_cons, hmem, hkk]
      rw [and_or_left, or_right_comm]
    · rw [if_neg hk]
      simp only [holds_cons, ih]
      rw [or_assoc]

omit hsame in
/-- The keys after filing are the old ones, and `k` if it had no group. -/
lemma key_mem_insert {gs : Groups K V} {k : K} {v : V} {g : K × List V}
    (hg : g ∈ insert same k v gs) : g.1 = k ∨ ∃ g' ∈ gs, g'.1 = g.1 := by
  induction gs with
  | nil =>
    obtain rfl : g = (k, [v]) := by simpa [insert] using hg
    exact Or.inl rfl
  | cons g₀ gs ih =>
    rw [insert] at hg
    by_cases hk : same g₀.1 k = true
    · rw [if_pos hk, List.mem_cons] at hg
      rcases hg with rfl | hg
      · exact Or.inr ⟨g₀, by simp, rfl⟩
      · exact Or.inr ⟨g, by simp [hg], rfl⟩
    · rw [if_neg hk, List.mem_cons] at hg
      rcases hg with rfl | hg
      · exact Or.inr ⟨g, by simp, rfl⟩
      · rcases ih hg with h | ⟨g', hg', h⟩
        · exact Or.inl h
        · exact Or.inr ⟨g', by simp [hg'], h⟩

omit hsame in
/-- **Filing keeps the shape.** -/
theorem Grouped.insert {gs : Groups K V} (h : Grouped same gs) (k : K) (v : V) :
    Grouped same (insert same k v gs) := by
  induction gs with
  | nil => exact grouped_cons.2 ⟨by simp, by simp, by simp, grouped_nil⟩
  | cons g gs ih =>
    obtain ⟨hd, hn, he, hgs⟩ := grouped_cons.1 h
    rw [Groups.insert]
    by_cases hk : same g.1 k = true
    · rw [if_pos hk]
      refine grouped_cons.2 ⟨hd, ?_, ?_, hgs⟩
      · show (if v ∈ g.2 then g.2 else g.2 ++ [v]).Nodup
        split
        next => exact hn
        next hv => exact List.Nodup.append hn (by simp) (by simpa using hv)
      · show (if v ∈ g.2 then g.2 else g.2 ++ [v]) ≠ []
        split
        · exact he
        · simp
    · rw [if_neg hk]
      refine grouped_cons.2 ⟨?_, hn, he, ih hgs⟩
      intro g' hg'
      rcases key_mem_insert hg' with h' | ⟨g₀, hg₀, h'⟩
      · rw [h']
        exact Bool.eq_false_iff.2 hk
      · rw [← h']
        exact hd g₀ hg₀

/-! ## Filing a list of pairs -/

lemma holds_foldl_insert (es : List (K × V)) {gs : Groups K V} {k : K} {v : V} :
    Holds same (es.foldl (fun gs e => Groups.insert same e.1 e.2 gs) gs) k v ↔
      Holds same gs k v ∨ ∃ e ∈ es, same e.1 k = true ∧ e.2 = v := by
  induction es generalizing gs with
  | nil => simp
  | cons e es ih =>
    rw [List.foldl_cons, ih, holds_insert hsame, or_assoc]
    simp

/-- **Filing pairs from nothing holds exactly these pairs.** -/
theorem holds_ofPairs {es : List (K × V)} {k : K} {v : V} :
    Holds same (ofPairs same es) k v ↔ ∃ e ∈ es, same e.1 k = true ∧ e.2 = v := by
  rw [ofPairs, holds_foldl_insert hsame]
  simp

omit hsame in
theorem grouped_ofPairs (es : List (K × V)) : Grouped same (ofPairs same es) := by
  have key : ∀ (es : List (K × V)) (gs : Groups K V), Grouped same gs →
      Grouped same (es.foldl (fun gs e => Groups.insert same e.1 e.2 gs) gs) := by
    intro es
    induction es with
    | nil => exact fun _ h => h
    | cons e es ih => exact fun gs h => ih _ (h.insert e.1 e.2)
  exact key es [] grouped_nil

/-! ## What is held determines the groups -/

omit [DecidableEq V] in
/-- Behind the group of a key there is no other one. -/
lemma Grouped.not_holds_tail {g : K × List V} {gs : Groups K V} (h : Grouped same (g :: gs)) {k : K}
    {v : V} (hk : same g.1 k = true) : ¬ Holds same gs k v := by
  rintro ⟨g', hg', hk', _⟩
  have hgg : same g.1 g'.1 = true := hsame.trans hk (hsame.symm hk')
  rw [(grouped_cons.1 h).1 g' hg'] at hgg
  cases hgg

omit [DecidableEq V] in
/-- The first group answers for its key. -/
lemma Grouped.holds_cons_of_same {g : K × List V} {gs : Groups K V} (h : Grouped same (g :: gs))
    {k : K} {v : V} (hk : same g.1 k = true) : Holds same (g :: gs) k v ↔ v ∈ g.2 := by
  rw [holds_cons, or_iff_left (h.not_holds_tail hsame hk), and_iff_right hk]

omit [DecidableEq V] in
/-- Taking the groups of one key out of two lists that hold the same leaves lists that do. -/
lemma holds_tail_iff {g g' : K × List V} {gs gs' : Groups K V} (h : Grouped same (g :: gs))
    (h' : Grouped same (g' :: gs')) (hgg : same g.1 g'.1 = true)
    (hh : ∀ k v, Holds same (g :: gs) k v ↔ Holds same (g' :: gs') k v) (k : K) (v : V) :
    Holds same gs k v ↔ Holds same gs' k v := by
  by_cases hk : same g.1 k = true
  · have hk' : same g'.1 k = true := hsame.trans (hsame.symm hgg) hk
    exact iff_of_false (h.not_holds_tail hsame hk) (h'.not_holds_tail hsame hk')
  · have hk' : ¬ same g'.1 k = true := fun hk' => hk (hsame.trans hgg hk')
    have hkv := hh k v
    rw [holds_cons, holds_cons] at hkv
    simpa [hk, hk'] using hkv

omit [DecidableEq V] in
/-- **What is held determines the groups, up to order.** -/
theorem sameGroups_of_holds_iff {gs gs' : Groups K V} (h : Grouped same gs) (h' : Grouped same gs')
    (hh : ∀ k v, Holds same gs k v ↔ Holds same gs' k v) : SameGroups same gs gs' := by
  induction gs generalizing gs' with
  | nil =>
    cases gs' with
    | nil => exact ⟨[], .refl _, .nil⟩
    | cons g' gs' =>
      obtain ⟨v, hv⟩ := List.exists_mem_of_ne_nil _ (h'.nonempty g' (by simp))
      exact absurd ((hh g'.1 v).2 (holds_cons.2 (Or.inl ⟨hsame.refl _, hv⟩))) not_holds_nil
  | cons g gs ih =>
    -- the group of `g`'s key in the other list, brought to its front
    obtain ⟨v, hv⟩ := List.exists_mem_of_ne_nil _ (h.nonempty g (by simp))
    obtain ⟨g', hg', hgg, _⟩ := (hh g.1 v).1 (holds_cons.2 (Or.inl ⟨hsame.refl _, hv⟩))
    obtain ⟨l, r, rfl⟩ := List.append_of_mem hg'
    have hp : (l ++ g' :: r).Perm (g' :: (l ++ r)) := List.perm_middle
    have hf : Grouped same (g' :: (l ++ r)) := h'.perm hsame hp
    have hhf : ∀ k v, Holds same (g :: gs) k v ↔ Holds same (g' :: (l ++ r)) k v :=
      fun k v => (hh k v).trans (holds_perm hp)
    have hvals : g.2.Perm g'.2 := by
      rw [List.perm_ext_iff_of_nodup (h.nodup g (by simp)) (h'.nodup g' hg')]
      intro w
      rw [← h.holds_cons_of_same hsame (hsame.refl g.1), hhf, hf.holds_cons_of_same hsame hgg]
    obtain ⟨gs'', hp'', hall⟩ := ih (grouped_cons.1 h).2.2.2 (grouped_cons.1 hf).2.2.2
      (holds_tail_iff hsame h hf (hsame.symm hgg) hhf)
    exact ⟨g' :: gs'', (hp''.cons g').trans hp.symm, .cons ⟨hsame.symm hgg, hvals⟩ hall⟩

/-- **The order in which pairs are filed, and filing one again, do not matter.** -/
theorem sameGroups_ofPairs {es es' : List (K × V)} (h : ∀ e, e ∈ es ↔ e ∈ es') :
    SameGroups same (ofPairs same es) (ofPairs same es') := by
  refine sameGroups_of_holds_iff hsame (grouped_ofPairs es) (grouped_ofPairs es') ?_
  intro k v
  simp only [holds_ofPairs hsame, h]

end Groups

end NetworkEnforcer.Lib
