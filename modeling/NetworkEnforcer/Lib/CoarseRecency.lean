import NetworkEnforcer.Lib.Recency

/-!
# The newest observations, stored with coarse times

Between two rounds of observations a store may keep a coarse part of every time only, given by a monotone function
(`coarsen`).  Then keys that were observed at different times have the same time in the store, and which of them the
next cut drops depends on the order in which they came.  What is left of `newest` under such ties is a relation:
`IsNewest n T l` says that `l` has at most `n` keys, each with its time in `T`, and that a key is left out only if `l`
is full and holds none that is older.  A round of observations, with the cut and the store after it, keeps the relation
and joins the coarse times of the observations to `T` (`IsNewest.round`).
-/

namespace NetworkEnforcer.Lib

variable {κ τ : Type} [DecidableEq κ] [LinearOrder τ]

/-- The entries are `n` of the newest keys, where `T` is the time of every key. -/
structure IsNewest (n : Nat) (T : κ → WithBot τ) (l : List (κ × τ)) : Prop where
  nodup : (l.map Prod.fst).Nodup
  length_le : l.length ≤ n
  time : ∀ a ∈ l, T a.1 = a.2
  left_out : ∀ k ∉ l.map Prod.fst, T k ≠ ⊥ → l.length = n ∧ ∀ a ∈ l, T k ≤ a.2

omit [DecidableEq κ] [LinearOrder τ] in
/-- Entries with distinct keys, all of which others have as well, are not more than the others. -/
lemma length_le_of_keys {l l' : List (κ × τ)} (hn : (l.map Prod.fst).Nodup)
    (hkeys : ∀ a ∈ l, ∃ b ∈ l', b.1 = a.1) : l.length ≤ l'.length := by
  have hsub : l.map Prod.fst ⊆ l'.map Prod.fst := by
    intro k hk
    obtain ⟨a, ha, rfl⟩ := List.mem_map.1 hk
    exact List.mem_map.2 (hkeys a ha)
  have hle := (hn.subperm hsub).length_le
  rwa [List.length_map, List.length_map] at hle

/-- A short list of entries with distinct keys has the newest of its own keys. -/
lemma IsNewest.of_nodup {n : Nat} {l : List (κ × τ)} (hn : (l.map Prod.fst).Nodup) (hlen : l.length ≤ n) :
    IsNewest n (latest l) l where
  nodup := hn
  length_le := hlen
  time _ ha := latest_eq_of_mem hn ha
  left_out _ hk hne := absurd (latest_eq_bot hk) hne

/-- The newest of a single entry. -/
lemma IsNewest.eq_singleton {n : Nat} {e : κ × τ} {l : List (κ × τ)} (h : IsNewest n (latest [e]) l) (hn : 0 < n) :
    l = [e] := by
  have hall : ∀ a ∈ l, a = e := fun a ha => List.mem_singleton.1 (mem_of_latest_eq (h.time a ha))
  have hle : l.length ≤ [e].length :=
    length_le_of_keys h.nodup fun a ha => ⟨e, List.mem_singleton_self e, by rw [hall a ha]⟩
  cases l with
  | nil =>
    have hne : latest [e] e.1 ≠ ⊥ := by
      rw [latest_singleton, if_pos rfl]
      exact WithBot.coe_ne_bot
    have hfull : 0 = n := (h.left_out e.1 List.not_mem_nil hne).1
    omega
  | cons a l =>
    rw [List.length_cons, List.length_singleton] at hle
    obtain rfl : l = [] := List.eq_nil_of_length_eq_zero (by omega)
    rw [hall a (List.mem_cons_self ..)]

/-- The entry as it is stored. -/
def coarsen (f : τ → τ) (a : κ × τ) : κ × τ := (a.1, f a.2)

section Coarse

variable {f : τ → τ} (hf : Monotone f)

omit [DecidableEq κ] [LinearOrder τ] in
lemma map_fst_coarsen (l : List (κ × τ)) : (l.map (coarsen f)).map Prod.fst = l.map Prod.fst := by
  rw [List.map_map]
  rfl

include hf in
lemma latest_map_coarsen (l : List (κ × τ)) (k : κ) : latest (l.map (coarsen f)) k = (latest l k).map f := by
  induction l with
  | nil => rfl
  | cons a l ih =>
    rw [List.map_cons, latest, latest, ih, hf.withBot_map.map_sup]
    congr 1
    by_cases h : a.1 = k
    · rw [if_pos h]
      exact if_pos h
    · rw [if_neg h]
      exact if_neg h

variable {n : Nat} {T : κ → WithBot τ} {l : List (κ × τ)} (h : IsNewest n T l) (hfix : ∀ a ∈ l, f a.2 = a.2)
include hf h hfix

/-- A key outside of a full list stays outside of what the cut has left, coarse times and all: otherwise all the `n`
keys of the list are strictly above an entry that the cut has kept. -/
lemma IsNewest.le_coarsen {k : κ} (hk : k ∉ l.map Prod.fst) (hne : T k ≠ ⊥) (ys : List (κ × τ)) :
    (newest n (ys.foldl observe l)).length = n ∧ ∀ b ∈ newest n (ys.foldl observe l), T k ≤ f b.2 := by
  obtain ⟨hlen, hold⟩ := h.left_out k hk hne
  have hperm := sortDesc_perm Prod.snd (ys.foldl observe l)
  -- every key of the list is still there before the cut, and not older
  have hkeys : ∀ a ∈ l, ∃ t, (a.1, t) ∈ sortDesc Prod.snd (ys.foldl observe l) ∧ a.2 ≤ t := by
    intro a ha
    have hle : (a.2 : WithBot τ) ≤ latest (ys.foldl observe l) a.1 := by
      rw [latest_foldl_observe, Pi.sup_apply, latest_eq_of_mem h.nodup ha]
      exact le_sup_left
    obtain ⟨t, ht⟩ := WithBot.ne_bot_iff_exists.1 (ne_bot_of_le_ne_bot WithBot.coe_ne_bot hle)
    rw [← ht, WithBot.coe_le_coe] at hle
    exact ⟨t, hperm.symm.subset (mem_of_latest_eq ht.symm), hle⟩
  constructor
  · have hle : l.length ≤ (sortDesc Prod.snd (ys.foldl observe l)).length := by
      refine length_le_of_keys h.nodup fun a ha => ?_
      obtain ⟨t, ht, -⟩ := hkeys a ha
      exact ⟨(a.1, t), ht, rfl⟩
    rw [hlen] at hle
    exact List.length_take_of_le hle
  · intro b hb
    by_contra hlt
    have hfew := length_filter_lt_of_mem_take (sortDesc_pairwise Prod.snd (ys.foldl observe l)) hb
    have hle : l.length ≤ ((sortDesc Prod.snd (ys.foldl observe l)).filter fun c => b.2 < c.2).length := by
      refine length_le_of_keys h.nodup fun a ha => ?_
      obtain ⟨t, ht, hat⟩ := hkeys a ha
      have hbt : f b.2 < f t := by
        have hba : (f b.2 : WithBot τ) < a.2 := (not_le.1 hlt).trans_le (hold a ha)
        rw [WithBot.coe_lt_coe, ← hfix a ha] at hba
        exact hba.trans_le (hf hat)
      exact ⟨(a.1, t), List.mem_filter.2 ⟨ht, decide_eq_true (hf.reflect_lt hbt)⟩, rfl⟩
    omega

/-- The time of a key of the list after a round, as it is stored. -/
lemma IsNewest.sup_eq {k : κ} (hk : k ∈ l.map Prod.fst) (ys : List (κ × τ)) :
    (T ⊔ latest (ys.map (coarsen f))) k = (latest (ys.foldl observe l) k).map f := by
  obtain ⟨a, ha, rfl⟩ := List.mem_map.1 hk
  rw [latest_foldl_observe, Pi.sup_apply, Pi.sup_apply, hf.withBot_map.map_sup, latest_map_coarsen hf,
    h.time a ha, latest_eq_of_mem h.nodup ha, WithBot.map_coe, hfix a ha]

omit h hfix in
/-- The same for a key outside of the list. -/
lemma sup_eq_of_notMem {k : κ} (hk : k ∉ l.map Prod.fst) (ys : List (κ × τ)) :
    (T ⊔ latest (ys.map (coarsen f))) k = T k ⊔ (latest (ys.foldl observe l) k).map f := by
  rw [latest_foldl_observe, Pi.sup_apply, Pi.sup_apply, latest_map_coarsen hf, latest_eq_bot hk, bot_sup_eq]

/-- An entry that the cut has kept is the latest of its key. -/
lemma IsNewest.time_round (ys : List (κ × τ)) {b : κ × τ} (hb : b ∈ newest n (ys.foldl observe l)) :
    (T ⊔ latest (ys.map (coarsen f))) b.1 = f b.2 := by
  have hM := nodup_foldl_observe ys h.nodup
  have hlatest : latest (ys.foldl observe l) b.1 = b.2 :=
    latest_eq_of_mem hM ((sortDesc_perm _ _).subset (List.mem_of_mem_take hb))
  by_cases hk : b.1 ∈ l.map Prod.fst
  · rw [h.sup_eq hf hfix hk, hlatest, WithBot.map_coe]
  · rw [sup_eq_of_notMem hf hk, hlatest, WithBot.map_coe, sup_eq_right]
    by_cases hT : T b.1 = ⊥
    · rw [hT]
      exact bot_le
    · exact (h.le_coarsen hf hfix hk hT ys).2 b hb

omit h hfix in
/-- A key that a cut has left out is not newer than what it has kept, in coarse times. -/
lemma map_latest_le_of_notMem {m : List (κ × τ)} {k : κ} (hk : k ∉ (newest n m).map Prod.fst)
    (hne : (latest m k).map f ≠ ⊥) :
    (newest n m).length = n ∧ ∀ b ∈ newest n m, (latest m k).map f ≤ f b.2 := by
  cases ht : latest m k with
  | bot => exact absurd (by rw [ht]; rfl) hne
  | coe t =>
    have hmem : (k, t) ∈ sortDesc Prod.snd m := (sortDesc_perm _ _).symm.subset (mem_of_latest_eq ht)
    have hcut : (k, t) ∉ newest n m := fun hkept => hk (List.mem_map.2 ⟨_, hkept, rfl⟩)
    obtain ⟨hlen, hle⟩ := le_of_notMem_take (sortDesc_pairwise Prod.snd m) hmem hcut
    exact ⟨hlen, fun b hb => WithBot.coe_le_coe.2 (hf (hle b hb))⟩

/-- A key that is not there after a round is not newer than those that are. -/
lemma IsNewest.left_out_round (ys : List (κ × τ)) {k : κ} (hk : k ∉ (newest n (ys.foldl observe l)).map Prod.fst)
    (hne : (T ⊔ latest (ys.map (coarsen f))) k ≠ ⊥) :
    (newest n (ys.foldl observe l)).length = n ∧
      ∀ b ∈ newest n (ys.foldl observe l), (T ⊔ latest (ys.map (coarsen f))) k ≤ f b.2 := by
  by_cases hmem : k ∈ l.map Prod.fst
  · rw [h.sup_eq hf hfix hmem] at hne ⊢
    exact map_latest_le_of_notMem hf hk hne
  · rw [sup_eq_of_notMem hf hmem] at hne ⊢
    by_cases hT : T k = ⊥
    · rw [hT, bot_sup_eq] at hne ⊢
      exact map_latest_le_of_notMem hf hk hne
    · -- left out before already
      obtain ⟨hlen, hold⟩ := h.le_coarsen hf hfix hmem hT ys
      refine ⟨hlen, fun b hb => sup_le (hold b hb) ?_⟩
      by_cases hnew : (latest (ys.foldl observe l) k).map f = ⊥
      · rw [hnew]
        exact bot_le
      · exact (map_latest_le_of_notMem hf hk hnew).2 b hb

/-- **A round of observations, a cut and a store keep the newest.** -/
theorem IsNewest.round (ys : List (κ × τ)) :
    IsNewest n (T ⊔ latest (ys.map (coarsen f))) ((newest n (ys.foldl observe l)).map (coarsen f)) where
  nodup := by
    rw [map_fst_coarsen]
    exact nodup_newest (nodup_foldl_observe ys h.nodup) n
  length_le := by
    rw [List.length_map]
    exact List.length_take_le n _
  time a ha := by
    obtain ⟨b, hb, rfl⟩ := List.mem_map.1 ha
    exact h.time_round hf hfix ys hb
  left_out k hk hne := by
    rw [map_fst_coarsen] at hk
    rw [List.length_map]
    obtain ⟨hlen, hle⟩ := h.left_out_round hf hfix ys hk hne
    exact ⟨hlen, List.forall_mem_map.2 hle⟩

end Coarse

end NetworkEnforcer.Lib
