import NetworkEnforcer.Lib.KeyedList
import NetworkEnforcer.Lib.StableSort
import Mathlib.Data.Finset.Max
import Mathlib.Order.WithBot

/-!
# Bounded lists of the newest observations

An entry is a key with the latest time it was observed at.  `observe` takes one observation into a list
of entries and `newest n` keeps the `n` latest.  The list is seen through `latest`, the time of every key
(`⊥` for a key it does not hold): observing is a join (`latest_foldl_observe`), and keeping the newest is
`truncate`, which forgets every key with `n` later ones above it (`latest_newest`).

Forgetting between two rounds of observations does no harm (`truncate_truncate_sup`): a forgotten key
has `n` later ones above it for good, unless it is observed again after all of them.  So the rounds can be
taken at once (`newest_observe_newest`).
-/

set_option linter.unusedSectionVars false

namespace NetworkEnforcer.Lib

variable {κ τ : Type} [DecidableEq κ] [LinearOrder τ]

/-! ## Observing -/

/-- The same key, at the time `t` if that is later. -/
def bringUpTo (t : τ) (a : κ × τ) : κ × τ := (a.1, max a.2 t)

/-- The last entry with the observed key is brought up to date; without one, the observation is a new
entry. -/
def observe (l : List (κ × τ)) (e : κ × τ) : List (κ × τ) :=
  if l.any (·.1 = e.1) then modifyLast (·.1 = e.1) (bringUpTo e.2) l else l ++ [e]

/-- The latest time of a key in a list of entries. -/
def latest : List (κ × τ) → κ → WithBot τ
  | [], _ => ⊥
  | e :: l, k => (if e.1 = k then (e.2 : WithBot τ) else ⊥) ⊔ latest l k

lemma latest_append (l l' : List (κ × τ)) (k : κ) : latest (l ++ l') k = latest l k ⊔ latest l' k := by
  induction l with
  | nil => simp [latest]
  | cons e l ih => rw [List.cons_append, latest, latest, ih, sup_assoc]

lemma latest_singleton (e : κ × τ) (k : κ) :
    latest [e] k = if e.1 = k then (e.2 : WithBot τ) else ⊥ := by
  simp [latest]

/-- A time is the time of some entry. -/
lemma mem_of_latest_eq {l : List (κ × τ)} {k : κ} {t : τ} (h : latest l k = t) : (k, t) ∈ l := by
  induction l with
  | nil => simp [latest] at h
  | cons e l ih =>
    rw [latest] at h
    by_cases hk : e.1 = k
    · rw [if_pos hk] at h
      rcases le_total (latest l k) (e.2 : WithBot τ) with hle | hle
      · rw [sup_eq_left.2 hle, WithBot.coe_inj] at h
        exact List.mem_cons.2 (Or.inl (by rw [← hk, ← h]))
      · rw [sup_eq_right.2 hle] at h
        exact List.mem_cons_of_mem _ (ih h)
    · rw [if_neg hk, bot_sup_eq] at h
      exact List.mem_cons_of_mem _ (ih h)

lemma latest_eq_bot {l : List (κ × τ)} {k : κ} (h : k ∉ l.map Prod.fst) : latest l k = ⊥ := by
  induction l with
  | nil => rfl
  | cons e l ih =>
    rw [List.map_cons, List.mem_cons, not_or] at h
    rw [latest, if_neg (Ne.symm h.1), ih h.2, bot_sup_eq]

/-- With distinct keys, the time of a key is the time of its entry. -/
lemma latest_eq_of_mem {l : List (κ × τ)} (hn : (l.map Prod.fst).Nodup) {k : κ} {t : τ}
    (h : (k, t) ∈ l) : latest l k = t := by
  induction l with
  | nil => cases h
  | cons e l ih =>
    rw [List.map_cons, List.nodup_cons] at hn
    rw [latest]
    rcases List.mem_cons.1 h with rfl | h
    · rw [if_pos rfl, latest_eq_bot hn.1, sup_bot_eq]
    · have hne : e.1 ≠ k := by
        rintro rfl
        exact hn.1 (List.mem_map.2 ⟨_, h, rfl⟩)
      rw [if_neg hne, bot_sup_eq, ih hn.2 h]

lemma latest_modifyLast {l : List (κ × τ)} {e : κ × τ} (h : l.any (·.1 = e.1) = true) (k : κ) :
    latest (modifyLast (·.1 = e.1) (bringUpTo e.2) l) k = latest l k ⊔ latest [e] k := by
  rw [latest_singleton]
  induction l with
  | nil => cases h
  | cons a l ih =>
    rw [modifyLast]
    by_cases hl : l.any (·.1 = e.1) = true
    · rw [if_pos hl, latest, latest, ih hl, sup_assoc]
    · have ha : a.1 = e.1 := by
        rw [List.any_cons, Bool.or_eq_true] at h
        simpa using h.resolve_right hl
      rw [if_neg hl, if_pos (by simpa using ha)]
      simp only [latest, bringUpTo, ha]
      split
      · rw [WithBot.coe_max, sup_right_comm]
      · simp

/-- **An observation raises the time of its key.** -/
theorem latest_observe (l : List (κ × τ)) (e : κ × τ) (k : κ) :
    latest (observe l e) k = latest l k ⊔ latest [e] k := by
  unfold observe
  split
  · rename_i h
    exact latest_modifyLast h k
  · exact latest_append l [e] k

theorem latest_foldl_observe (es : List (κ × τ)) (l : List (κ × τ)) :
    latest (es.foldl observe l) = latest l ⊔ latest es := by
  induction es generalizing l with
  | nil =>
    funext k
    simp [latest]
  | cons e es ih =>
    funext k
    rw [List.foldl_cons, ih, Pi.sup_apply, latest_observe, Pi.sup_apply, sup_assoc, ← latest_append]
    rfl

lemma map_fst_observe (l : List (κ × τ)) (e : κ × τ) :
    (observe l e).map Prod.fst = if e.1 ∈ l.map Prod.fst then l.map Prod.fst else l.map Prod.fst ++ [e.1] := by
  have hany : l.any (·.1 = e.1) = true ↔ e.1 ∈ l.map Prod.fst := by
    simp [List.any_eq_true]
  unfold observe
  by_cases h : l.any (·.1 = e.1) = true
  · rw [if_pos h, if_pos (hany.1 h), map_modifyLast (f := bringUpTo e.2) fun _ => rfl]
  · rw [if_neg h, if_neg fun hm => h (hany.2 hm), List.map_append]
    rfl

lemma nodup_foldl_observe (es : List (κ × τ)) {l : List (κ × τ)} (h : (l.map Prod.fst).Nodup) :
    ((es.foldl observe l).map Prod.fst).Nodup := by
  induction es generalizing l with
  | nil => exact h
  | cons e es ih =>
    apply ih
    rw [map_fst_observe]
    split
    · exact h
    · rename_i hk
      rw [List.nodup_append]
      refine ⟨h, by simp, ?_⟩
      intro a ha b hb hab
      obtain rfl : b = e.1 := by simpa using hb
      exact hk (hab ▸ ha)

/-! ## A filter on keys -/

lemma filter_observe (q : κ → Bool) (l : List (κ × τ)) (e : κ × τ) :
    (observe l e).filter (fun a => q a.1) =
      if q e.1 then observe (l.filter fun a => q a.1) e else l.filter fun a => q a.1 := by
  unfold observe
  by_cases hq : q e.1 = true
  · rw [if_pos hq]
    have hkeep : ∀ a : κ × τ, decide (a.1 = e.1) = true → q a.1 = true := by
      intro a ha
      rw [of_decide_eq_true ha]
      exact hq
    rw [any_filter_of_imp hkeep]
    split
    · exact filter_modifyLast_of_imp (f := bringUpTo e.2) (fun _ => rfl) hkeep l
    · simp [List.filter_append, hq]
  · rw [if_neg hq]
    have hdrop : ∀ a : κ × τ, decide (a.1 = e.1) = true → q a.1 = false := by
      intro a ha
      rw [of_decide_eq_true ha]
      simpa using hq
    split
    · exact filter_modifyLast_of_imp_not (f := bringUpTo e.2) (fun _ => rfl) hdrop l
    · simp [List.filter_append, hq]

/-- **Observations of other keys do not matter**: a filter on keys passes through a round. -/
theorem filter_foldl_observe (q : κ → Bool) (es l : List (κ × τ)) :
    (es.foldl observe l).filter (fun a => q a.1) =
      (es.filter fun a => q a.1).foldl observe (l.filter fun a => q a.1) := by
  induction es generalizing l with
  | nil => rfl
  | cons e es ih =>
    rw [List.foldl_cons, ih, filter_observe, List.filter_cons]
    split <;> rfl

/-! ## Ranks -/

section Rank

variable {σ : Type} [LinearOrder σ] (U : Finset κ)

/-- How many keys are strictly above a key. -/
def rank (T : κ → σ) (k : κ) : Nat := (U.filter fun j => T k < T j).card

/-- Forget every key that has `n` others above it. -/
def truncate [OrderBot σ] (n : Nat) (T : κ → σ) (k : κ) : σ := if rank U T k < n then T k else ⊥

lemma rank_mono {T T' : κ → σ} {k k' : κ} (h : ∀ j ∈ U, T k < T j → T' k' < T' j) :
    rank U T k ≤ rank U T' k' := by
  apply Finset.card_le_card
  intro j hj
  rw [Finset.mem_filter] at hj ⊢
  exact ⟨hj.1, h j hj.1 hj.2⟩

/-- Of the keys above a key of rank `n` or more, at least `n` have a rank below `n`. -/
lemma le_card_filter_rank {T : κ → σ} {n : Nat} {k : κ} (h : n ≤ rank U T k) :
    n ≤ ((U.filter fun j => T k < T j).filter fun j => rank U T j < n).card := by
  by_cases hall : ∀ j ∈ U.filter (fun j => T k < T j), rank U T j < n
  · rw [Finset.filter_true_of_mem hall]
    exact h
  · -- the greatest key above `k` that is itself forgotten has `n` kept ones above it
    push Not at hall
    obtain ⟨i, hi, hni⟩ := hall
    obtain ⟨j, hj, hmax⟩ := Finset.exists_max_image
      ((U.filter fun j => T k < T j).filter fun j => n ≤ rank U T j) T
      ⟨i, Finset.mem_filter.2 ⟨hi, hni⟩⟩
    rw [Finset.mem_filter, Finset.mem_filter] at hj
    refine hj.2.trans (Finset.card_le_card ?_)
    intro a ha
    rw [Finset.mem_filter] at ha
    have hka : T k < T a := hj.1.2.trans ha.2
    refine Finset.mem_filter.2 ⟨Finset.mem_filter.2 ⟨ha.1, hka⟩, ?_⟩
    by_contra hna
    have := hmax a (Finset.mem_filter.2 ⟨Finset.mem_filter.2 ⟨ha.1, hka⟩, Nat.le_of_not_lt hna⟩)
    exact absurd ha.2 (not_lt.2 this)

variable [OrderBot σ] {U}

lemma truncate_le (n : Nat) (T : κ → σ) (k : κ) : truncate U n T k ≤ T k := by
  unfold truncate
  split
  · exact le_rfl
  · exact bot_le

/-- What a forgotten key has above it: at least `n` keys that are kept. -/
lemma le_rank_of_forgotten {n : Nat} {T : κ → σ} {k : κ} (h : n ≤ rank U T k) (Y : κ → σ) :
    n ≤ (U.filter fun j => T k < (truncate U n T ⊔ Y) j).card := by
  refine (le_card_filter_rank U h).trans (Finset.card_le_card ?_)
  intro j hj
  rw [Finset.mem_filter, Finset.mem_filter] at hj
  refine Finset.mem_filter.2 ⟨hj.1.1, ?_⟩
  have hkept : truncate U n T j = T j := if_pos hj.2
  rw [Pi.sup_apply, hkept]
  exact lt_of_lt_of_le hj.1.2 le_sup_left

/-- **Forgetting before a join changes nothing that is kept after it.** -/
theorem truncate_truncate_sup (n : Nat) (T Y : κ → σ) :
    truncate U n (truncate U n T ⊔ Y) = truncate U n (T ⊔ Y) := by
  have hle : ∀ j, (truncate U n T ⊔ Y) j ≤ (T ⊔ Y) j := fun j => sup_le_sup_right (truncate_le n T j) _
  -- where the two joins differ, the key was forgotten and is out of both results
  have hout : ∀ k, (truncate U n T ⊔ Y) k ≠ (T ⊔ Y) k → (T ⊔ Y) k = T k ∧
      n ≤ (U.filter fun j => T k < (truncate U n T ⊔ Y) j).card := by
    intro k hne
    have hforgot : ¬rank U T k < n := by
      intro hkept
      apply hne
      simp only [Pi.sup_apply, truncate, if_pos hkept]
    have hY : Y k ≤ T k := by
      by_contra hlt
      apply hne
      have hTY : T k ≤ Y k := (not_le.1 hlt).le
      rw [Pi.sup_apply, Pi.sup_apply, sup_eq_right.2 ((truncate_le n T k).trans hTY), sup_eq_right.2 hTY]
    exact ⟨sup_eq_left.2 hY, le_rank_of_forgotten (Nat.le_of_not_lt hforgot) Y⟩
  funext k
  by_cases heq : (truncate U n T ⊔ Y) k = (T ⊔ Y) k
  · -- the same time: a key is above `k` in both, or a forgotten one is and brings `n` with it
    have hiff : rank U (truncate U n T ⊔ Y) k < n ↔ rank U (T ⊔ Y) k < n := by
      constructor
      · intro hlt
        by_contra hge
        have hall : ∀ j ∈ U, (T ⊔ Y) k < (T ⊔ Y) j → (truncate U n T ⊔ Y) j = (T ⊔ Y) j := by
          intro j _ hj
          by_contra hne
          obtain ⟨hTj, hn⟩ := hout j hne
          refine absurd hlt (not_lt.2 (hn.trans (Finset.card_le_card ?_)))
          intro i hi
          rw [Finset.mem_filter] at hi ⊢
          refine ⟨hi.1, ?_⟩
          rw [heq]
          exact hj.trans (hTj ▸ hi.2)
        have hmono : rank U (T ⊔ Y) k ≤ rank U (truncate U n T ⊔ Y) k := by
          apply rank_mono
          intro j hjU hj
          rw [heq, hall j hjU hj]
          exact hj
        omega
      · intro hlt
        refine lt_of_le_of_lt (rank_mono U ?_) hlt
        intro j _ hj
        rw [heq] at hj
        exact hj.trans_le (hle j)
    by_cases h : rank U (T ⊔ Y) k < n
    · rw [truncate, if_pos (hiff.2 h), truncate, if_pos h, heq]
    · rw [truncate, if_neg fun h' => h (hiff.1 h'), truncate, if_neg h]
  · obtain ⟨hTk, hn⟩ := hout k heq
    have h1 : ¬rank U (truncate U n T ⊔ Y) k < n := by
      refine not_lt.2 (hn.trans (Finset.card_le_card ?_))
      intro j hj
      rw [Finset.mem_filter] at hj ⊢
      exact ⟨hj.1, lt_of_le_of_lt ((hle k).trans_eq hTk) hj.2⟩
    have h2 : ¬rank U (T ⊔ Y) k < n := by
      refine not_lt.2 (hn.trans (Finset.card_le_card ?_))
      intro j hj
      rw [Finset.mem_filter] at hj ⊢
      exact ⟨hj.1, hTk ▸ lt_of_lt_of_le hj.2 (hle j)⟩
    rw [truncate, if_neg h1, truncate, if_neg h2]

end Rank

/-! ## Keeping the newest -/

/-- The `n` latest entries, latest first. -/
def newest (n : Nat) (l : List (κ × τ)) : List (κ × τ) := (sortDesc Prod.snd l).take n

/-- Entries of different keys have different times. -/
def TimesDiffer (l : List (κ × τ)) : Prop := ∀ a ∈ l, ∀ b ∈ l, a.1 ≠ b.1 → a.2 ≠ b.2

lemma TimesDiffer.mono {l l' : List (κ × τ)} (h : TimesDiffer l) (hs : l' ⊆ l) : TimesDiffer l' :=
  fun a ha b hb => h a (hs ha) b (hs hb)

section Newest

variable {l : List (κ × τ)} (hn : (l.map Prod.fst).Nodup) (hd : TimesDiffer l)
include hn hd

lemma sortDesc_strict : (sortDesc Prod.snd l).Pairwise fun a b => b.2 < a.2 := by
  have hkeys : ((sortDesc Prod.snd l).map Prod.fst).Nodup := ((sortDesc_perm _ l).map _).nodup_iff.2 hn
  have hne : (sortDesc Prod.snd l).Pairwise fun a b => a.1 ≠ b.1 := List.pairwise_map.1 hkeys
  refine ((sortDesc_pairwise Prod.snd l).and hne).imp_of_mem ?_
  intro a b ha hb hab
  have ha := (sortDesc_perm _ l).subset ha
  have hb := (sortDesc_perm _ l).subset hb
  exact lt_of_le_of_ne hab.1 (hd b hb a ha (Ne.symm hab.2))

lemma newest_strict (n : Nat) : (newest n l).Pairwise fun a b => b.2 < a.2 :=
  (sortDesc_strict hn hd).sublist (List.take_sublist _ _)

omit hd in
lemma nodup_newest (n : Nat) : ((newest n l).map Prod.fst).Nodup :=
  (((sortDesc_perm _ l).map _).nodup_iff.2 hn).sublist ((List.take_sublist _ _).map _)

omit hd in
/-- The entries above a time are the keys above it. -/
lemma length_filter_eq_rank {U : Finset κ} (hU : ∀ a ∈ l, a.1 ∈ U) {k : κ} {t : τ}
    (hk : latest l k = t) :
    ((sortDesc Prod.snd l).filter fun b => t < b.2).length = rank U (latest l) k := by
  have hperm := (sortDesc_perm Prod.snd l).filter fun b => decide (t < b.2)
  rw [hperm.length_eq]
  have hnodup : ((l.filter fun b => t < b.2).map Prod.fst).Nodup :=
    hn.sublist (List.filter_sublist.map _)
  rw [rank, ← List.length_map Prod.fst, ← List.toFinset_card_of_nodup hnodup]
  congr 1
  ext j
  rw [List.mem_toFinset, List.mem_map, Finset.mem_filter, hk]
  constructor
  · rintro ⟨⟨j, u⟩, hmem, rfl⟩
    obtain ⟨hjl, hlt⟩ := List.mem_filter.1 hmem
    rw [latest_eq_of_mem hn hjl]
    exact ⟨hU _ hjl, WithBot.coe_lt_coe.2 (of_decide_eq_true hlt)⟩
  · rintro ⟨-, hlt⟩
    obtain ⟨u, hu⟩ := WithBot.ne_bot_iff_exists.1 (ne_bot_of_gt hlt)
    rw [← hu, WithBot.coe_lt_coe] at hlt
    exact ⟨(j, u), List.mem_filter.2 ⟨mem_of_latest_eq hu.symm, by simpa using hlt⟩, rfl⟩

/-- **Keeping the newest forgets the keys with `n` others above them.** -/
theorem latest_newest {U : Finset κ} (hU : ∀ a ∈ l, a.1 ∈ U) (n : Nat) :
    latest (newest n l) = truncate U n (latest l) := by
  funext k
  cases hk : latest l k with
  | bot =>
    have hnot : k ∉ (newest n l).map Prod.fst := by
      intro hmem
      obtain ⟨⟨k', t⟩, ha, rfl⟩ := List.mem_map.1 hmem
      have := latest_eq_of_mem hn ((sortDesc_perm _ l).subset (List.mem_of_mem_take ha))
      simp [this] at hk
    rw [latest_eq_bot hnot, truncate, hk]
    split <;> rfl
  | coe t =>
    have hmem : (k, t) ∈ sortDesc Prod.snd l := (sortDesc_perm _ l).symm.subset (mem_of_latest_eq hk)
    have hiff := mem_take_iff_of_strict (sortDesc_strict hn hd) hmem n
    simp only [length_filter_eq_rank hn hU hk] at hiff
    by_cases hr : rank U (latest l) k < n
    · rw [truncate, if_pos hr, hk]
      exact latest_eq_of_mem (nodup_newest hn n) (hiff.2 hr)
    · rw [truncate, if_neg hr]
      refine latest_eq_bot ?_
      intro hkey
      obtain ⟨⟨k', u⟩, ha, rfl⟩ := List.mem_map.1 hkey
      have hu := latest_eq_of_mem hn ((sortDesc_perm _ l).subset (List.mem_of_mem_take ha))
      obtain rfl : u = t := by
        rw [hk] at hu
        exact (WithBot.coe_inj.1 hu).symm
      exact hr (hiff.1 ha)

end Newest

/-- Strictly descending lists with the same times are the same list. -/
lemma eq_of_latest_eq {l l' : List (κ × τ)} (hn : (l.map Prod.fst).Nodup)
    (hn' : (l'.map Prod.fst).Nodup) (hs : l.Pairwise fun a b => b.2 < a.2)
    (hs' : l'.Pairwise fun a b => b.2 < a.2) (h : latest l = latest l') : l = l' := by
  have : Std.Antisymm fun a b : κ × τ => b.2 < a.2 := ⟨fun _ _ h1 h2 => absurd h1 (lt_asymm h2)⟩
  have : Std.Irrefl fun a b : κ × τ => b.2 < a.2 := ⟨fun _ => lt_irrefl _⟩
  refine hs.eq_of_mem_iff hs' ?_
  rintro ⟨k, t⟩
  constructor
  · intro ha
    exact mem_of_latest_eq (h ▸ latest_eq_of_mem hn ha)
  · intro ha
    exact mem_of_latest_eq (h ▸ latest_eq_of_mem hn' ha)

/-- Every entry after a round is the entry or an observation of before. -/
lemma foldl_observe_subset {es l : List (κ × τ)} (h : (l.map Prod.fst).Nodup) :
    es.foldl observe l ⊆ l ++ es := by
  rintro ⟨k, t⟩ ha
  have hk := latest_eq_of_mem (nodup_foldl_observe es h) ha
  rw [latest_foldl_observe, Pi.sup_apply, ← latest_append] at hk
  exact mem_of_latest_eq hk

/-- **Two rounds with a cut between them are one round.** -/
theorem newest_observe_newest {l : List (κ × τ)} (hn : (l.map Prod.fst).Nodup) (n : Nat)
    (xs ys : List (κ × τ)) (hd : TimesDiffer (l ++ xs ++ ys)) :
    newest n (ys.foldl observe (newest n (xs.foldl observe l))) =
      newest n ((xs ++ ys).foldl observe l) := by
  have hsub₁ : xs.foldl observe l ⊆ l ++ xs := foldl_observe_subset hn
  have hcut : newest n (xs.foldl observe l) ⊆ l ++ xs := fun a ha =>
    hsub₁ ((sortDesc_perm _ _).subset (List.mem_of_mem_take ha))
  have hn₁ := nodup_foldl_observe xs hn
  have hnc := nodup_newest hn₁ n
  have hn₂ := nodup_foldl_observe ys hnc
  have hn₃ := nodup_foldl_observe (xs ++ ys) hn
  have hsub₂ : ys.foldl observe (newest n (xs.foldl observe l)) ⊆ l ++ xs ++ ys := by
    refine fun a ha => List.append_subset.2 ⟨?_, ?_⟩ (foldl_observe_subset hnc ha)
    · exact fun b hb => List.mem_append_left _ (hcut hb)
    · exact List.subset_append_right _ _
  have hsub₃ : (xs ++ ys).foldl observe l ⊆ l ++ xs ++ ys := by
    rw [List.append_assoc]
    exact foldl_observe_subset hn
  -- the keys that are ranked: all that occur
  let U : Finset κ := ((l ++ xs ++ ys).map Prod.fst).toFinset
  have hU : ∀ a ∈ l ++ xs ++ ys, a.1 ∈ U := fun a ha =>
    List.mem_toFinset.2 (List.mem_map_of_mem ha)
  have hd₁ : TimesDiffer (xs.foldl observe l) := hd.mono fun a ha => List.mem_append_left _ (hsub₁ ha)
  refine eq_of_latest_eq (nodup_newest hn₂ n) (nodup_newest hn₃ n) (newest_strict hn₂ (hd.mono hsub₂) n)
    (newest_strict hn₃ (hd.mono hsub₃) n) ?_
  rw [latest_newest hn₂ (hd.mono hsub₂) (fun a ha => hU a (hsub₂ ha)),
    latest_newest hn₃ (hd.mono hsub₃) (fun a ha => hU a (hsub₃ ha)), latest_foldl_observe,
    latest_newest hn₁ hd₁ (fun a ha => hU a (List.mem_append_left _ (hsub₁ ha))),
    truncate_truncate_sup, latest_foldl_observe, latest_foldl_observe]
  congr 1
  funext k
  simp only [Pi.sup_apply, latest_append, sup_assoc]

end NetworkEnforcer.Lib
