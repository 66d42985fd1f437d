import NetworkEnforcer.Lib.Recency
import NetworkEnforcer.Status.Recompute

/-!
# The active violations as a bounded list of observations

Of a record only its key and its time decide where it ends up.  Seen through them (`entry`) the merge
is a round of `observe` followed by `newest` (`entries_mergeScrapedViolations`), for every status,
repeated keys included.  Two consequences: how the observations are split into cycles does not matter,
and what `RecomputeStatus` drops as permitted has already taken its place in the list of the newest.
-/

namespace NetworkEnforcer.Status

open NetworkEnforcer.Lib NetworkEnforcer.Api

/-- The key and the time of a record. -/
def entry (r : ViolationRecord) : ViolationRecordKey × Time := (r.key, r.timestamp)

lemma entry_refresh (r v : ViolationRecord) : entry (r.refresh v) = bringUpTo v.timestamp (entry r) := by
  unfold entry bringUpTo ViolationRecord.refresh
  split
  · rename_i h
    rw [max_eq_right h.le]
    rfl
  · rename_i h
    rw [max_eq_left (not_lt.1 h)]

/-! ## The loop -/

/-- The index holds the last position of every key. -/
def LastIndexed (idx : Index) (violations : List ViolationRecord) : Prop :=
  ∀ k, idx.lookup k = lastIdx (fun r => r.key = k) violations

lemma lastIndexed_indexByKey (violations : List ViolationRecord) :
    LastIndexed (indexByKey violations) violations :=
  lookup_positions ViolationRecord.key violations

lemma mergeStep_entries {s : WorkloadNetworkPolicyStatus} {idx : Index} (v : ViolationRecord)
    (h : LastIndexed idx s.violations) :
    (mergeStep (s, idx) v).1.violations.map entry = observe (s.violations.map entry) (entry v) ∧
      LastIndexed (mergeStep (s, idx) v).2 (mergeStep (s, idx) v).1.violations := by
  have hlast : lastIdx (·.1 = (entry v).1) (s.violations.map entry) = idx.lookup v.key := by
    rw [lastIdx_map, h]
    rfl
  have hany : (s.violations.map entry).any (·.1 = (entry v).1) = (idx.lookup v.key).isSome := by
    rw [← hlast, lastIdx_isSome]
  unfold mergeStep observe
  cases hl : idx.lookup v.key with
  | some i =>
    constructor
    · rw [if_pos (by rw [hany, hl]; rfl), ← modify_eq_modifyLast (hlast.trans hl)]
      exact map_modify (fun r => entry_refresh r v) s.violations i
    · intro k
      rw [h k]
      exact (lastIdx_modify (fun r => by rw [refresh_key]) s.violations i).symm
  | none =>
    constructor
    · rw [if_neg (by rw [hany, hl]; decide), List.map_append]
      rfl
    · intro k
      rw [lastIdx_concat]
      by_cases hk : v.key = k
      · subst hk
        rw [AList.lookup_insert]
        exact (if_pos (decide_eq_true rfl)).symm
      · rw [AList.lookup_insert_ne (Ne.symm hk), h k]
        exact (if_neg fun hd => hk (of_decide_eq_true hd)).symm

lemma foldl_mergeStep_entries (scraped : List ViolationRecord) :
    ∀ {s : WorkloadNetworkPolicyStatus} {idx : Index}, LastIndexed idx s.violations →
      (scraped.foldl mergeStep (s, idx)).1.violations.map entry =
        (scraped.map entry).foldl observe (s.violations.map entry) := by
  induction scraped with
  | nil => intro s idx _; rfl
  | cons v scraped ih =>
    intro s idx h
    obtain ⟨h1, h2⟩ := mergeStep_entries v h
    rw [List.foldl_cons, ih h2, h1]
    rfl

lemma entries_mergeLoop (s : WorkloadNetworkPolicyStatus) (scraped : List ViolationRecord) :
    (mergeLoop s scraped).violations.map entry =
      (scraped.map entry).foldl observe (s.violations.map entry) :=
  foldl_mergeStep_entries scraped (lastIndexed_indexByKey s.violations)

lemma map_entry_newestFirst (l : List ViolationRecord) :
    (newestFirst (·.timestamp) l).map entry = sortDesc Prod.snd (l.map entry) :=
  map_sortDesc entry Prod.snd l

/-- **The merge is a round of observations and a cut.** -/
theorem entries_mergeScrapedViolations (s : WorkloadNetworkPolicyStatus)
    (scraped : List ViolationRecord) : (mergeScrapedViolations s scraped).violations.map entry =
      newest maxViolationRecords ((scraped.map entry).foldl observe (s.violations.map entry)) := by
  rw [newest, ← entries_mergeLoop, ← map_entry_newestFirst, ← List.map_take]
  rfl

/-! ## Splitting the observations into cycles -/

lemma foldl_mergeStep_count (scraped : List ViolationRecord) (st : WorkloadNetworkPolicyStatus × Index) :
    (scraped.foldl mergeStep st).1.violationCount =
      (fun c => wrap64 (c + 1))^[scraped.length] st.1.violationCount := by
  induction scraped generalizing st with
  | nil => rfl
  | cons v scraped ih =>
    rw [List.foldl_cons, ih, (mergeStep_frame st v).2.2]
    rfl

/-- **Merging does not depend on how the observations are split into cycles**: if different violations
have different times, two merges leave the same counter and the same keys and times in the same order
as one merge of all the records, although the limit may evict records between the two. -/
theorem mergeScrapedViolations_append {s : WorkloadNetworkPolicyStatus}
    (hkeys : (s.violations.map ViolationRecord.key).Nodup) (xs ys : List ViolationRecord)
    (htimes : ∀ a ∈ s.violations ++ xs ++ ys, ∀ b ∈ s.violations ++ xs ++ ys,
      a.key ≠ b.key → a.timestamp ≠ b.timestamp) :
    (mergeScrapedViolations (mergeScrapedViolations s xs) ys).violationCount =
        (mergeScrapedViolations s (xs ++ ys)).violationCount ∧
      (mergeScrapedViolations (mergeScrapedViolations s xs) ys).violations.map entry =
        (mergeScrapedViolations s (xs ++ ys)).violations.map entry := by
  constructor
  · show (mergeLoop (mergeScrapedViolations s xs) ys).violationCount = (mergeLoop s (xs ++ ys)).violationCount
    have hfirst : (mergeScrapedViolations s xs).violationCount =
        (fun c => wrap64 (c + 1))^[xs.length] s.violationCount := foldl_mergeStep_count xs _
    rw [mergeLoop, foldl_mergeStep_count, hfirst, mergeLoop, foldl_mergeStep_count, List.length_append,
      Nat.add_comm, Function.iterate_add_apply]
  · have hn : ((s.violations.map entry).map Prod.fst).Nodup := by
      rw [List.map_map]
      exact hkeys
    have hd : TimesDiffer (s.violations.map entry ++ xs.map entry ++ ys.map entry) := by
      rw [← List.map_append, ← List.map_append]
      intro a ha b hb hne
      obtain ⟨r, hr, rfl⟩ := List.mem_map.1 ha
      obtain ⟨v, hv, rfl⟩ := List.mem_map.1 hb
      exact htimes r hr v hv hne
    rw [entries_mergeScrapedViolations, entries_mergeScrapedViolations, entries_mergeScrapedViolations,
      newest_observe_newest hn _ _ _ hd, List.map_append]

/-- The first cycle observes one violation too many and evicts the oldest, which the second cycle observes again: it
comes back, and the next oldest goes. -/
theorem mergeScrapedViolations_append_two_cycles :
    let xs : List ViolationRecord := (List.range 101).map fun i : Nat => { timestamp := 10 + i, dstPort := i }
    let ys : List ViolationRecord := [{ timestamp := 300, dstPort := 0 }]
    (mergeScrapedViolations {} xs).violations.length < xs.length ∧
      (mergeScrapedViolations (mergeScrapedViolations {} xs) ys).violationCount =
        (mergeScrapedViolations {} (xs ++ ys)).violationCount ∧
      (mergeScrapedViolations (mergeScrapedViolations {} xs) ys).violations.map entry =
        (mergeScrapedViolations {} (xs ++ ys)).violations.map entry := by
  intro xs ys
  have hnodup : ((xs ++ ys).map (·.timestamp)).Nodup := by decide +kernel
  have hevicts : (mergeScrapedViolations {} xs).violations.length < xs.length := by
    rw [← List.length_map entry, entries_mergeScrapedViolations]
    exact (List.length_take_le _ _).trans_lt (by decide)
  exact ⟨hevicts, mergeScrapedViolations_append (s := {}) (by decide) xs ys
    fun a ha b hb hkey htime => hkey (congrArg _ (List.inj_on_of_nodup_map hnodup ha hb htime))⟩

end NetworkEnforcer.Status
