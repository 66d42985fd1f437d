import NetworkEnforcer.Lib.StableSort
import NetworkEnforcer.Status.Merge

/-!
# The merge as a deduplicated union

`mergedUnion` says what the merge loop leaves without a loop: the stored records in order, then the
first occurrence of every new key, all at their latest time.  `mergeLoop_eq_mergedUnion` is the
induction over the scraped list from its end, where a turn of the loop and one more scraped record
change the union alike.
-/

namespace NetworkEnforcer.Status

open NetworkEnforcer.Lib NetworkEnforcer.Api

/-- The maximum of a time and the times of the records with a key. -/
def latestTime (k : ViolationRecordKey) (t : Time) (scraped : List ViolationRecord) : Time :=
  ((scraped.filter fun v => v.key = k).map (·.timestamp)).foldl max t

/-- The first occurrence of every key the status does not hold, with its index in the scraped list. -/
def firstOccurrences (s : WorkloadNetworkPolicyStatus) (scraped : List ViolationRecord) :
    List (ViolationRecord × Nat) :=
  scraped.zipIdx.filter fun p => p.1.key ∉ s.violations.map ViolationRecord.key ∧
    p.1.key ∉ (scraped.take p.2).map ViolationRecord.key

/-- The deduplicated union of the stored and the scraped violations.  The identifier of a new record is
the `int64` sum of the counter and the record's index. -/
def mergedUnion (s : WorkloadNetworkPolicyStatus) (scraped : List ViolationRecord) :
    List ViolationRecord :=
  (s.violations.map fun r => { r with timestamp := latestTime r.key r.timestamp scraped }) ++
    (firstOccurrences s scraped).map fun p => { p.1 with
      id := wrap64 (s.violationCount + p.2)
      timestamp := latestTime p.1.key p.1.timestamp scraped }

/-! ## One more scraped record -/

lemma latestTime_concat (k : ViolationRecordKey) (t : Time) (scraped : List ViolationRecord)
    (v : ViolationRecord) : latestTime k t (scraped ++ [v]) =
      if v.key = k then max (latestTime k t scraped) v.timestamp else latestTime k t scraped := by
  unfold latestTime
  rw [List.filter_append, List.map_append, List.foldl_append]
  by_cases h : v.key = k <;> simp [h]

lemma latestTime_of_notMem {k : ViolationRecordKey} {scraped : List ViolationRecord}
    (h : k ∉ scraped.map ViolationRecord.key) (t : Time) : latestTime k t scraped = t := by
  have hnil : scraped.filter (fun v => v.key = k) = [] := by
    rw [List.filter_eq_nil_iff]
    intro v hv hk
    exact h (List.mem_map.2 ⟨v, hv, of_decide_eq_true hk⟩)
  rw [latestTime, hnil]
  rfl

lemma mem_firstOccurrences {s : WorkloadNetworkPolicyStatus} {scraped : List ViolationRecord}
    {p : ViolationRecord × Nat} : p ∈ firstOccurrences s scraped ↔ scraped[p.2]? = some p.1 ∧
      p.1.key ∉ s.violations.map ViolationRecord.key ∧
      p.1.key ∉ (scraped.take p.2).map ViolationRecord.key := by
  rw [firstOccurrences, List.mem_filter, decide_eq_true_eq]
  exact and_congr_left' (List.mk_mem_zipIdx_iff_getElem? (x := p.1) (i := p.2))

lemma firstOccurrences_concat (s : WorkloadNetworkPolicyStatus) (scraped : List ViolationRecord)
    (v : ViolationRecord) : firstOccurrences s (scraped ++ [v]) = firstOccurrences s scraped ++
      if v.key ∈ (s.violations ++ scraped).map ViolationRecord.key then [] else [(v, scraped.length)] := by
  unfold firstOccurrences
  rw [List.zipIdx_append, List.filter_append]
  congr 1
  · -- an earlier record has the same records before it
    refine List.filter_congr ?_
    intro p hp
    have hlt : p.2 < scraped.length := by simpa using List.snd_lt_of_mem_zipIdx hp
    rw [List.take_append_of_le_length hlt.le]
  · by_cases h : v.key ∈ (s.violations ++ scraped).map ViolationRecord.key
    · rw [if_pos h]
      rw [List.map_append, List.mem_append] at h
      simpa [or_iff_not_imp_left] using h
    · rw [if_neg h]
      rw [List.map_append, List.mem_append, not_or] at h
      simpa using h

lemma keys_mergedUnion (s : WorkloadNetworkPolicyStatus) (scraped : List ViolationRecord) :
    (mergedUnion s scraped).map ViolationRecord.key =
      s.violations.map ViolationRecord.key ++ (firstOccurrences s scraped).map (·.1.key) := by
  rw [mergedUnion, List.map_append, List.map_map, List.map_map]
  rfl

/-- The keys of the union are the keys that were stored or scraped. -/
lemma mem_keys_mergedUnion (s : WorkloadNetworkPolicyStatus) (scraped : List ViolationRecord)
    (k : ViolationRecordKey) : k ∈ (mergedUnion s scraped).map ViolationRecord.key ↔
      k ∈ (s.violations ++ scraped).map ViolationRecord.key := by
  rw [keys_mergedUnion]
  induction scraped using List.reverseRecOn with
  | nil => simp [firstOccurrences]
  | append_singleton scraped v ih =>
    rw [firstOccurrences_concat, @List.map_append _ _ _ (firstOccurrences s scraped), ← List.append_assoc,
      List.mem_append, ih, ← List.append_assoc, @List.map_append _ _ _ _ [v], List.mem_append]
    split
    · rename_i hv
      constructor
      · rintro (h | h)
        · exact Or.inl h
        · simp at h
      · rintro (h | h)
        · exact Or.inl h
        · exact Or.inl (List.mem_singleton.1 h ▸ hv)
    · rfl

/-- The stored record or first occurrence `r`, one scraped record later. -/
lemma refresh_latestTime (r v : ViolationRecord) (scraped : List ViolationRecord) :
    ({ r with timestamp := latestTime r.key r.timestamp (scraped ++ [v]) } : ViolationRecord) =
      if r.key = v.key then
        ({ r with timestamp := latestTime r.key r.timestamp scraped } : ViolationRecord).refresh v
      else { r with timestamp := latestTime r.key r.timestamp scraped } := by
  rw [latestTime_concat]
  by_cases h : r.key = v.key
  · rw [if_pos h.symm, if_pos h, ViolationRecord.refresh]
    split
    · rename_i hlt
      rw [max_eq_right hlt.le]
    · rename_i hlt
      rw [max_eq_left (not_lt.1 hlt)]
  · rw [if_neg (Ne.symm h), if_neg h]

/-- **One more scraped record changes the union as one turn of the loop does.** -/
theorem mergedUnion_concat (s : WorkloadNetworkPolicyStatus) (scraped : List ViolationRecord)
    (v : ViolationRecord) : mergedUnion s (scraped ++ [v]) =
      upsert ViolationRecord.key (·.refresh v)
        { v with id := wrap64 (s.violationCount + scraped.length) } (mergedUnion s scraped) := by
  have hmem := mem_keys_mergedUnion s scraped v.key
  by_cases h : v.key ∈ (s.violations ++ scraped).map ViolationRecord.key
  · -- no new record: every record of the key is refreshed
    have hkey : ({ v with id := wrap64 (s.violationCount + scraped.length) } : ViolationRecord).key ∈
        (mergedUnion s scraped).map ViolationRecord.key := hmem.2 h
    rw [upsert, if_pos hkey]
    unfold mergedUnion
    rw [firstOccurrences_concat, if_pos h, List.append_nil, List.map_append, List.map_map, List.map_map]
    congr 1
    · exact List.map_congr_left fun r _ => refresh_latestTime r v scraped
    · exact List.map_congr_left fun p _ =>
        refresh_latestTime { p.1 with id := wrap64 (s.violationCount + p.2) } v scraped
  · -- a new record: nothing else has its key
    have hkey : ({ v with id := wrap64 (s.violationCount + scraped.length) } : ViolationRecord).key ∉
        (mergedUnion s scraped).map ViolationRecord.key := fun hk => h (hmem.1 hk)
    rw [upsert_of_notMem hkey]
    rw [List.map_append, List.mem_append, not_or] at h
    have hother : ∀ r : ViolationRecord, r.key ∈ (s.violations ++ scraped).map ViolationRecord.key →
        latestTime r.key r.timestamp (scraped ++ [v]) = latestTime r.key r.timestamp scraped := by
      intro r hr
      rw [latestTime_concat, if_neg]
      rintro he
      rw [List.map_append, List.mem_append, ← he] at hr
      exact hr.elim h.1 h.2
    have hnot : ¬v.key ∈ (s.violations ++ scraped).map ViolationRecord.key := by
      rw [List.map_append, List.mem_append, not_or]
      exact h
    unfold mergedUnion
    rw [firstOccurrences_concat, if_neg hnot, @List.map_append _ _ _ (firstOccurrences s scraped),
      ← List.append_assoc]
    congr 1
    · congr 1
      · refine List.map_congr_left fun r hr => ?_
        rw [hother r (List.mem_map_of_mem (List.mem_append_left _ hr))]
      · refine List.map_congr_left fun p hp => ?_
        have hp := List.mem_of_getElem? (mem_firstOccurrences.1 hp).1
        rw [hother p.1 (List.mem_map_of_mem (List.mem_append_right _ hp))]
    · simp only [List.map_cons, List.map_nil]
      rw [latestTime_concat, if_pos rfl, latestTime_of_notMem h.2, max_self]

/-! ## The whole loop -/

lemma foldl_mergeOne_violationCount {s : WorkloadNetworkPolicyStatus} (h : IsInt64 s.violationCount)
    (scraped : List ViolationRecord) :
    (scraped.foldl mergeOne s).violationCount = wrap64 (s.violationCount + scraped.length) := by
  induction scraped using List.reverseRecOn with
  | nil => simpa using (wrap64_of_isInt64 h).symm
  | append_singleton scraped v ih =>
    rw [List.foldl_append, List.foldl_cons, List.foldl_nil, mergeOne, ih, wrap64_wrap64_add, List.length_append,
      List.length_singleton, Nat.cast_add, Int.add_assoc]
    rfl

/-- **The merge loop computes the union.** -/
theorem mergeLoop_eq_mergedUnion {s : WorkloadNetworkPolicyStatus}
    (hkeys : (s.violations.map ViolationRecord.key).Nodup) (hcount : IsInt64 s.violationCount)
    (scraped : List ViolationRecord) : (mergeLoop s scraped).violations = mergedUnion s scraped := by
  rw [mergeLoop_eq hkeys]
  induction scraped using List.reverseRecOn with
  | nil => simp [mergedUnion, firstOccurrences, latestTime]
  | append_singleton scraped v ih =>
    rw [mergedUnion_concat, ← ih, List.foldl_append, List.foldl_cons, List.foldl_nil, mergeOne,
      foldl_mergeOne_violationCount hcount]

/-- **The merge keeps the newest hundred of the deduplicated union.** -/
theorem mergeScrapedViolations_newest_of_union {s : WorkloadNetworkPolicyStatus}
    (hkeys : (s.violations.map ViolationRecord.key).Nodup) (hcount : IsInt64 s.violationCount)
    (scraped : List ViolationRecord) :
    (∃ ordered, StableDesc (·.timestamp) (mergedUnion s scraped) ordered ∧
      (mergeScrapedViolations s scraped).violations =
        ordered.take (min 100 (mergedUnion s scraped).length)) ∧
    (mergeScrapedViolations s scraped).violationCount = wrap64 (s.violationCount + scraped.length) ∧
    -- as long as the counter does not overflow, the sums are the exact ones
    (0 ≤ s.violationCount → s.violationCount + scraped.length < 2 ^ 63 →
      (mergeScrapedViolations s scraped).violationCount = s.violationCount + scraped.length ∧
      ∀ p ∈ firstOccurrences s scraped,
        wrap64 (s.violationCount + p.2) = s.violationCount + p.2) := by
  refine ⟨⟨sortDesc (·.timestamp) (mergedUnion s scraped), stableDesc_sortDesc _ _, ?_⟩, ?_, ?_⟩
  · have hlen : (sortDesc (·.timestamp) (mergedUnion s scraped)).length = (mergedUnion s scraped).length :=
      (sortDesc_perm _ _).length_eq
    rw [← hlen, ← List.take_eq_take_min]
    show sortAndTrim (·.timestamp) (mergeLoop s scraped).violations = _
    rw [mergeLoop_eq_mergedUnion hkeys hcount]
    rfl
  · show (mergeLoop s scraped).violationCount = _
    rw [mergeLoop_eq hkeys, foldl_mergeOne_violationCount hcount]
  · intro h0 hlt
    refine ⟨mergeScrapedViolations_violationCount h0 hlt, ?_⟩
    intro p hp
    have hget := (mem_firstOccurrences.1 hp).1
    have : p.2 < scraped.length := (List.getElem?_eq_some_iff.1 hget).1
    exact wrap64_of_lt (by omega) (by omega)

/-- A stored violation seen again, between two sightings of a new one. -/
theorem mergeScrapedViolations_newest_of_union_three :
    let s : WorkloadNetworkPolicyStatus :=
      { violationCount := 1, violations := [{ timestamp := 5, dstPort := 443 }] }
    let scraped : List ViolationRecord :=
      [{ timestamp := 7, dstPort := 80 }, { timestamp := 9, dstPort := 443 }, { timestamp := 8, dstPort := 80 }]
    mergedUnion s scraped =
        [{ timestamp := 9, dstPort := 443 }, { timestamp := 8, dstPort := 80, id := 1 }] ∧
      (∃ ordered, StableDesc (·.timestamp) (mergedUnion s scraped) ordered ∧
        (mergeScrapedViolations s scraped).violations =
          ordered.take (min 100 (mergedUnion s scraped).length)) ∧
      (mergeScrapedViolations s scraped).violationCount = 4 := by
  intro s scraped
  obtain ⟨h, hcount, -⟩ :=
    mergeScrapedViolations_newest_of_union (s := s) (by decide) (by decide) scraped
  exact ⟨rfl, h, hcount.trans (wrap64_of_lt (by decide) (by decide))⟩

end NetworkEnforcer.Status
