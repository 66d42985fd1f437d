import NetworkEnforcer.Lib.KeyedList
import NetworkEnforcer.Api.ViolationRecord

/-!
# Merging scraped violations, by keys

The merge loop works through `indexByKey`, a map from keys to positions.  `mergeOne` is what one turn
does in terms of keys alone (`mergeStep_spec`), and `mergeLoop_eq` says that on a status with distinct
keys the loop is the fold of `mergeOne`.  What the loop keeps is proved turn by turn:

* `mergeScrapedViolations_violationCount` — the counter grows by the number of scraped records;
* `mergeOne_keys_nodup` — the keys stay distinct;
* `mergeAssigned` — the records that are given an identifier, in the order they are given one;
* `Allocated.foldl_mergeStep` — every identifier given out is fresh;
* `mergeScrapedViolations_forall` — what a merged record inherits.
-/

namespace NetworkEnforcer.Status

open NetworkEnforcer.Lib NetworkEnforcer.Api

/-- The dedup map of the merge loop. -/
abbrev Index : Type := GoMap ViolationRecordKey Nat

/-- One turn of the merge loop by keys: the record with the key of `v` is refreshed; without one, `v`
is appended under the next identifier. -/
def mergeOne (s : WorkloadNetworkPolicyStatus) (v : ViolationRecord) : WorkloadNetworkPolicyStatus :=
  { s with
    violations := upsert ViolationRecord.key (·.refresh v) { v with id := s.violationCount } s.violations
    violationCount := wrap64 (s.violationCount + 1) }

/-- The records the merge loop appends, with the identifiers it gives them. -/
def mergeAssigned : WorkloadNetworkPolicyStatus × Index → List ViolationRecord → List ViolationRecord
  | _, [] => []
  | st, v :: scraped =>
    (match st.2.lookup v.key with
      | some _ => []
      | none => [{ v with id := st.1.violationCount }]) ++ mergeAssigned (mergeStep st v) scraped

@[simp] lemma refresh_key (r v : ViolationRecord) : (r.refresh v).key = r.key := by
  unfold ViolationRecord.refresh
  split <;> rfl

@[simp] lemma refresh_id (r v : ViolationRecord) : (r.refresh v).id = r.id := by
  unfold ViolationRecord.refresh
  split <;> rfl

/-! ## The loop is the fold of `mergeOne` -/

lemma mergeStep_spec {s : WorkloadNetworkPolicyStatus} {idx : Index} (v : ViolationRecord)
    (h : Indexed ViolationRecord.key idx s.violations) :
    (mergeStep (s, idx) v).1 = mergeOne s v ∧
      Indexed ViolationRecord.key (mergeStep (s, idx) v).2 (mergeStep (s, idx) v).1.violations := by
  unfold mergeStep mergeOne
  cases hl : idx.lookup v.key with
  | some i =>
    refine ⟨?_, h.modify (fun y => refresh_key y v) i⟩
    simp only [h.modify_eq_upsert (x := { v with id := s.violationCount }) (·.refresh v) hl]
  | none =>
    refine ⟨?_, h.append (x := { v with id := s.violationCount }) hl⟩
    simp only [h.append_eq_upsert (x := { v with id := s.violationCount }) (·.refresh v) hl]

lemma foldl_mergeStep_spec (scraped : List ViolationRecord) :
    ∀ {s : WorkloadNetworkPolicyStatus} {idx : Index}, Indexed ViolationRecord.key idx s.violations →
      (scraped.foldl mergeStep (s, idx)).1 = scraped.foldl mergeOne s := by
  induction scraped with
  | nil => intro s idx _; rfl
  | cons v scraped ih =>
    intro s idx h
    obtain ⟨h1, h2⟩ := mergeStep_spec v h
    rw [List.foldl_cons, List.foldl_cons, ← h1]
    exact ih h2

/-- **The merge loop, by keys.** -/
theorem mergeLoop_eq {s : WorkloadNetworkPolicyStatus} (h : (s.violations.map ViolationRecord.key).Nodup)
    (scraped : List ViolationRecord) : mergeLoop s scraped = scraped.foldl mergeOne s :=
  foldl_mergeStep_spec scraped (indexed_positions h)

/-! ## What the merge leaves alone -/

@[simp] lemma mergeOne_acknowledgedViolations (s : WorkloadNetworkPolicyStatus) (v : ViolationRecord) :
    (mergeOne s v).acknowledgedViolations = s.acknowledgedViolations := rfl

lemma mergeStep_frame (st : WorkloadNetworkPolicyStatus × Index) (v : ViolationRecord) :
    (mergeStep st v).1.acknowledgedViolations = st.1.acknowledgedViolations ∧
      (mergeStep st v).1.conditions = st.1.conditions ∧
      (mergeStep st v).1.violationCount = wrap64 (st.1.violationCount + 1) := by
  unfold mergeStep
  cases st.2.lookup v.key <;> exact ⟨rfl, rfl, rfl⟩

lemma foldl_mergeStep_frame (scraped : List ViolationRecord) :
    ∀ st : WorkloadNetworkPolicyStatus × Index,
      (scraped.foldl mergeStep st).1.acknowledgedViolations = st.1.acknowledgedViolations ∧
        (scraped.foldl mergeStep st).1.conditions = st.1.conditions := by
  induction scraped with
  | nil => intro st; exact ⟨rfl, rfl⟩
  | cons v scraped ih =>
    intro st
    obtain ⟨h1, h2, -⟩ := mergeStep_frame st v
    obtain ⟨h3, h4⟩ := ih (mergeStep st v)
    exact ⟨h3.trans h1, h4.trans h2⟩

@[simp] lemma mergeScrapedViolations_acknowledgedViolations (s : WorkloadNetworkPolicyStatus)
    (scraped : List ViolationRecord) :
    (mergeScrapedViolations s scraped).acknowledgedViolations = s.acknowledgedViolations :=
  (foldl_mergeStep_frame scraped _).1

@[simp] lemma mergeScrapedViolations_conditions (s : WorkloadNetworkPolicyStatus)
    (scraped : List ViolationRecord) : (mergeScrapedViolations s scraped).conditions = s.conditions :=
  (foldl_mergeStep_frame scraped _).2

/-! ## The counter -/

lemma foldl_mergeStep_violationCount (scraped : List ViolationRecord) :
    ∀ st : WorkloadNetworkPolicyStatus × Index, 0 ≤ st.1.violationCount →
      st.1.violationCount + scraped.length < 2 ^ 63 →
      (scraped.foldl mergeStep st).1.violationCount = st.1.violationCount + scraped.length := by
  induction scraped with
  | nil => intro st _ _; simp
  | cons v scraped ih =>
    intro st h0 hlt
    simp only [List.length_cons] at hlt ⊢
    have hc := (mergeStep_frame st v).2.2
    rw [wrap64_of_lt (by omega) (by omega)] at hc
    rw [List.foldl_cons, ih _ (by omega) (by omega), hc]
    omega

/-- **The counter grows by the number of scraped records**, duplicates included. -/
theorem mergeScrapedViolations_violationCount {s : WorkloadNetworkPolicyStatus}
    {scraped : List ViolationRecord} (h0 : 0 ≤ s.violationCount)
    (hlt : s.violationCount + scraped.length < 2 ^ 63) :
    (mergeScrapedViolations s scraped).violationCount = s.violationCount + scraped.length :=
  foldl_mergeStep_violationCount scraped (s, indexByKey s.violations) h0 hlt

/-! ## Keys -/

lemma mergeOne_keys_nodup {s : WorkloadNetworkPolicyStatus} (v : ViolationRecord)
    (h : (s.violations.map ViolationRecord.key).Nodup) :
    ((mergeOne s v).violations.map ViolationRecord.key).Nodup :=
  nodup_upsert (fun y => refresh_key y v) h

/-! ## Identifiers -/

/-- The identifiers a status holds, in both lists. -/
def storedRecords (s : WorkloadNetworkPolicyStatus) : List ViolationRecord :=
  s.violations ++ s.acknowledgedViolations.map (·.violation)

/-- What holds of the identifiers and keys at every turn of the merge loop, with the log of the
records that have been given one. -/
structure Allocated (s : WorkloadNetworkPolicyStatus) (assigned : List ViolationRecord) : Prop where
  /-- No two active violations are the same one. -/
  keys : (s.violations.map ViolationRecord.key).Nodup
  /-- No two stored records share an identifier. -/
  ids : ((storedRecords s).map (·.id)).Nodup
  /-- No identifier was given out twice. -/
  log : (assigned.map (·.id)).Nodup
  /-- Identifiers are drawn from below the counter. -/
  range : ∀ r ∈ assigned, 0 ≤ r.id ∧ r.id < s.violationCount
  /-- A stored record is the one its identifier was given to. -/
  mem : ∀ r ∈ storedRecords s, ∃ a ∈ assigned, a.id = r.id ∧ a.key = r.key

lemma Allocated.id_lt {s : WorkloadNetworkPolicyStatus} {assigned : List ViolationRecord}
    (h : Allocated s assigned) {r : ViolationRecord} (hr : r ∈ storedRecords s) :
    0 ≤ r.id ∧ r.id < s.violationCount := by
  obtain ⟨a, ha, hid, -⟩ := h.mem r hr
  exact hid ▸ h.range a ha

/-- Fewer records under the same or a later counter. -/
lemma Allocated.subperm {s s' : WorkloadNetworkPolicyStatus} {assigned : List ViolationRecord}
    (h : Allocated s assigned) (hv : s'.violations.Subperm s.violations)
    (hr : (storedRecords s').Subperm (storedRecords s)) (hc : s.violationCount ≤ s'.violationCount) :
    Allocated s' assigned where
  keys := nodup_of_subperm (subperm_map _ hv) h.keys
  ids := nodup_of_subperm (subperm_map _ hr) h.ids
  log := h.log
  range r hr := ⟨(h.range r hr).1, lt_of_lt_of_le (h.range r hr).2 hc⟩
  mem r hr' := h.mem r (hr.subset hr')

lemma storedRecords_mergeOne_of_mem {s : WorkloadNetworkPolicyStatus} {v : ViolationRecord}
    (h : v.key ∈ s.violations.map ViolationRecord.key) :
    (storedRecords (mergeOne s v)).map (fun r => (r.id, r.key)) =
      (storedRecords s).map (fun r => (r.id, r.key)) := by
  simp only [storedRecords, mergeOne, List.map_append]
  congr 1
  have h' : ({ v with id := s.violationCount } : ViolationRecord).key ∈
      s.violations.map ViolationRecord.key := h
  rw [upsert, if_pos h', List.map_map]
  refine List.map_congr_left fun y _ => ?_
  simp only [Function.comp]
  split
  · simp
  · rfl

lemma storedRecords_mergeOne_of_notMem {s : WorkloadNetworkPolicyStatus} {v : ViolationRecord}
    (h : v.key ∉ s.violations.map ViolationRecord.key) :
    (storedRecords (mergeOne s v)).Perm ({ v with id := s.violationCount } :: storedRecords s) := by
  have h' : ({ v with id := s.violationCount } : ViolationRecord).key ∉
      s.violations.map ViolationRecord.key := h
  have hv : (mergeOne s v).violations = s.violations ++ [{ v with id := s.violationCount }] :=
    upsert_of_notMem h'
  simp only [storedRecords, hv, mergeOne_acknowledgedViolations, List.append_assoc,
    List.singleton_append]
  exact List.perm_middle

/-- **One turn of the loop allocates at most one identifier**, and that one is fresh. -/
theorem Allocated.mergeOne {s : WorkloadNetworkPolicyStatus} {assigned : List ViolationRecord}
    (h : Allocated s assigned) (v : ViolationRecord) (h0 : 0 ≤ s.violationCount)
    (hlt : s.violationCount + 1 < 2 ^ 63) :
    Allocated (mergeOne s v) (assigned ++ if v.key ∈ s.violations.map ViolationRecord.key then []
      else [{ v with id := s.violationCount }]) := by
  have hc : (Status.mergeOne s v).violationCount = s.violationCount + 1 :=
    wrap64_of_lt (by omega) hlt
  by_cases hk : v.key ∈ s.violations.map ViolationRecord.key
  · -- a refresh: identifiers and keys are the old ones
    rw [if_pos hk, List.append_nil]
    have heq := storedRecords_mergeOne_of_mem hk
    refine ⟨mergeOne_keys_nodup v h.keys, ?_, h.log, fun r hr => ?_, fun r hr => ?_⟩
    · have := congrArg (List.map Prod.fst) heq
      simp only [List.map_map, Function.comp_def] at this
      rw [this]
      exact h.ids
    · have := h.range r hr
      omega
    · have hmem : (r.id, r.key) ∈ (storedRecords s).map (fun r => (r.id, r.key)) :=
        heq ▸ List.mem_map_of_mem hr
      obtain ⟨r', hr', he⟩ := List.mem_map.1 hmem
      obtain ⟨a, ha, h1, h2⟩ := h.mem r' hr'
      simp only [Prod.mk.injEq] at he
      exact ⟨a, ha, h1.trans he.1, h2.trans he.2⟩
  · -- an append: the new identifier is the counter, above every identifier in use
    rw [if_neg hk]
    have hp := storedRecords_mergeOne_of_notMem hk
    refine ⟨mergeOne_keys_nodup v h.keys, ?_, ?_, fun r hr => ?_, fun r hr => ?_⟩
    · rw [(hp.map _).nodup_iff, List.map_cons, List.nodup_cons]
      refine ⟨fun hmem => ?_, h.ids⟩
      obtain ⟨r, hr, he⟩ := List.mem_map.1 hmem
      have := (h.id_lt hr).2
      simp only at he
      omega
    · rw [List.map_append, List.nodup_append]
      refine ⟨h.log, by simp, ?_⟩
      intro a ha b hb hab
      obtain ⟨r, hr, rfl⟩ := List.mem_map.1 ha
      obtain rfl : b = s.violationCount := by simpa using hb
      have := (h.range r hr).2
      omega
    · rcases List.mem_append.1 hr with hr | hr
      · have := h.range r hr
        omega
      · obtain rfl := List.mem_singleton.1 hr
        rw [hc]
        exact ⟨h0, Int.lt_add_one_of_le le_rfl⟩
    · rcases List.mem_cons.1 (hp.mem_iff.1 hr) with rfl | hr
      · exact ⟨_, by simp, rfl, rfl⟩
      · obtain ⟨a, ha, h1, h2⟩ := h.mem r hr
        exact ⟨a, List.mem_append_left _ ha, h1, h2⟩

lemma mergeAssigned_cons {s : WorkloadNetworkPolicyStatus} {idx : Index} (v : ViolationRecord)
    (scraped : List ViolationRecord) (h : Indexed ViolationRecord.key idx s.violations) :
    mergeAssigned (s, idx) (v :: scraped) =
      (if v.key ∈ s.violations.map ViolationRecord.key then [] else [{ v with id := s.violationCount }]) ++
        mergeAssigned (mergeStep (s, idx) v) scraped := by
  rw [mergeAssigned]
  congr 1
  cases hl : idx.lookup v.key with
  | some i => rw [if_pos (h.lookup_isSome_iff.1 (by rw [hl]; rfl))]
  | none => rw [if_neg (h.lookup_eq_none_iff.1 hl)]

/-- **The whole loop allocates fresh identifiers**, and its log says which. -/
theorem Allocated.foldl_mergeStep (scraped : List ViolationRecord) :
    ∀ {s : WorkloadNetworkPolicyStatus} {idx : Index} {assigned : List ViolationRecord},
      Indexed ViolationRecord.key idx s.violations → Allocated s assigned → 0 ≤ s.violationCount →
      s.violationCount + scraped.length < 2 ^ 63 →
      Allocated (scraped.foldl mergeStep (s, idx)).1
        (assigned ++ mergeAssigned (s, idx) scraped) := by
  induction scraped with
  | nil =>
    intro s idx assigned _ h _ _
    simpa [mergeAssigned] using h
  | cons v scraped ih =>
    intro s idx assigned hidx h h0 hlt
    simp only [List.length_cons] at hlt
    obtain ⟨h1, h2⟩ := mergeStep_spec v hidx
    have hstep := h.mergeOne v h0 (by omega)
    have hc : (Status.mergeOne s v).violationCount = s.violationCount + 1 :=
      wrap64_of_lt (by omega) (by omega)
    rw [List.foldl_cons, mergeAssigned_cons v scraped hidx, ← List.append_assoc]
    rw [← h1] at hstep hc
    have hpos : 0 ≤ (mergeStep (s, idx) v).1.violationCount := by rw [hc]; omega
    have hbound : (mergeStep (s, idx) v).1.violationCount + scraped.length < 2 ^ 63 := by
      rw [hc]; omega
    exact ih h2 hstep hpos hbound

/-! ## Records -/

/-- The identifiers after the loop: the old ones, and the ones given out. -/
lemma foldl_mergeStep_ids (scraped : List ViolationRecord) :
    ∀ st : WorkloadNetworkPolicyStatus × Index, (scraped.foldl mergeStep st).1.violations.map (·.id) =
      st.1.violations.map (·.id) ++ (mergeAssigned st scraped).map (·.id) := by
  induction scraped with
  | nil => intro st; simp [mergeAssigned]
  | cons v scraped ih =>
    intro st
    rw [List.foldl_cons, ih, mergeAssigned]
    unfold mergeStep
    cases st.2.lookup v.key with
    | some i => simp [map_modify_of_forall (fun r : ViolationRecord => refresh_id r v)]
    | none => simp

lemma foldl_mergeStep_forall {P : ViolationRecord → Prop}
    (hrefresh : ∀ r v, P r → P v → P (r.refresh v)) (hid : ∀ v i, P v → P { v with id := i })
    (scraped : List ViolationRecord) (hnew : ∀ v ∈ scraped, P v) :
    ∀ st : WorkloadNetworkPolicyStatus × Index, (∀ r ∈ st.1.violations, P r) →
      ∀ r ∈ (scraped.foldl mergeStep st).1.violations, P r := by
  induction scraped with
  | nil => exact fun _ h => h
  | cons v scraped ih =>
    intro st h
    rw [List.forall_mem_cons] at hnew
    refine ih hnew.2 (mergeStep st v) ?_
    unfold mergeStep
    cases st.2.lookup v.key with
    | some i => exact forall_mem_modify (fun r hr => hrefresh r v hr hnew.1) h i
    | none =>
      intro r hr
      rcases List.mem_append.1 hr with hr | hr
      · exact h r hr
      · rw [List.mem_singleton.1 hr]
        exact hid v _ hnew.1

/-- **Merging makes no record out of nothing**: what holds of the stored and of the scraped records, and
survives a refresh and a new identifier, holds afterwards. -/
theorem mergeScrapedViolations_forall {P : ViolationRecord → Prop}
    (hrefresh : ∀ r v, P r → P v → P (r.refresh v)) (hid : ∀ v i, P v → P { v with id := i })
    {s : WorkloadNetworkPolicyStatus} {scraped : List ViolationRecord} (hold : ∀ r ∈ s.violations, P r)
    (hnew : ∀ v ∈ scraped, P v) : ∀ r ∈ (mergeScrapedViolations s scraped).violations, P r := by
  intro r hr
  have hr : r ∈ (mergeLoop s scraped).violations :=
    (List.perm_insertionSort _ _).subset (List.mem_of_mem_take hr)
  exact foldl_mergeStep_forall hrefresh hid scraped hnew _ hold r hr

end NetworkEnforcer.Status
