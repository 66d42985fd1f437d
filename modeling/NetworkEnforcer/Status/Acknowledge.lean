import NetworkEnforcer.Status.Recompute

/-!
# Acknowledgements and the iteration order

The program ranges over the annotations and keeps, for every identifier, the last annotation that names
it.  Several keys can name one identifier: `strconv.ParseInt` reads `7`, `07` and `+7` alike.  Which of
them is the last depends on the order of the iteration, and the others are not consumed.  So a call is
independent of the order, and consumes whatever names a moved record, exactly when every active
violation is named by at most one key (`acknowledge_exact_iff`).
-/

namespace NetworkEnforcer.Status

open NetworkEnforcer.Lib NetworkEnforcer.Api

/-! ## The map of acknowledgements -/

/-- Every acknowledgement comes from an annotation that names it. -/
lemma lookup_acknowledges {annotations : GoMap String String} {id : Int} {info : String × String}
    (h : (acknowledges annotations).lookup id = some info) :
    acknowledgedID info.1 = some id ∧ annotations.lookup info.1 = some info.2 := by
  unfold acknowledges at h
  -- the loop inserts what it reads
  have hentry := GoMap.lookup_foldl_insert
    (R := fun e id info => acknowledgedID e.1 = some id ∧
      (⟨info.1, info.2⟩ : Sigma fun _ : String => String) = e) ?_ _ _ h
  · rcases hentry with h' | ⟨e, he, hid, rfl⟩
    · rw [AList.lookup_empty] at h'
      cases h'
    · exact ⟨hid, AList.mem_lookup_iff.2 he⟩
  · intro m e
    by_cases hid : ∃ id, acknowledgedID e.1 = some id
    · obtain ⟨id, hid⟩ := hid
      exact Or.inr ⟨id, (e.1, e.2), ⟨hid, rfl⟩, by simp only [hid]⟩
    · have hnone : acknowledgedID e.1 = none := by
        simpa [Option.eq_none_iff_forall_ne_some] using hid
      exact Or.inl (by simp only [hnone])

/-- An identifier is acknowledged when some key names it. -/
lemma acknowledges_isSome_iff (annotations : GoMap String String) (id : Int) :
    ((acknowledges annotations).lookup id).isSome ↔ ∃ k ∈ annotations, acknowledgedID k = some id := by
  constructor
  · intro h
    obtain ⟨info, hinfo⟩ := Option.isSome_iff_exists.1 h
    obtain ⟨hid, hlookup⟩ := lookup_acknowledges hinfo
    exact ⟨info.1, AList.lookup_isSome.1 (by rw [hlookup]; rfl), hid⟩
  · rintro ⟨k, hk, hid⟩
    obtain ⟨r, hr⟩ := Option.isSome_iff_exists.1 (AList.lookup_isSome.2 hk)
    refine GoMap.isSome_lookup_foldl ?_ (AList.mem_lookup_iff.1 hr) ?_ ∅
    · -- an insertion keeps what is there
      intro m e h
      cases acknowledgedID e.1 with
      | none => exact h
      | some id' =>
        by_cases hid' : id = id'
        · subst hid'
          simp
        · rw [AList.lookup_insert_ne hid']
          exact h
    · intro m
      simp only [hid, AList.lookup_insert, Option.isSome_some]

/-- No two keys of the annotations name the same active violation. -/
def NamedOnce (w : WorkloadNetworkPolicy) : Prop :=
  ∀ v ∈ w.status.violations, ∀ k ∈ w.annotations, ∀ k' ∈ w.annotations,
    acknowledgedID k = some v.id → acknowledgedID k' = some v.id → k = k'

/-- Named once, a violation is acknowledged by the same annotation in every order. -/
lemma lookup_acknowledges_of_perm {w : WorkloadNetworkPolicy} (h : NamedOnce w)
    {annotations : GoMap String String} (hperm : annotations.entries.Perm w.annotations.entries)
    {v : ViolationRecord} (hv : v ∈ w.status.violations) :
    (acknowledges annotations).lookup v.id = (acknowledges w.annotations).lookup v.id := by
  have hmem : ∀ k, k ∈ annotations ↔ k ∈ w.annotations := fun k => AList.mem_of_perm hperm
  have hlookup : ∀ k, annotations.lookup k = w.annotations.lookup k := fun k => AList.perm_lookup hperm
  cases hw : (acknowledges w.annotations).lookup v.id with
  | none =>
    rw [← Option.not_isSome_iff_eq_none, acknowledges_isSome_iff] at hw ⊢
    rintro ⟨k, hk, hid⟩
    exact hw ⟨k, (hmem k).1 hk, hid⟩
  | some info =>
    obtain ⟨hid, hinfo⟩ := lookup_acknowledges hw
    have hk : info.1 ∈ w.annotations := AList.lookup_isSome.1 (by rw [hinfo]; rfl)
    have hsome : ((acknowledges annotations).lookup v.id).isSome :=
      (acknowledges_isSome_iff _ _).2 ⟨info.1, (hmem _).2 hk, hid⟩
    obtain ⟨info', hinfo'⟩ := Option.isSome_iff_exists.1 hsome
    obtain ⟨hid', hlk'⟩ := lookup_acknowledges hinfo'
    have hk' : info'.1 ∈ w.annotations := (hmem _).1 (AList.lookup_isSome.1 (by rw [hlk']; rfl))
    have hkey : info'.1 = info.1 := h v hv _ hk' _ hk hid' hid
    have hreason : info'.2 = info.2 := by
      rw [hlookup, hkey, hinfo] at hlk'
      exact (Option.some.inj hlk').symm
    rw [hinfo', Prod.ext hkey hreason]

/-! ## The call -/

lemma acknowledges_entries_eq_nil_iff (annotations : GoMap String String) :
    (acknowledges annotations).entries = [] ↔ ∀ k ∈ annotations, acknowledgedID k = none := by
  constructor
  · intro h k hk
    by_contra hne
    obtain ⟨id, hid⟩ := Option.ne_none_iff_exists'.1 hne
    have := (acknowledges_isSome_iff annotations id).2 ⟨k, hk, hid⟩
    rw [AList.lookup, h] at this
    cases this
  · intro h
    rw [List.eq_nil_iff_forall_not_mem]
    rintro ⟨id, info⟩ hmem
    obtain ⟨hid, hinfo⟩ := lookup_acknowledges (AList.mem_lookup_iff.2 hmem)
    rw [h _ (AList.lookup_isSome.1 (by rw [hinfo]; rfl))] at hid
    cases hid

/-- The call after another iteration over the same annotations gives the same result. -/
structure SameResult (r r' : WorkloadNetworkPolicy × List AcknowledgedViolationRecord) : Prop where
  returned : r'.2 = r.2
  violations : r'.1.status.violations = r.1.status.violations
  acknowledgedViolations : r'.1.status.acknowledgedViolations = r.1.status.acknowledgedViolations
  annotations : r'.1.annotations.entries.Perm r.1.annotations.entries

lemma sameResult_of_namedOnce {w : WorkloadNetworkPolicy} (h : NamedOnce w) {annotations : GoMap String String}
    (hperm : annotations.entries.Perm w.annotations.entries) (now : Time) :
    SameResult (w.acknowledgeViolationsFromAnnotations now)
      ({ w with annotations := annotations }.acknowledgeViolationsFromAnnotations now) := by
  have hnil : (acknowledges annotations).entries = [] ↔ (acknowledges w.annotations).entries = [] := by
    rw [acknowledges_entries_eq_nil_iff, acknowledges_entries_eq_nil_iff]
    exact forall_congr' fun k => imp_congr_left (AList.mem_of_perm hperm)
  unfold WorkloadNetworkPolicy.acknowledgeViolationsFromAnnotations
  by_cases hw : (acknowledges w.annotations).entries = []
  · simp only [if_pos hw, if_pos (hnil.2 hw)]
    exact ⟨rfl, rfl, rfl, hperm⟩
  · simp only [if_neg hw, if_neg fun h' => hw (hnil.1 h')]
    have hmoved : (w.status.violations.filterMap fun v =>
        ((acknowledges annotations).lookup v.id).map fun info =>
          (info.1, (⟨v, info.2, now⟩ : AcknowledgedViolationRecord))) =
        w.status.violations.filterMap fun v =>
          ((acknowledges w.annotations).lookup v.id).map fun info => (info.1, ⟨v, info.2, now⟩) := by
      refine List.filterMap_congr fun v hv => ?_
      rw [lookup_acknowledges_of_perm h hperm hv]
    have hkept : w.status.deleteViolations (fun v => ((acknowledges annotations).lookup v.id).isSome) =
        w.status.deleteViolations fun v => ((acknowledges w.annotations).lookup v.id).isSome := by
      unfold WorkloadNetworkPolicyStatus.deleteViolations
      congr 1
      refine List.filter_congr fun v hv => ?_
      simp only [lookup_acknowledges_of_perm h hperm hv]
    rw [hmoved, hkept]
    exact ⟨rfl, rfl, rfl, GoMap.perm_foldl_erase Prod.fst _ hperm⟩

lemma isAcknowledged_iff {annotations : GoMap String String} {v : ViolationRecord} :
    isAcknowledged annotations v = true ↔ ∃ k ∈ annotations, acknowledgedID k = some v.id :=
  acknowledges_isSome_iff annotations v.id

/-- The keys that are left: those the call did not consume. -/
lemma mem_annotations_acknowledge (w : WorkloadNetworkPolicy) (now : Time) (k : String) :
    k ∈ (w.acknowledgeViolationsFromAnnotations now).1.annotations ↔
      k ∈ w.annotations ∧ k ∉ consumedKeys w.annotations w.status.violations := by
  rw [(acknowledge_spec w now).annotations, ← AList.lookup_isSome, GoMap.lookup_foldl_erase,
    ← AList.lookup_isSome]
  split
  · rename_i h
    simp [h]
  · rename_i h
    simp [h]

/-- The key that a violation consumes, if it is acknowledged. -/
lemma mem_consumedKeys {annotations : GoMap String String} {violations : List ViolationRecord}
    {k : String} : k ∈ consumedKeys annotations violations ↔ ∃ v ∈ violations, ∃ reason,
      (acknowledges annotations).lookup v.id = some (k, reason) := by
  simp [consumedKeys, List.mem_filterMap]

/-- A consumed key is the one that its identifier is acknowledged by. -/
lemma lookup_of_mem_consumedKeys {annotations : GoMap String String} {violations : List ViolationRecord}
    {k : String} {id : Int} (h : k ∈ consumedKeys annotations violations) (hid : acknowledgedID k = some id) :
    ∃ reason, (acknowledges annotations).lookup id = some (k, reason) := by
  obtain ⟨v, -, reason, hv⟩ := mem_consumedKeys.1 h
  have hidv := (lookup_acknowledges hv).1
  rw [hid] at hidv
  rw [← Option.some.inj hidv] at hv
  exact ⟨reason, hv⟩

/-- Named once, a violation consumes every key that names it. -/
lemma mem_consumedKeys_of_namedOnce {w : WorkloadNetworkPolicy} (h : NamedOnce w) {v : ViolationRecord}
    (hv : v ∈ w.status.violations) {k : String} (hk : k ∈ w.annotations) (hid : acknowledgedID k = some v.id) :
    k ∈ consumedKeys w.annotations w.status.violations := by
  obtain ⟨info, hinfo⟩ := Option.isSome_iff_exists.1
    ((acknowledges_isSome_iff w.annotations v.id).2 ⟨k, hk, hid⟩)
  obtain ⟨hidinfo, hlookup⟩ := lookup_acknowledges hinfo
  have hmem : info.1 ∈ w.annotations := AList.lookup_isSome.1 (by rw [hlookup]; rfl)
  have hkey : k = info.1 := h v hv k hk info.1 hmem hid hidinfo
  exact mem_consumedKeys.2 ⟨v, hv, info.2, by rw [hinfo, hkey]⟩

/-- **When acknowledging is exact.**  A call gives the same result for every order in which the
annotations are visited, moves exactly the violations that some key names, and leaves no key that names a
moved one, if and only if no two keys name the same active violation. -/
theorem acknowledge_exact_iff (w : WorkloadNetworkPolicy) (now : Time) :
    ((∀ annotations : GoMap String String, annotations.entries.Perm w.annotations.entries →
        SameResult (w.acknowledgeViolationsFromAnnotations now)
          ({ w with annotations := annotations }.acknowledgeViolationsFromAnnotations now)) ∧
      (∀ v, v ∈ (w.acknowledgeViolationsFromAnnotations now).2.map (·.violation) ↔
        v ∈ w.status.violations ∧ ∃ k ∈ w.annotations, acknowledgedID k = some v.id) ∧
      (∀ v, v ∈ (w.acknowledgeViolationsFromAnnotations now).1.status.violations ↔
        v ∈ w.status.violations ∧ ¬∃ k ∈ w.annotations, acknowledgedID k = some v.id) ∧
      ∀ k ∈ (w.acknowledgeViolationsFromAnnotations now).1.annotations,
        ∀ a ∈ (w.acknowledgeViolationsFromAnnotations now).2,
          acknowledgedID k ≠ some a.violation.id) ↔
    NamedOnce w := by
  have hspec := acknowledge_spec w now
  have hmoved : ∀ v, v ∈ (w.acknowledgeViolationsFromAnnotations now).2.map (·.violation) ↔
      v ∈ w.status.violations ∧ ∃ k ∈ w.annotations, acknowledgedID k = some v.id := by
    intro v
    rw [hspec.returned, List.mem_filter, isAcknowledged_iff]
  constructor
  · rintro ⟨-, -, -, hleft⟩ v hv k hk k' hk' hid hid'
    obtain ⟨a, ha, rfl⟩ := List.mem_map.1 ((hmoved v).2 ⟨hv, k, hk, hid⟩)
    -- a key that names a moved violation was consumed, as it would be left otherwise
    have hconsumed : ∀ j ∈ w.annotations, acknowledgedID j = some a.violation.id →
        j ∈ consumedKeys w.annotations w.status.violations := by
      intro j hj hidj
      by_contra hnot
      exact hleft j ((mem_annotations_acknowledge w now j).2 ⟨hj, hnot⟩) a ha hidj
    obtain ⟨r, hr⟩ := lookup_of_mem_consumedKeys (hconsumed k hk hid) hid
    obtain ⟨r', hr'⟩ := lookup_of_mem_consumedKeys (hconsumed k' hk' hid') hid'
    rw [hr, Option.some.injEq, Prod.mk.injEq] at hr'
    exact hr'.1
  · intro h
    refine ⟨fun annotations hperm => sameResult_of_namedOnce h hperm now, hmoved, ?_, ?_⟩
    · intro v
      rw [hspec.violations, List.mem_filter, Bool.not_eq_true', ← Bool.not_eq_true, isAcknowledged_iff]
    · intro k hk a ha hid
      obtain ⟨hmem, hnot⟩ := (mem_annotations_acknowledge w now k).1 hk
      have hv := ((hmoved a.violation).1 (List.mem_map_of_mem ha)).1
      exact hnot (mem_consumedKeys_of_namedOnce h hv hmem hid)

/-- Two spellings of the identifier 7: the reason is that of the annotation visited last, and the other
annotation stays although its violation is gone. -/
theorem acknowledge_two_spellings :
    let plain := violationAcknowledgePrefix ++ "7"
    let padded := violationAcknowledgePrefix ++ "07"
    let w : WorkloadNetworkPolicy :=
      { spec := ⟨⟨.istio, none, some { selector := { matchLabels := AList.singleton "app" "web" } }⟩,
          ⟨⟨workloadKindDeployment, "web"⟩, .ingress⟩, .monitor⟩
        status := { violations := [{ id := 7 }] } }
    let one : GoMap String String := (AList.singleton plain "expected").insert padded "a mistake"
    let other : GoMap String String := (AList.singleton padded "a mistake").insert plain "expected"
    one.entries.Perm other.entries ∧
      ({ w with annotations := one }.acknowledgeViolationsFromAnnotations 5).2.map AcknowledgedViolationRecord.reason =
        ["expected"] ∧
      ({ w with annotations := other }.acknowledgeViolationsFromAnnotations 5).2.map AcknowledgedViolationRecord.reason =
        ["a mistake"] ∧
      padded ∈ ({ w with annotations := one }.acknowledgeViolationsFromAnnotations 5).1.annotations ∧
      acknowledgedID padded = some 7 := by
  intro plain padded w one other
  refine ⟨List.Perm.swap _ _ _, by decide +kernel, by decide +kernel, ?_, by decide +kernel⟩
  exact AList.lookup_isSome.1 (by decide +kernel)

end NetworkEnforcer.Status
