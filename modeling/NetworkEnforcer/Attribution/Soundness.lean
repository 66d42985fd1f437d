import NetworkEnforcer.Attribution.Attribute

/-!
# Attribution is sound, and the report does not matter

`attributeViolation_cases` says what the chain does for an observation with a subject that passed the
duplicate gate: either the reported policy targets the subject and decides, or the lookup does.

* `attributeViolation_sound` — snapshot and cache may differ in any way; whatever the chain returns
  targets the subject and is unique in both.
* `attributeViolation_eq` — when they hold the same policies, the chain is the
  plain lookup by target, whatever policy the data plane reported.
-/

namespace NetworkEnforcer.Attribution

open NetworkEnforcer.Lib NetworkEnforcer.Api NetworkEnforcer.Workload

/-! ## The subject -/

/-- What `violationSubject` returns. -/
structure IsSubject (obs : Observation) (s : WorkloadRef) : Prop where
  side : (obs.direction = .egress ∧ s = obs.source) ∨ (obs.direction = .ingress ∧ s = obs.dest)
  ns : s.ns ≠ ""
  name : s.ownerName ≠ ""
  supported : s.isSupported = true

lemma violationSubject_spec {obs : Observation} {s : WorkloadRef} (h : violationSubject obs = some s) :
    IsSubject obs s := by
  unfold violationSubject at h
  obtain ⟨hs, hok⟩ := Option.filter_eq_some_iff.1 h
  simp only [Bool.not_or, Bool.and_eq_true, Bool.not_eq_true', decide_eq_false_iff_not, Bool.not_not] at hok
  refine ⟨?_, hok.1.1, hok.1.2, hok.2⟩
  cases hd : obs.direction <;> rw [hd] at hs
  · exact .inr ⟨rfl, (Option.some.inj hs).symm⟩
  · exact .inl ⟨rfl, (Option.some.inj hs).symm⟩
  · cases hs

lemma IsSubject.complete {obs : Observation} {s : WorkloadRef} (h : IsSubject obs s) :
    Complete (targetRefOf s) obs.direction where
  kind hk := by
    have := h.supported
    simp [WorkloadRef.isSupported, show s.ownerKind = "" from hk, workloadKindDeployment,
      workloadKindStatefulSet, workloadKindDaemonSet] at this
  name := h.name
  direction hd := by rcases h.side with ⟨h', -⟩ | ⟨h', -⟩ <;> simp [h'] at hd

lemma IsSubject.kind_mem {obs : Observation} {s : WorkloadRef} (h : IsSubject obs s) :
    (targetRefOf s).kind ∈ supportedKinds := by
  have := h.supported
  simpa [WorkloadRef.isSupported, supportedKinds, targetRefOf, or_assoc] using this

/-! ## Duplicates -/

lemma mem_duplicateTargets {snap : Snapshot} {t : WnpTarget} :
    t ∈ duplicateTargets snap ↔ 1 < (snap.values.filterMap wnpTargetKey).count t := by
  rw [← GoMap.lookup_tally, duplicateTargets, List.mem_map]
  constructor
  · rintro ⟨⟨k, n⟩, hmem, rfl⟩
    obtain ⟨hmem, hn⟩ := List.mem_filter.1 hmem
    rw [AList.mem_lookup_iff.2 hmem]
    simpa using hn
  · intro h
    cases hl : (GoMap.tally (snap.values.filterMap wnpTargetKey)).lookup t with
    | none => simp [hl] at h
    | some n =>
      refine ⟨⟨t, n⟩, List.mem_filter.2 ⟨AList.mem_lookup_iff.1 hl, ?_⟩, rfl⟩
      simpa [hl] using h

lemma wnpTargetKey_eq_some_iff {w : WorkloadNetworkPolicy} {ns key : String} :
    wnpTargetKey w = some ⟨ns, key⟩ ↔ w.ns = ns ∧ key ∈ indexWNPByTarget w := by
  unfold wnpTargetKey indexWNPByTarget
  simp only
  split <;> simp [eq_comm]

/-- **The duplicate gate**: a target is gated iff two policies of the snapshot have it. -/
theorem mem_duplicateTargets_iff {snap : Snapshot} {ref : WorkloadTargetRef} {d : PolicyType}
    (hc : Complete ref d) (hu : Unambiguous snap.values ref d) (ns : String) :
    (⟨ns, wnpTargetIndexKey ref.kind ref.name d⟩ : WnpTarget) ∈ duplicateTargets snap ↔
      2 ≤ (snap.values.filter (targets ns ref d)).length := by
  rw [mem_duplicateTargets, List.count, List.countP_filterMap, List.countP_eq_length_filter]
  have hfilter : (snap.values.filter fun w => ((wnpTargetKey w).map
      (· == (⟨ns, wnpTargetIndexKey ref.kind ref.name d⟩ : WnpTarget))).getD false) =
      snap.values.filter (targets ns ref d) := by
    refine List.filter_congr fun w hw => ?_
    rw [Bool.eq_iff_iff, targets_iff, ← hu.mem_iff hc hw,
      ← wnpTargetKey_eq_some_iff]
    cases wnpTargetKey w <;> simp
  rw [hfilter]
  rfl

/-! ## The chain -/

lemma reportedOwningWNP_lookup {c : IndexedCache} {obs : Observation}
    {ownedIndex : GoMap NamespacedName (Option NamespacedName)} {snap : Snapshot} {w : WorkloadNetworkPolicy}
    (h : reportedOwningWNP c obs ownedIndex snap = some w) :
    snap.lookup w.key = some w := by
  -- every branch ends in a lookup in the snapshot
  have hlookup : ∃ k, snap.lookup k = some w := by
    unfold reportedOwningWNP at h
    simp only at h
    split at h
    · cases h
    · split at h
      · split at h
        · rename_i hw _
          split at h
          · exact ⟨_, hw.trans h⟩
          · cases h
        · cases h
      · split at h
        · cases h
        · exact ⟨_, h⟩
        · exact ⟨_, h⟩
  obtain ⟨k, hk⟩ := hlookup
  exact Store.mem_values.1 (Store.mem_of_lookup hk)

/-- What the uniqueness check on the cache can answer. -/
lemma targetDuplicated_spec {c : IndexedCache} {s : WorkloadRef} {d : PolicyType}
    (hc : Complete (targetRefOf s) d) (hu : Unambiguous c.wnps (targetRefOf s) d) :
    (targetDuplicated c s d = .ok true ∧ 2 ≤ (c.wnps.filter (targets s.ns (targetRefOf s) d)).length) ∨
    (targetDuplicated c s d = .ok false ∧ (c.wnps.filter (targets s.ns (targetRefOf s) d)).length ≤ 1) ∨
    (∃ key err e, targetDuplicated c s d = .error e ∧ c.listByTarget s.ns key = .error err) := by
  unfold targetDuplicated
  rcases lookupWNPByTarget_spec hc hu s.ns with ⟨w, hl, hf⟩ | ⟨hl, hf⟩ | ⟨names, hl, hf⟩ | ⟨err, hl, hf⟩
  all_goals simp only [targetRefOf] at hl hf ⊢; rw [hl]
  · exact .inr (.inl ⟨rfl, by rw [hf]; rfl⟩)
  · exact .inr (.inl ⟨rfl, by rw [hf]; exact Nat.zero_le 1⟩)
  · exact .inl ⟨rfl, hf⟩
  · exact .inr (.inr ⟨_, err, _, rfl, hf⟩)

/-- **What the chain does** for a subject that passed the duplicate gate. -/
theorem attributeViolation_cases {c : IndexedCache} {obs : Observation}
    {ownedIndex : GoMap NamespacedName (Option NamespacedName)} {snap : Snapshot}
    {duplicates : List WnpTarget} {s : WorkloadRef} (hs : violationSubject obs = some s)
    (hd : ⟨s.ns, wnpTargetIndexKey s.ownerKind s.ownerName obs.direction⟩ ∉ duplicates) :
    (attributeViolation c obs ownedIndex snap duplicates).1 = attributeByTarget c snap s obs.direction ∨
    ∃ w, snap.lookup w.key = some w ∧
      targets s.ns (targetRefOf s) obs.direction w = true ∧
      ((∃ e, targetDuplicated c s obs.direction = .error e ∧
          (attributeViolation c obs ownedIndex snap duplicates).1 = .error .lookupFailed) ∨
        (targetDuplicated c s obs.direction = .ok true ∧
          (attributeViolation c obs ownedIndex snap duplicates).1 = .error .duplicateTargetPolicy) ∨
        (targetDuplicated c s obs.direction = .ok false ∧
          (attributeViolation c obs ownedIndex snap duplicates).1 = .ok w.key)) := by
  simp only [attributeViolation, hs, if_neg hd]
  cases hr : reportedOwningWNP c obs ownedIndex snap with
  | none => exact .inl rfl
  | some w =>
    simp only [attributeReportedPolicy]
    by_cases ht : w.ns = s.ns ∧ w.spec.targetRef.kind = s.ownerKind ∧ w.spec.targetRef.name = s.ownerName
    · by_cases hdir : w.spec.direction = obs.direction
      · have hw : targets s.ns (targetRefOf s) obs.direction w = true := by
          refine targets_iff.2 ⟨ht.1, ?_, hdir⟩
          exact congrArg₂ WorkloadTargetRef.mk ht.2.1 ht.2.2
        refine .inr ⟨w, reportedOwningWNP_lookup hr, hw, ?_⟩
        simp only [ht, hdir, decide_true, Bool.and_self, Bool.not_true, Bool.false_eq_true, if_false,
          ne_eq, not_true_eq_false]
        cases hdup : targetDuplicated c s obs.direction with
        | error e => exact .inl ⟨e, rfl, rfl⟩
        | ok b => cases b with
          | true => exact .inr (.inl ⟨rfl, rfl⟩)
          | false => exact .inr (.inr ⟨rfl, rfl⟩)
      · simp [ht, hdir]
    · left
      rw [if_pos (by grind)]

/-- The lookup by target answers with keys of the snapshot only. -/
lemma attributeByTarget_known {c : IndexedCache} {snap : Snapshot} {s : WorkloadRef} {d : PolicyType}
    {K : NamespacedName} (h : attributeByTarget c snap s d = .ok K) : (snap.lookup K).isSome := by
  unfold attributeByTarget at h
  split at h
  · cases h
  · cases h
  · cases h
  · split at h
    · rename_i hk
      rwa [← Except.ok.inj h]
    · cases h

/-- **An observation is attributed to a policy of the snapshot**, whatever the cache holds. -/
theorem attributeViolation_known {c : IndexedCache} {obs : Observation}
    {ownedIndex : GoMap NamespacedName (Option NamespacedName)} {snap : Snapshot}
    {duplicates : List WnpTarget} {K : NamespacedName}
    (h : (attributeViolation c obs ownedIndex snap duplicates).1 = .ok K) : (snap.lookup K).isSome := by
  cases hs : violationSubject obs with
  | none => simp [attributeViolation, hs] at h
  | some s =>
    by_cases hd : ⟨s.ns, wnpTargetIndexKey s.ownerKind s.ownerName obs.direction⟩ ∈ duplicates
    · simp [attributeViolation, hs, hd] at h
    rcases attributeViolation_cases hs hd with hfall | ⟨w, hw, -, ⟨_, -, he⟩ | ⟨-, he⟩ | ⟨-, he⟩⟩
    · exact attributeByTarget_known (hfall.symm.trans h)
    · rw [he] at h; cases h
    · rw [he] at h; cases h
    · rw [he] at h
      rw [← Except.ok.inj h, hw]
      rfl

/-! ## Soundness -/

/-- What is guaranteed of an observation attributed to `K`. -/
structure SoundAttribution (c : IndexedCache) (snap : Snapshot) (obs : Observation) (K : NamespacedName)
    (s : WorkloadRef) : Prop where
  subject : IsSubject obs s
  /-- `K` is a key of the snapshot. -/
  known : (snap.lookup K).isSome
  /-- It targets the subject, in the snapshot or in the cache. -/
  targeted : (∃ w, snap.lookup K = some w ∧ targets s.ns (targetRefOf s) obs.direction w = true) ∨
    ∃ w ∈ c.wnps, w.key = K ∧ targets s.ns (targetRefOf s) obs.direction w = true
  /-- Neither view has two policies for the subject. -/
  unique_snapshot : (snap.values.filter (targets s.ns (targetRefOf s) obs.direction)).length ≤ 1
  unique_cache : (c.wnps.filter (targets s.ns (targetRefOf s) obs.direction)).length ≤ 1

lemma attributeByTarget_ok {c : IndexedCache} {snap : Snapshot} {s : WorkloadRef} {d : PolicyType}
    {K : NamespacedName} (hc : Complete (targetRefOf s) d)
    (hu : Unambiguous c.wnps (targetRefOf s) d) (h : attributeByTarget c snap s d = .ok K) :
    (snap.lookup K).isSome ∧
      ∃ w, c.wnps.filter (targets s.ns (targetRefOf s) d) = [w] ∧ w.key = K := by
  unfold attributeByTarget at h
  rcases lookupWNPByTarget_spec hc hu s.ns with ⟨w, hl, hf⟩ | ⟨hl, hf⟩ | ⟨names, hl, hf⟩ | ⟨err, hl, hf⟩
  all_goals simp only [targetRefOf] at hl; rw [hl] at h; simp only at h
  · split at h
    · rename_i hk
      obtain rfl := Except.ok.inj h
      exact ⟨hk, w, hf, rfl⟩
    · cases h
  all_goals cases h

/-- **Attribution soundness.**  For every snapshot, every ownership index built from it and every cache,
an observation that is attributed has a supported subject, and the policy it is attributed to targets
that subject and has no rival in either view. -/
theorem attributeViolation_sound (c : IndexedCache) (snap : Snapshot) (nps : List NetworkPolicy)
    (obs : Observation) (K : NamespacedName)
    (hcache : ∀ w ∈ c.wnps, '/' ∉ w.spec.targetRef.name.toList)
    (hsnap : ∀ w ∈ snap.values, '/' ∉ w.spec.targetRef.name.toList)
    (hobs : ∀ s, violationSubject obs = some s → '/' ∉ s.ownerName.toList)
    (h : (attributeViolation c obs (buildOwnershipIndex nps snap) snap (duplicateTargets snap)).1 = .ok K) :
    ∃ s, SoundAttribution c snap obs K s := by
  cases hs : violationSubject obs with
  | none => simp [attributeViolation, hs] at h
  | some s =>
    have hsub := violationSubject_spec hs
    have hucache : Unambiguous c.wnps (targetRefOf s) obs.direction :=
      unambiguous_of_names _ (hobs s hs) hcache
    have husnap : Unambiguous snap.values (targetRefOf s) obs.direction :=
      unambiguous_of_names _ (hobs s hs) hsnap
    by_cases hd : ⟨s.ns, wnpTargetIndexKey s.ownerKind s.ownerName obs.direction⟩ ∈ duplicateTargets snap
    · simp [attributeViolation, hs, hd] at h
    have hunique := mt (mem_duplicateTargets_iff hsub.complete husnap s.ns).2 hd
    refine ⟨s, ?_⟩
    rcases attributeViolation_cases hs hd with hfall | ⟨w, hw, ht, hrep⟩
    · obtain ⟨hknown, w, hf, rfl⟩ := attributeByTarget_ok hsub.complete hucache (hfall.symm.trans h)
      have hmem : w ∈ c.wnps.filter (targets s.ns (targetRefOf s) obs.direction) := by simp [hf]
      obtain ⟨hmem, ht⟩ := List.mem_filter.1 hmem
      exact ⟨hsub, hknown, .inr ⟨w, hmem, rfl, ht⟩, by omega, by rw [hf]; rfl⟩
    · rcases hrep with ⟨e, -, he⟩ | ⟨-, he⟩ | ⟨hdup, he⟩
      · rw [he] at h; cases h
      · rw [he] at h; cases h
      · rw [he] at h
        obtain rfl := Except.ok.inj h
        rcases targetDuplicated_spec hsub.complete hucache with ⟨h', -⟩ | ⟨-, hle⟩ | ⟨_, _, _, h', -⟩
        · rw [hdup] at h'; cases h'
        · exact ⟨hsub, by rw [hw]; rfl, .inl ⟨w, hw, ht⟩, by omega, hle⟩
        · rw [hdup] at h'; cases h'

/-- The policy of a deployment. -/
def webPolicy : WorkloadNetworkPolicy where
  ns := "shop"
  name := "web-in"
  uid := "u1"
  spec := { backend := .kubernetes
            kubernetes := some { podSelector := { matchLabels := AList.singleton "app" "web" }
                                 policyTypes := [.ingress] }
            targetRef := ⟨workloadKindDeployment, "web"⟩, direction := .ingress }

/-- An observation of traffic to that deployment that names the policy. -/
def webObservation : Observation where
  dest := { ns := "shop", ownerKind := workloadKindDeployment, ownerName := "web" }
  denyingPolicyNamespace := "shop"
  denyingPolicyName := "web-in"
  provider := .kubernetes
  direction := .ingress

/-- The reported network policy is owned by the policy of the subject. -/
theorem attributeViolation_sound_owned :
    ∃ s, SoundAttribution ⟨.ofList [webPolicy], fun _ => none⟩ (wnpByKey [webPolicy]) webObservation
      ⟨"shop", "web-in"⟩ s := by
  refine attributeViolation_sound ⟨.ofList [webPolicy], fun _ => none⟩ (wnpByKey [webPolicy])
    [{ ns := "shop", name := "web-in", ownerReferences :=
      [⟨groupVersion, workloadNetworkPolicyKind, "web-in", "u1", some true⟩] }]
    webObservation ⟨"shop", "web-in"⟩ ?_ ?_ ?_ rfl
  · decide
  · decide
  · decide

/-! ## The plain lookup -/

/-- Attribution by the target alone: the unique policy that targets the subject in that direction. -/
def attributeByTargetRef (wnps : List WorkloadNetworkPolicy) (obs : Observation) :
    Except UnattributedReason NamespacedName :=
  match violationSubject obs with
  | none => .error .unknownSubject
  | some s =>
    match wnps.filter (targets s.ns (targetRefOf s) obs.direction) with
    | [] => .error .noTargetPolicy
    | [w] => .ok w.key
    | _ => .error .duplicateTargetPolicy

lemma attributeByTargetRef_of_two {wnps : List WorkloadNetworkPolicy} {obs : Observation} {s : WorkloadRef}
    (hs : violationSubject obs = some s)
    (h : 2 ≤ (wnps.filter (targets s.ns (targetRefOf s) obs.direction)).length) :
    attributeByTargetRef wnps obs = .error .duplicateTargetPolicy := by
  simp only [attributeByTargetRef, hs]
  split
  · rename_i hf; simp [hf] at h
  · rename_i hf; simp [hf] at h
  · rfl

/-- The report is not part of what the lookup reads. -/
lemma attributeByTargetRef_congr (wnps : List WorkloadNetworkPolicy) {obs obs' : Observation}
    (hdir : obs.direction = obs'.direction) (hsrc : obs.source = obs'.source) (hdst : obs.dest = obs'.dest) :
    attributeByTargetRef wnps obs = attributeByTargetRef wnps obs' := by
  have hs : violationSubject obs = violationSubject obs' := by
    simp only [violationSubject, hdir, hsrc, hdst]
  simp only [attributeByTargetRef, hs, hdir]

lemma attributeByTargetRef_eq_ok {wnps : List WorkloadNetworkPolicy} {obs : Observation} {key : NamespacedName} :
    attributeByTargetRef wnps obs = .ok key ↔ ∃ s wnp, violationSubject obs = some s ∧
      wnps.filter (targets s.ns (targetRefOf s) obs.direction) = [wnp] ∧ wnp.key = key := by
  unfold attributeByTargetRef
  cases violationSubject obs with
  | none => exact iff_of_false (fun h => by cases h) (by rintro ⟨_, _, hs, -⟩; cases hs)
  | some s =>
    dsimp only
    split
    next hnil =>
      refine iff_of_false (fun h => by cases h) ?_
      rintro ⟨_, wnp, hs, hone, -⟩
      obtain rfl := Option.some.inj hs
      rw [hnil] at hone
      cases hone
    next wnp hone =>
      constructor
      · exact fun h => ⟨s, wnp, rfl, hone, Except.ok.inj h⟩
      · rintro ⟨_, wnp', hs, hone', rfl⟩
        obtain rfl := Option.some.inj hs
        rw [List.singleton_injective (hone.symm.trans hone')]
    next hnil hmany =>
      refine iff_of_false (fun h => by cases h) ?_
      rintro ⟨_, wnp, hs, hone, -⟩
      obtain rfl := Option.some.inj hs
      exact hmany wnp hone

section SameWNPs

variable {c : IndexedCache} {snap : Snapshot} (hsame : c.wnps.Perm snap.values)
  (hlist : ∀ ns key, ∃ items, c.listByTarget ns key = .ok items)

include hsame hlist

lemma attributeByTarget_eq {obs : Observation} {s : WorkloadRef} (hs : violationSubject obs = some s)
    (hu : Unambiguous c.wnps (targetRefOf s) obs.direction) :
    attributeByTarget c snap s obs.direction = attributeByTargetRef snap.values obs := by
  have hsub := violationSubject_spec hs
  have hperm := hsame.filter (targets s.ns (targetRefOf s) obs.direction)
  rcases lookupWNPByTarget_spec hsub.complete hu s.ns with
    ⟨w, hl, hf⟩ | ⟨hl, hf⟩ | ⟨names, hl, hf⟩ | ⟨err, hl, hf⟩
  · -- the policy the cache has is the one in the snapshot
    rw [hf] at hperm
    have hmem : w ∈ c.wnps := (List.mem_filter.1 (hf ▸ List.mem_singleton_self w)).1
    have hk := Store.mem_values.1 (hsame.mem_iff.1 hmem)
    simp only [targetRefOf] at hl hperm
    simp [attributeByTarget, attributeByTargetRef, hs, hl, targetRefOf, hperm.singleton_eq.symm, hk]
  · rw [hf] at hperm
    simp only [targetRefOf] at hl hperm
    simp [attributeByTarget, attributeByTargetRef, hs, hl, targetRefOf, hperm.nil_eq.symm]
  · rw [attributeByTargetRef_of_two hs (hperm.length_eq ▸ hf)]
    simp only [targetRefOf] at hl
    simp [attributeByTarget, hl]
  · obtain ⟨items, hitems⟩ := hlist s.ns (wnpTargetIndexKey s.ownerKind s.ownerName obs.direction)
    exact absurd (hf.symm.trans hitems) (by simp)

/-- **The chain is the plain lookup** when cache and snapshot hold the same policies. -/
theorem attributeViolation_eq (obs : Observation)
    (ownedIndex : GoMap NamespacedName (Option NamespacedName))
    (hkinds : ∀ w ∈ c.wnps, w.spec.targetRef.kind ∈ supportedKinds) :
    (attributeViolation c obs ownedIndex snap (duplicateTargets snap)).1 =
      attributeByTargetRef snap.values obs := by
  cases hs : violationSubject obs with
  | none => simp [attributeViolation, attributeByTargetRef, hs]
  | some s =>
    have hsub := violationSubject_spec hs
    have hu := unambiguous_of_supportedKinds obs.direction hsub.kind_mem hkinds
    have hgate := mem_duplicateTargets_iff hsub.complete (fun w hw => hu w (hsame.mem_iff.2 hw)) s.ns
    by_cases hd : ⟨s.ns, wnpTargetIndexKey s.ownerKind s.ownerName obs.direction⟩ ∈ duplicateTargets snap
    · rw [attributeByTargetRef_of_two hs (hgate.1 hd)]
      simp [attributeViolation, hs, hd]
    rcases attributeViolation_cases hs hd with hfall | ⟨w, hw, ht, hrep⟩
    · rw [hfall, attributeByTarget_eq hsame hlist hs hu]
    · -- the reported policy targets the subject: it is the only one that does
      have hmem : w ∈ snap.values.filter (targets s.ns (targetRefOf s) obs.direction) :=
        List.mem_filter.2 ⟨Store.mem_of_lookup hw, ht⟩
      have hlt := mt hgate.2 hd
      obtain ⟨a, ha⟩ := List.length_eq_one_iff.1
        (show (snap.values.filter (targets s.ns (targetRefOf s) obs.direction)).length = 1 by
          have := List.length_pos_of_mem hmem
          omega)
      obtain rfl : w = a := by simpa [ha] using hmem
      have hplain : attributeByTargetRef snap.values obs = .ok w.key := by
        simp [attributeByTargetRef, hs, ha]
      have hlen := (hsame.filter (targets s.ns (targetRefOf s) obs.direction)).length_eq
      rcases targetDuplicated_spec hsub.complete hu with ⟨-, h2⟩ | ⟨hdup, -⟩ | ⟨key, err, _, -, herr⟩
      · omega
      · rcases hrep with ⟨e, h', -⟩ | ⟨h', -⟩ | ⟨-, he⟩
        · rw [hdup] at h'; cases h'
        · rw [hdup] at h'; cases h'
        · rw [he, hplain]
      · obtain ⟨items, hitems⟩ := hlist s.ns key
        exact absurd (herr.symm.trans hitems) (by simp)

end SameWNPs

/-- **The report cannot change the attribution.**  With the same policies in cache and snapshot and
lookups that do not fail, all targets of the kinds the API admits, two observations of the same flow and
direction are attributed alike, and as the plain lookup says, whatever policy and provider they report. -/
theorem attributeViolation_report_irrelevant (c : IndexedCache) (snap : Snapshot)
    (nps : List NetworkPolicy) (hsame : c.wnps.Perm snap.values)
    (hlist : ∀ ns key, ∃ items, c.listByTarget ns key = .ok items)
    (hkinds : ∀ w ∈ c.wnps, w.spec.targetRef.kind ∈ supportedKinds) (obs obs' : Observation)
    (hdir : obs.direction = obs'.direction) (hsrc : obs.source = obs'.source) (hdst : obs.dest = obs'.dest) :
    (attributeViolation c obs (buildOwnershipIndex nps snap) snap (duplicateTargets snap)).1 =
        (attributeViolation c obs' (buildOwnershipIndex nps snap) snap (duplicateTargets snap)).1 ∧
      (attributeViolation c obs (buildOwnershipIndex nps snap) snap (duplicateTargets snap)).1 =
        attributeByTargetRef snap.values obs := by
  have h := attributeViolation_eq hsame hlist obs (buildOwnershipIndex nps snap) hkinds
  have h' := attributeViolation_eq hsame hlist obs' (buildOwnershipIndex nps snap) hkinds
  exact ⟨by rw [h, h', attributeByTargetRef_congr _ hdir hsrc hdst], h⟩

/-- The same flow reported by another provider, under the name of a policy that does not exist. -/
theorem attributeViolation_report_irrelevant_unknown :
    let c : IndexedCache := ⟨.ofList [webPolicy], fun _ => none⟩
    let snap := wnpByKey [webPolicy]
    let obs' := { webObservation with denyingPolicyName := "other", provider := .istio }
    (attributeViolation c webObservation (buildOwnershipIndex [] snap) snap (duplicateTargets snap)).1 =
        (attributeViolation c obs' (buildOwnershipIndex [] snap) snap (duplicateTargets snap)).1 ∧
      (attributeViolation c webObservation (buildOwnershipIndex [] snap) snap (duplicateTargets snap)).1 =
        attributeByTargetRef snap.values webObservation := by
  intro c snap obs'
  have hsame : c.wnps.Perm snap.values := List.Perm.refl _
  exact attributeViolation_report_irrelevant c snap [] hsame (fun _ _ => ⟨_, rfl⟩) (by decide)
    webObservation obs' rfl rfl rfl

end NetworkEnforcer.Attribution
