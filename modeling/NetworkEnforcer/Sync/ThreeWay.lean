import Mathlib.Algebra.Order.Ring.Int
import NetworkEnforcer.Sync.Patch

/-!
# What a patch between two policies does to a third one

The patch is computed from a snapshot and applied to the object that is stored by then.

* `patchStatus_status` — a status patch is a three-way merge, field by field;
* `conflicts_mergeFrom_of_eq`, `conflicts_mergeFromWithOptimisticLock` — when a patch is refused;
* `lookup_patchObject` — a patch of the object is a three-way merge, annotation by annotation, unless it
  removes the whole map.
-/

namespace NetworkEnforcer.Sync

open NetworkEnforcer.Lib NetworkEnforcer.Api

/-! ## Member by member -/

lemma names_encode_nodup (w : WorkloadNetworkPolicy) : (Json.names (encode w)).Nodup := by
  simp [Json.names, encode]

lemma names_encodeMembers_nodup {l : List (String × Option Value)} (h : (Json.names l).Nodup) :
    (Json.names (encodeMembers l)).Nodup := by
  have hsub := Json.names_present_sublist (l.map fun e => (e.1, e.2.map (Json.leaf (α := Value))))
  refine List.Nodup.sublist hsub ?_
  simpa [Json.names, Function.comp_def] using h

lemma get_map_snd {β γ : Type} (f : β → γ) (k : String) (l : List (String × β)) :
    Json.get k (l.map fun e => (e.1, f e.2)) = (Json.get k l).map f := by
  induction l with
  | nil => rfl
  | cons e l ih =>
    rw [List.map_cons, Json.get_cons, ih]
    obtain ⟨k', v⟩ := e
    rw [Json.get_cons]
    split <;> rfl

lemma get_encodeMembers {l : List (String × Option Value)} (h : (Json.names l).Nodup) (k : String) :
    Json.get k (encodeMembers l) = (Json.get k l).join.map Json.leaf := by
  have hn : (Json.names (l.map fun e => (e.1, e.2.map (Json.leaf (α := Value))))).Nodup := by
    simpa [Json.names, Function.comp_def] using h
  rw [encodeMembers, Json.get_present hn, get_map_snd]
  cases Json.get k l with
  | none => rfl
  | some o => rfl

lemma names_statusMembers_nodup (s : WorkloadNetworkPolicyStatus) :
    (Json.names (statusMembers s)).Nodup := by
  simp [Json.names, statusMembers]

lemma names_metadataMembers_nodup (m : ObjectMeta) : (Json.names (metadataMembers m)).Nodup := by
  simp [Json.names, metadataMembers]

/-- A member of a status. -/
def statusMember (k : String) (s : WorkloadNetworkPolicyStatus) : Option Value :=
  (Json.get k (statusMembers s)).join

/-- The value a three-way merge leaves: the new one where it differs from the base. -/
def merge3 {α : Type} [DecidableEq α] (base new stored : α) : α := if base = new then stored else new

@[simp] lemma merge3_stored {α : Type} [DecidableEq α] (base new : α) : merge3 base new base = new := by
  unfold merge3
  split
  · assumption
  · rfl

@[simp] lemma merge3_unchanged {α : Type} [DecidableEq α] (base stored : α) :
    merge3 base base stored = stored :=
  if_pos rfl

/-- The merge of encoded values, decoded. -/
lemma merge3_decode {α β : Type} [DecidableEq α] [DecidableEq β] {e : β → α} {d : α → β}
    (h : ∀ x, d (e x) = x) (b n s : β) : d (merge3 (e b) (e n) (e s)) = merge3 b n s := by
  unfold merge3
  by_cases hbn : b = n
  · rw [if_pos hbn, if_pos (congrArg e hbn), h]
  · have henc : e b ≠ e n := fun he => hbn (by rw [← h b, he, h n])
    rw [if_neg hbn, if_neg henc, h]

/-- The members of an object that both sides of a patch have. -/
lemma get_membersAt_mergeFields {k : String} {b n base new : List (String × Json Value)}
    (hb : (Json.names base).Nodup) (hn : (Json.names new).Nodup) (hbo : Json.get k base = some (.obj b))
    (hno : Json.get k new = some (.obj n)) (hbn : (Json.names b).Nodup) (hnn : (Json.names n).Nodup)
    (stored : List (String × Json Value)) (k' : String) :
    Json.get k' (membersAt k (Json.mergeFields stored (Json.createMergePatch base new))) =
      Json.patchMember (Json.get k' (membersAt k stored))
        (Json.diffMember (Json.get k' b) (Json.get k' n)) := by
  unfold membersAt
  rw [Json.get_mergeFields_createMergePatch hb hn, hbo, hno]
  exact Json.get_members_patchMember hbn hnn _ k'

lemma get_status_encode (w : WorkloadNetworkPolicy) :
    Json.get "status" (encode w) = some (.obj (encodeMembers (statusMembers w.status))) := by
  simp [encode, Json.get_cons]

lemma get_metadata_encode (w : WorkloadNetworkPolicy) :
    Json.get "metadata" (encode w) = some (.obj (Json.present (metadataMembers w.toObjectMeta))) := by
  simp [encode, Json.get_cons]

/-- A member of the status after a patch. -/
lemma valueAt_status_patched (k : String) (base new stored : WorkloadNetworkPolicy) :
    valueAt k (membersAt "status" (Json.mergeFields (encode stored) (mergeFrom base new))) =
      merge3 (statusMember k base.status) (statusMember k new.status) (statusMember k stored.status) := by
  have hnodup := fun w : WorkloadNetworkPolicy =>
    names_encodeMembers_nodup (names_statusMembers_nodup w.status)
  have h := get_membersAt_mergeFields (names_encode_nodup base) (names_encode_nodup new)
    (get_status_encode base) (get_status_encode new) (hnodup base) (hnodup new) (encode stored) k
  have hstored : membersAt "status" (encode stored) = encodeMembers (statusMembers stored.status) := by
    rw [membersAt, get_status_encode]
    rfl
  simp only [hstored, get_encodeMembers (names_statusMembers_nodup _), Json.patchMember_diffMember_leaf] at h
  unfold valueAt mergeFrom
  rw [h]
  unfold merge3 statusMember
  split <;> exact Json.bind_value_map_leaf _

/-! ## The status -/

lemma toInt_omitZero (n : Int) : Value.toInt (omitZero n) = n := by
  unfold omitZero
  split
  · rename_i h; rw [h]; rfl
  · rfl

/-- A list that is omitted when it is empty, decoded. -/
lemma decode_omitNil {α : Type} {f : List α → Value} {d : Option Value → List α} (hnone : d none = [])
    (hsome : ∀ l, d (some (f l)) = l) (l : List α) : d (omitNil f l) = l := by
  unfold omitNil
  split
  · rename_i h; rw [h]; exact hnone
  · exact hsome l

/-- The three-way merge of two statuses of one object into a third one. -/
def mergeStatus (base new stored : WorkloadNetworkPolicyStatus) : WorkloadNetworkPolicyStatus where
  conditions := merge3 base.conditions new.conditions stored.conditions
  observedGeneration := merge3 base.observedGeneration new.observedGeneration stored.observedGeneration
  violationCount := merge3 base.violationCount new.violationCount stored.violationCount
  activeViolationCount := merge3 base.activeViolationCount new.activeViolationCount
    stored.activeViolationCount
  violations := merge3 base.violations new.violations stored.violations
  acknowledgedViolations := merge3 base.acknowledgedViolations new.acknowledgedViolations
    stored.acknowledgedViolations

/-- **A status patch is a three-way merge.** -/
theorem patchStatus_status (base new stored : WorkloadNetworkPolicy) :
    (patchStatus (mergeFrom base new) stored).status =
      mergeStatus (storedStatus base.status) (storedStatus new.status) (storedStatus stored.status) := by
  simp only [patchStatus, decodeStatus, valueAt_status_patched, mergeStatus,
    WorkloadNetworkPolicyStatus.mk.injEq]
  refine ⟨?_, ?_, ?_, ?_, ?_, ?_⟩
  · exact merge3_decode (decode_omitNil rfl fun _ => rfl) _ _ _
  · exact merge3_decode toInt_omitZero _ _ _
  · exact merge3_decode (e := fun n => some (Value.int n)) (fun _ => rfl) _ _ _
  · exact merge3_decode (e := fun n => some (Value.int n)) (fun _ => rfl) _ _ _
  · exact merge3_decode (decode_omitNil rfl fun _ => rfl) _ _ _
  · exact merge3_decode (decode_omitNil rfl fun _ => rfl) _ _ _

/-! ## The resource version -/

lemma membersAt_metadata_encode (w : WorkloadNetworkPolicy) :
    membersAt "metadata" (encode w) = Json.present (metadataMembers w.toObjectMeta) := by
  rw [membersAt, get_metadata_encode]
  rfl

lemma get_metadata (k : String) (m : ObjectMeta) :
    Json.get k (Json.present (metadataMembers m)) = (Json.get k (metadataMembers m)).join :=
  Json.get_present (names_metadataMembers_nodup m) k

/-- A member of the metadata after a patch. -/
lemma get_metadata_patched (k : String) (base new stored : WorkloadNetworkPolicy) :
    Json.get k (membersAt "metadata" (Json.mergeFields (encode stored) (mergeFrom base new))) =
      Json.patchMember (Json.get k (metadataMembers stored.toObjectMeta)).join
        (Json.diffMember (Json.get k (metadataMembers base.toObjectMeta)).join
          (Json.get k (metadataMembers new.toObjectMeta)).join) := by
  have hnodup := fun w : WorkloadNetworkPolicy => (names_metadataMembers_nodup w.toObjectMeta).sublist
    (Json.names_present_sublist _)
  have h := get_membersAt_mergeFields (names_encode_nodup base) (names_encode_nodup new)
    (get_metadata_encode base) (get_metadata_encode new) (hnodup base) (hnodup new) (encode stored) k
  rw [membersAt_metadata_encode, get_metadata, get_metadata, get_metadata] at h
  exact h

lemma get_resourceVersion (m : ObjectMeta) :
    (Json.get "resourceVersion" (metadataMembers m)).join =
      (omitZero m.resourceVersion).map Json.leaf := by
  simp [metadataMembers, Json.get_cons]

lemma conflicts_mergeFrom (base new stored : WorkloadNetworkPolicy) :
    conflicts (mergeFrom base new) stored =
      decide (merge3 (omitZero base.resourceVersion) (omitZero new.resourceVersion)
        (omitZero stored.resourceVersion) ≠ omitZero stored.resourceVersion) := by
  unfold conflicts valueAt
  rw [get_metadata_patched, get_resourceVersion, get_resourceVersion, get_resourceVersion,
    Json.patchMember_diffMember_leaf]
  congr 2
  unfold merge3
  split <;> simp

/-- A patch between two objects of one version never conflicts. -/
theorem conflicts_mergeFrom_of_eq {base new : WorkloadNetworkPolicy}
    (h : new.resourceVersion = base.resourceVersion) (stored : WorkloadNetworkPolicy) :
    conflicts (mergeFrom base new) stored = false := by
  rw [conflicts_mergeFrom, h, merge3_unchanged]
  simp

/-- **The optimistic lock**: the patch is refused when the version has moved. -/
theorem conflicts_mergeFromWithOptimisticLock {base : WorkloadNetworkPolicy}
    (h : base.resourceVersion ≠ 0) (new stored : WorkloadNetworkPolicy) :
    conflicts (mergeFromWithOptimisticLock base new) stored =
      decide (base.resourceVersion ≠ stored.resourceVersion) := by
  have hz : ∀ n : Nat, n ≠ 0 → omitZero n = some (.int n) := fun n hn => by
    rw [omitZero, if_neg (by exact_mod_cast hn)]
  unfold mergeFromWithOptimisticLock
  rw [conflicts_mergeFrom, hz _ h]
  have hnone : omitZero ((0 : Nat) : Int) = none := rfl
  simp only [hnone, merge3]
  by_cases hs : stored.resourceVersion = 0
  · rw [hs, hnone]
    simp [h]
  · rw [hz _ hs]
    simp

/-! ## The annotations -/

/-- The annotations as a member of the metadata; an empty map is omitted. -/
def annotationsMember (annotations : GoMap String String) : Option (Json Value) :=
  if annotations.entries = [] then none else some (.obj (encodeAnnotations annotations))

lemma get_annotations (m : ObjectMeta) :
    (Json.get "annotations" (metadataMembers m)).join = annotationsMember m.annotations := by
  simp [metadataMembers, Json.get_cons, annotationsMember]

lemma members_annotationsMember (annotations : GoMap String String) :
    Json.members (annotationsMember annotations) = encodeAnnotations annotations := by
  unfold annotationsMember
  split
  · rename_i hnil
    rw [encodeAnnotations, hnil]
    rfl
  · rfl

lemma names_encodeAnnotations_nodup (annotations : GoMap String String) :
    (Json.names (encodeAnnotations annotations)).Nodup := by
  have h : (annotations.entries.map Sigma.fst).Nodup := annotations.keys_nodup
  simpa [Json.names, encodeAnnotations, Function.comp_def] using h

lemma get_encodeAnnotations (annotations : GoMap String String) (k : String) :
    Json.get k (encodeAnnotations annotations) =
      (annotations.lookup k).map fun v => Json.leaf (Value.text v) := by
  unfold encodeAnnotations AList.lookup
  induction annotations.entries with
  | nil => rfl
  | cons e l ih =>
    obtain ⟨k', v⟩ := e
    rw [List.map_cons, Json.get_cons, ih]
    by_cases hk : k = k'
    · subst hk
      simp
    · rw [if_neg hk, List.dlookup_cons_ne _ _ hk]

lemma lookup_decodeAnnotations {l : List (String × Json Value)} (h : (Json.names l).Nodup) (k : String) :
    (decodeAnnotations l).lookup k = (Json.get k l).bind toText := by
  unfold decodeAnnotations
  rw [List.toAList, AList.lookup, List.dlookup_dedupKeys]
  induction l with
  | nil => rfl
  | cons e l ih =>
    obtain ⟨k', v⟩ := e
    simp only [Json.names, List.map_cons, List.nodup_cons] at h
    have ih := ih h.2
    rw [List.filterMap_cons, Json.get_cons]
    by_cases hk : k = k'
    · subst hk
      have hnone : Json.get k l = none := Json.get_eq_none_iff.2 h.1
      cases ht : toText v with
      | none => simpa [hnone, ht] using ih
      | some t => simp [ht]
    · rw [if_neg hk, ← ih]
      cases ht : toText v with
      | none => rfl
      | some t => exact List.dlookup_cons_ne _ _ hk

/-- Patching a string is a three-way merge. -/
lemma patchMember_text (b n s : Option String) :
    Json.patchMember (s.map fun v => Json.leaf (Value.text v))
      (Json.diffMember (b.map fun v => Json.leaf (Value.text v)) (n.map fun v => Json.leaf (Value.text v))) =
      (merge3 b n s).map fun v => Json.leaf (Value.text v) := by
  have h := Json.patchMember_diffMember_leaf (s.map fun v => Json.leaf (Value.text v)) (b.map Value.text)
    (n.map Value.text)
  have hinj : Function.Injective (Option.map Value.text) :=
    Option.map_injective fun _ _ => Value.text.inj
  simp only [Option.map_map, Function.comp_def, hinj.eq_iff] at h
  rw [h, merge3]
  split <;> rfl

/-- An annotation after a patch.  The patch removes the whole map when the modified object has no
annotation left and the base had some. -/
lemma get_annotations_patched (base new stored : GoMap String String) (k : String) :
    Json.get k (Json.members (Json.patchMember (annotationsMember stored)
        (Json.diffMember (annotationsMember base) (annotationsMember new)))) =
      if base.entries ≠ [] ∧ new.entries = [] then none
      else (merge3 (base.lookup k) (new.lookup k) (stored.lookup k)).map fun v =>
        Json.leaf (Value.text v) := by
  have hempty : ∀ m : GoMap String String, m.entries = [] → m.lookup k = none := fun m hm => by
    rw [AList.lookup, hm]
    rfl
  have hnodup := names_encodeAnnotations_nodup new
  by_cases hn : new.entries = []
  · have hnew : annotationsMember new = none := if_pos hn
    by_cases hb : base.entries = []
    · -- nothing to say
      have hbase : annotationsMember base = none := if_pos hb
      rw [hbase, hnew, if_neg fun h => h.1 hb, hempty base hb, hempty new hn, merge3_unchanged,
        ← get_encodeAnnotations, ← members_annotationsMember]
      rfl
    · -- the map has become empty: it is removed as a whole
      have hbase : annotationsMember base = some (.obj (encodeAnnotations base)) := if_neg hb
      rw [hbase, hnew, if_pos ⟨hb, hn⟩]
      rfl
  · have hnew : annotationsMember new = some (.obj (encodeAnnotations new)) := if_neg hn
    rw [if_neg fun h => hn h.2, ← patchMember_text, ← get_encodeAnnotations, ← get_encodeAnnotations,
      ← get_encodeAnnotations, ← members_annotationsMember stored]
    by_cases hb : base.entries = []
    · have hbase : annotationsMember base = none := if_pos hb
      have hnone : Json.get k (encodeAnnotations base) = none := by
        rw [get_encodeAnnotations, hempty base hb]
        rfl
      rw [hbase, hnew, hnone, Json.diffMember, Json.patchMember_obj]
      refine (Json.get_mergeFields hnodup _ k).trans ?_
      cases Json.get k (encodeAnnotations new) <;> rfl
    · have hbase : annotationsMember base = some (.obj (encodeAnnotations base)) := if_neg hb
      rw [hbase, hnew]
      exact Json.get_members_patchMember (names_encodeAnnotations_nodup base) hnodup _ k

/-- The base has annotations, the modified object has none. -/
def Emptied (base new : WorkloadNetworkPolicy) : Prop :=
  base.annotations.entries ≠ [] ∧ new.annotations.entries = []

instance (base new : WorkloadNetworkPolicy) : Decidable (Emptied base new) :=
  inferInstanceAs (Decidable (_ ∧ _))

/-- **A patch of the object, annotation by annotation.** -/
theorem lookup_patchObject (base new stored : WorkloadNetworkPolicy) (k : String) :
    (patchObject (mergeFrom base new) stored).annotations.lookup k =
      if Emptied base new then none
      else merge3 (base.annotations.lookup k) (new.annotations.lookup k) (stored.annotations.lookup k) := by
  have hnodup := names_encodeAnnotations_nodup stored.annotations
  rw [← members_annotationsMember] at hnodup
  have hpatched := get_metadata_patched "annotations" base new stored
  simp only [get_annotations] at hpatched
  simp only [patchObject]
  rw [membersAt, hpatched, lookup_decodeAnnotations (Json.names_members_patchMember_nodup hnodup _),
    get_annotations_patched]
  by_cases h : Emptied base new
  · rw [if_pos h, if_pos (show base.annotations.entries ≠ [] ∧ new.annotations.entries = [] from h)]
    rfl
  · rw [if_neg h, if_neg (show ¬(base.annotations.entries ≠ [] ∧ new.annotations.entries = []) from h)]
    cases merge3 (base.annotations.lookup k) (new.annotations.lookup k) (stored.annotations.lookup k) <;> rfl

end NetworkEnforcer.Sync
