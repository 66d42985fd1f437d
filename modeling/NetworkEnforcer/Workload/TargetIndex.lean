import NetworkEnforcer.Lib.Strconv
import NetworkEnforcer.Api.Errors

/-!
# Looking policies up by what they target (`internal/workload/target_index.go`)

Policies are indexed under a text made of kind, name and direction.  `TargetReader` is the client's
cached `List` by that index, with the one law the program relies on.  The text is `Unambiguous` when
names have no slash, and also when kinds have none; then `lookupWNPByTarget` finds exactly the
policies with the given target (`lookupWNPByTarget_spec`).
-/

namespace NetworkEnforcer.Workload

open NetworkEnforcer.Lib NetworkEnforcer.Api

def wnpTargetIndexKey (kind : WorkloadKind) (name : String) (direction : PolicyType) : String :=
  kind ++ "/" ++ name ++ "/" ++ direction.text

def indexWNPByTarget (wnp : WorkloadNetworkPolicy) : List String :=
  let ref := wnp.spec.targetRef
  if ref.kind = "" || ref.name = "" || wnp.spec.direction = .unset then []
  else [wnpTargetIndexKey ref.kind ref.name wnp.spec.direction]

/-- A client whose cache has the index `WNPTargetIndexField` registered. -/
structure TargetReader where
  /-- The policies in the cache. -/
  wnps : List WorkloadNetworkPolicy
  /-- `List` with `InNamespace` and `MatchingFields` on the index. -/
  listByTarget (ns key : String) : Except Err (List WorkloadNetworkPolicy)
  /-- A list that succeeds has exactly the policies of the namespace under the key, in some order. -/
  listByTarget_ok {ns key : String} {items : List WorkloadNetworkPolicy} :
    listByTarget ns key = .ok items →
      items.Perm (wnps.filter fun w => w.ns = ns && key ∈ indexWNPByTarget w)

/-- A cache that always answers. -/
def TargetReader.ofList (wnps : List WorkloadNetworkPolicy) : TargetReader where
  wnps := wnps
  listByTarget ns key := .ok (wnps.filter fun w => w.ns = ns && key ∈ indexWNPByTarget w)
  listByTarget_ok h := List.Perm.of_eq (Except.ok.inj h).symm

/-- The errors of `LookupWNPByTarget`; the last two wrap `ErrTargetNotFound` and `ErrDuplicateTarget`. -/
inductive LookupError where
  | listing (ns : String) (err : Err)
  | targetNotFound (kind : WorkloadKind) (ns name : String) (direction : PolicyType)
  | duplicateTarget (kind : WorkloadKind) (ns name : String) (direction : PolicyType)
      (names : List String)
  deriving DecidableEq, Repr

/-- The message of an error. -/
def LookupError.text : LookupError → String
  | .listing ns err => "listing WorkloadNetworkPolicies in namespace " ++ ns ++ ": " ++ err.text
  | .targetNotFound kind ns name direction =>
    "no WorkloadNetworkPolicy targets the workload and direction: " ++ kind ++ " " ++ ns ++ "/" ++
      name ++ " " ++ direction.text
  | .duplicateTarget kind ns name direction names =>
    "multiple WorkloadNetworkPolicies share the same targetRef and direction: " ++ kind ++ " " ++ ns ++
      "/" ++ name ++ " " ++ direction.text ++ ": " ++ ", ".intercalate names

def lookupWNPByTarget (c : TargetReader) (ns : String) (kind : WorkloadKind) (name : String)
    (direction : PolicyType) : Except LookupError WorkloadNetworkPolicy :=
  match c.listByTarget ns (wnpTargetIndexKey kind name direction) with
  | .error err => .error (.listing ns err)
  | .ok [] => .error (.targetNotFound kind ns name direction)
  | .ok [wnp] => .ok wnp
  | .ok wnps => .error (.duplicateTarget kind ns name direction (wnps.map (·.name)))

/-! ## The index says what the policy targets -/

/-- The policy targets this workload in this direction. -/
def targets (ns : String) (ref : WorkloadTargetRef) (direction : PolicyType)
    (wnp : WorkloadNetworkPolicy) : Bool :=
  wnp.ns = ns && wnp.spec.targetRef = ref && wnp.spec.direction = direction

lemma targets_iff {ns : String} {ref : WorkloadTargetRef} {d : PolicyType} {wnp : WorkloadNetworkPolicy} :
    targets ns ref d wnp = true ↔ wnp.ns = ns ∧ wnp.spec.targetRef = ref ∧ wnp.spec.direction = d := by
  simp only [targets, ← Bool.decide_and, decide_eq_true_eq, and_assoc]

/-- A triple that policies are indexed under. -/
structure Complete (ref : WorkloadTargetRef) (direction : PolicyType) : Prop where
  kind : ref.kind ≠ ""
  name : ref.name ≠ ""
  direction : direction ≠ .unset

lemma slash_notMem_text (d : PolicyType) : '/' ∉ d.text.toList := by
  cases d <;> decide

lemma text_injective {d d' : PolicyType} (h : d.text = d'.text) : d = d' := by
  revert h
  cases d <;> cases d' <;> decide

lemma toList_wnpTargetIndexKey (kind : WorkloadKind) (name : String) (d : PolicyType) :
    (wnpTargetIndexKey kind name d).toList = (kind.toList ++ '/' :: name.toList) ++ '/' :: d.text.toList := by
  have hsep : "/".toList = ['/'] := rfl
  simp only [wnpTargetIndexKey, String.toList_append, hsep, List.append_assoc, List.cons_append,
    List.nil_append]

/-- Only the policies with this target are indexed under its key. -/
def Unambiguous (wnps : List WorkloadNetworkPolicy) (ref : WorkloadTargetRef) (d : PolicyType) : Prop :=
  ∀ w ∈ wnps, wnpTargetIndexKey ref.kind ref.name d ∈ indexWNPByTarget w →
    w.spec.targetRef = ref ∧ w.spec.direction = d

/-- The key a policy is indexed under, and that its target is complete. -/
lemma mem_indexWNPByTarget {wnp : WorkloadNetworkPolicy} {key : String} :
    key ∈ indexWNPByTarget wnp ↔ Complete wnp.spec.targetRef wnp.spec.direction ∧
      key = wnpTargetIndexKey wnp.spec.targetRef.kind wnp.spec.targetRef.name wnp.spec.direction := by
  unfold indexWNPByTarget
  simp only
  split
  · rename_i h
    refine ⟨fun hmem => absurd hmem List.not_mem_nil, fun hc => ?_⟩
    simp [hc.1.kind, hc.1.name, hc.1.direction] at h
  · rename_i h
    simp only [Bool.or_eq_true, decide_eq_true_eq, not_or] at h
    rw [List.mem_singleton]
    exact ⟨fun he => ⟨⟨h.1.1, h.1.2, h.2⟩, he⟩, fun he => he.2⟩

/-- What a key that is shared leaves open: where the kind ends and the name starts. -/
lemma unambiguous_of_split {wnps : List WorkloadNetworkPolicy} {ref : WorkloadTargetRef} {d : PolicyType}
    (h : ∀ w ∈ wnps, ref.kind.toList ++ '/' :: ref.name.toList =
        w.spec.targetRef.kind.toList ++ '/' :: w.spec.targetRef.name.toList →
      ref.kind.toList = w.spec.targetRef.kind.toList ∧ ref.name.toList = w.spec.targetRef.name.toList) :
    Unambiguous wnps ref d := by
  intro w hmem hkey
  have hl := congrArg String.toList (mem_indexWNPByTarget.1 hkey).2
  rw [toList_wnpTargetIndexKey, toList_wnpTargetIndexKey] at hl
  obtain ⟨hl, hd⟩ := append_cons_inj_of_last (slash_notMem_text _) (slash_notMem_text _) hl
  obtain ⟨hk, hname⟩ := h w hmem hl
  refine ⟨?_, (text_injective (String.toList_injective hd)).symm⟩
  exact congrArg₂ WorkloadTargetRef.mk (String.toList_injective hk.symm) (String.toList_injective hname.symm)

/-- **Names without a slash**: the last two slashes of a key are the separators. -/
theorem unambiguous_of_names {wnps : List WorkloadNetworkPolicy} {ref : WorkloadTargetRef} (d : PolicyType)
    (hn : '/' ∉ ref.name.toList) (hw : ∀ w ∈ wnps, '/' ∉ w.spec.targetRef.name.toList) :
    Unambiguous wnps ref d :=
  unambiguous_of_split fun w hmem hl => append_cons_inj_of_last hn (hw w hmem) hl

/-- **Kinds without a slash**: the first and the last slash of a key are the separators. -/
theorem unambiguous_of_kinds {wnps : List WorkloadNetworkPolicy} {ref : WorkloadTargetRef} (d : PolicyType)
    (hn : '/' ∉ ref.kind.toList) (hw : ∀ w ∈ wnps, '/' ∉ w.spec.targetRef.kind.toList) :
    Unambiguous wnps ref d :=
  unambiguous_of_split fun w hmem hl => append_cons_inj_of_first hn (hw w hmem) hl

/-- The kinds the API admits in a target. -/
def supportedKinds : List WorkloadKind :=
  [workloadKindDeployment, workloadKindStatefulSet, workloadKindDaemonSet]

lemma slash_notMem_kind {k : WorkloadKind} (h : k ∈ supportedKinds) : '/' ∉ k.toList := by
  revert k
  decide

lemma unambiguous_of_supportedKinds {wnps : List WorkloadNetworkPolicy} {ref : WorkloadTargetRef}
    (d : PolicyType) (h : ref.kind ∈ supportedKinds)
    (hkinds : ∀ w ∈ wnps, w.spec.targetRef.kind ∈ supportedKinds) : Unambiguous wnps ref d :=
  unambiguous_of_kinds d (slash_notMem_kind h) fun w hw => slash_notMem_kind (hkinds w hw)

lemma Unambiguous.mem_iff {wnps : List WorkloadNetworkPolicy} {ref : WorkloadTargetRef} {d : PolicyType}
    (hu : Unambiguous wnps ref d) (hc : Complete ref d) {w : WorkloadNetworkPolicy} (hw : w ∈ wnps) :
    wnpTargetIndexKey ref.kind ref.name d ∈ indexWNPByTarget w ↔
      w.spec.targetRef = ref ∧ w.spec.direction = d := by
  refine ⟨hu w hw, ?_⟩
  rintro ⟨rfl, rfl⟩
  exact mem_indexWNPByTarget.2 ⟨hc, rfl⟩

/-- What a successful `List` by a complete target returns. -/
lemma TargetReader.perm_filter_targets {c : TargetReader} {ns : String} {ref : WorkloadTargetRef}
    {d : PolicyType} {items : List WorkloadNetworkPolicy} (hc : Complete ref d)
    (hu : Unambiguous c.wnps ref d)
    (h : c.listByTarget ns (wnpTargetIndexKey ref.kind ref.name d) = .ok items) :
    items.Perm (c.wnps.filter (targets ns ref d)) := by
  refine (c.listByTarget_ok h).trans (List.Perm.of_eq (List.filter_congr fun w hmem => ?_))
  rw [Bool.eq_iff_iff, targets_iff, ← hu.mem_iff hc hmem]
  simp

/-- **`LookupWNPByTarget` finds the policies with the target**: one, none or several, or it fails. -/
theorem lookupWNPByTarget_spec {c : TargetReader} {ref : WorkloadTargetRef} {d : PolicyType}
    (hc : Complete ref d) (hu : Unambiguous c.wnps ref d) (ns : String) :
    (∃ w, lookupWNPByTarget c ns ref.kind ref.name d = .ok w ∧ c.wnps.filter (targets ns ref d) = [w]) ∨
    (lookupWNPByTarget c ns ref.kind ref.name d = .error (.targetNotFound ref.kind ns ref.name d) ∧
      c.wnps.filter (targets ns ref d) = []) ∨
    (∃ names, lookupWNPByTarget c ns ref.kind ref.name d =
        .error (.duplicateTarget ref.kind ns ref.name d names) ∧
      2 ≤ (c.wnps.filter (targets ns ref d)).length) ∨
    (∃ err, lookupWNPByTarget c ns ref.kind ref.name d = .error (.listing ns err) ∧
      c.listByTarget ns (wnpTargetIndexKey ref.kind ref.name d) = .error err) := by
  unfold lookupWNPByTarget
  cases hl : c.listByTarget ns (wnpTargetIndexKey ref.kind ref.name d) with
  | error err => exact .inr (.inr (.inr ⟨err, rfl, rfl⟩))
  | ok items =>
    have hperm := TargetReader.perm_filter_targets hc hu hl
    match items with
    | [] => exact .inr (.inl ⟨rfl, hperm.nil_eq.symm⟩)
    | [w] => exact .inl ⟨w, rfl, hperm.singleton_eq.symm⟩
    | a :: b :: rest =>
      refine .inr (.inr (.inl ⟨_, rfl, ?_⟩))
      rw [← hperm.length_eq]
      simp

end NetworkEnforcer.Workload
