import NetworkEnforcer.Lib.MergePatch
import NetworkEnforcer.Api.Objects

/-!
# Policies as JSON, and the patches between them

What `client.MergeFrom` sends and what the API server makes of it.  A policy is encoded by the members
that the program's patches can contain; name, labels, spec and so on are the same in the base and in
the modified object of every patch and never appear in one.  Empty members are omitted, and times are
cut to whole seconds.

The status subresource takes the status from a patched object, the main resource the metadata.  A patch
that names a resource version is refused when the stored one has moved.
-/

namespace NetworkEnforcer.Sync

open NetworkEnforcer.Lib NetworkEnforcer.Api

/-! ## Times as the API stores them -/

/-- The part of a time that RFC 3339 with seconds keeps. -/
def wholeSeconds (t : Time) : Time := t / 1000000000 * 1000000000

@[simp] lemma wholeSeconds_wholeSeconds (t : Time) : wholeSeconds (wholeSeconds t) = wholeSeconds t := by
  unfold wholeSeconds
  rw [Int.mul_ediv_cancel _ (by decide)]

/-- The record as it is read back. -/
def storedRecord (v : ViolationRecord) : ViolationRecord := { v with timestamp := wholeSeconds v.timestamp }

def storedAcknowledged (a : AcknowledgedViolationRecord) : AcknowledgedViolationRecord :=
  { a with violation := storedRecord a.violation, acknowledgedAt := wholeSeconds a.acknowledgedAt }

def storedCondition (c : Condition) : Condition :=
  { c with lastTransitionTime := wholeSeconds c.lastTransitionTime }

def storedStatus (s : WorkloadNetworkPolicyStatus) : WorkloadNetworkPolicyStatus :=
  { s with
    conditions := s.conditions.map storedCondition
    violations := s.violations.map storedRecord
    acknowledgedViolations := s.acknowledgedViolations.map storedAcknowledged }

/-- What was read back once does not change any more. -/
lemma storedStatus_storedStatus {s : WorkloadNetworkPolicyStatus} {conditions : List Condition}
    (h : conditions.map storedCondition = conditions) :
    storedStatus { storedStatus s with conditions := conditions } =
      { storedStatus s with conditions := conditions } := by
  simp [storedStatus, storedRecord, storedAcknowledged, h]

/-! ## Encoding -/

/-- The JSON values inside a policy; a list is one value. -/
inductive Value where
  | text (s : String)
  | int (n : Int)
  | conditions (l : List Condition)
  | violations (l : List ViolationRecord)
  | acknowledgedViolations (l : List AcknowledgedViolationRecord)
  deriving DecidableEq

/-- `omitempty` on a list. -/
def omitNil {α : Type} (f : List α → Value) (l : List α) : Option Value :=
  if l = [] then none else some (f l)

/-- `omitempty` on a number. -/
def omitZero (n : Int) : Option Value := if n = 0 then none else some (.int n)

/-- The members of a status, omitted ones included. -/
def statusMembers (s : WorkloadNetworkPolicyStatus) : List (String × Option Value) :=
  [("conditions", omitNil .conditions (s.conditions.map storedCondition)),
   ("observedGeneration", omitZero s.observedGeneration),
   ("violationCount", some (.int s.violationCount)),
   ("activeViolationCount", some (.int s.activeViolationCount)),
   ("violations", omitNil .violations (s.violations.map storedRecord)),
   ("acknowledgedViolations",
      omitNil .acknowledgedViolations (s.acknowledgedViolations.map storedAcknowledged))]

/-- An object of values, without the members that are omitted. -/
def encodeMembers (l : List (String × Option Value)) : List (String × Json Value) :=
  Json.present (l.map fun e => (e.1, e.2.map .leaf))

def encodeAnnotations (annotations : GoMap String String) : List (String × Json Value) :=
  annotations.entries.map fun e => (e.1, .leaf (.text e.2))

def metadataMembers (m : ObjectMeta) : List (String × Option (Json Value)) :=
  [("resourceVersion", (omitZero m.resourceVersion).map .leaf),
   ("annotations", if m.annotations.entries = [] then none else some (.obj (encodeAnnotations m.annotations)))]

def encode (w : WorkloadNetworkPolicy) : List (String × Json Value) :=
  [("metadata", .obj (Json.present (metadataMembers w.toObjectMeta))),
   ("status", .obj (encodeMembers (statusMembers w.status)))]

/-! ## Decoding -/

/-- The value under a name, if it is one. -/
def valueAt (k : String) (l : List (String × Json Value)) : Option Value := (Json.get k l).bind Json.value

def Value.toInt : Option Value → Int
  | some (.int n) => n
  | _ => 0

def Value.toConditions : Option Value → List Condition
  | some (.conditions l) => l
  | _ => []

def Value.toViolations : Option Value → List ViolationRecord
  | some (.violations l) => l
  | _ => []

def Value.toAcknowledgedViolations : Option Value → List AcknowledgedViolationRecord
  | some (.acknowledgedViolations l) => l
  | _ => []

def decodeStatus (l : List (String × Json Value)) : WorkloadNetworkPolicyStatus where
  conditions := Value.toConditions (valueAt "conditions" l)
  observedGeneration := Value.toInt (valueAt "observedGeneration" l)
  violationCount := Value.toInt (valueAt "violationCount" l)
  activeViolationCount := Value.toInt (valueAt "activeViolationCount" l)
  violations := Value.toViolations (valueAt "violations" l)
  acknowledgedViolations := Value.toAcknowledgedViolations (valueAt "acknowledgedViolations" l)

/-- The string a member holds. -/
def toText (j : Json Value) : Option String :=
  match j with
  | .leaf (.text v) => some v
  | _ => none

/-- A string map; the server refuses members that are not strings. -/
def decodeAnnotations (l : List (String × Json Value)) : GoMap String String :=
  (l.filterMap fun e => (toText e.2).map fun v => (⟨e.1, v⟩ : Sigma fun _ : String => String)).toAList

/-- The members of the member under a name. -/
def membersAt (k : String) (l : List (String × Json Value)) : List (String × Json Value) :=
  Json.members (Json.get k l)

/-! ## Patches -/

/-- `client.MergeFrom(base)`, for the modified object `new`. -/
def mergeFrom (base new : WorkloadNetworkPolicy) : List (String × Json Value) :=
  Json.createMergePatch (encode base) (encode new)

/-- `client.MergeFromWithOptimisticLock`: the patch names the resource version of its base. -/
def mergeFromWithOptimisticLock (base new : WorkloadNetworkPolicy) : List (String × Json Value) :=
  mergeFrom { base with resourceVersion := 0 } { new with resourceVersion := base.resourceVersion }

/-- The resource version that the patched object would have is not the stored one. -/
def conflicts (patch : List (String × Json Value)) (stored : WorkloadNetworkPolicy) : Bool :=
  valueAt "resourceVersion" (membersAt "metadata" (Json.mergeFields (encode stored) patch)) ≠
    omitZero stored.resourceVersion

/-- A patch of the status subresource. -/
def patchStatus (patch : List (String × Json Value)) (stored : WorkloadNetworkPolicy) :
    WorkloadNetworkPolicy :=
  let status := decodeStatus (membersAt "status" (Json.mergeFields (encode stored) patch))
  { stored with
    status := status
    resourceVersion := if status = stored.status then stored.resourceVersion else stored.resourceVersion + 1 }

/-- A patch of the object itself. -/
def patchObject (patch : List (String × Json Value)) (stored : WorkloadNetworkPolicy) :
    WorkloadNetworkPolicy :=
  let annotations := decodeAnnotations
    (membersAt "annotations" (membersAt "metadata" (Json.mergeFields (encode stored) patch)))
  { stored with
    annotations := annotations
    resourceVersion := if annotations.entries = stored.annotations.entries then stored.resourceVersion
      else stored.resourceVersion + 1 }

@[simp] lemma patchStatus_key (patch : List (String × Json Value)) (stored : WorkloadNetworkPolicy) :
    (patchStatus patch stored).key = stored.key := rfl

@[simp] lemma patchObject_key (patch : List (String × Json Value)) (stored : WorkloadNetworkPolicy) :
    (patchObject patch stored).key = stored.key := rfl

@[simp] lemma patchObject_spec (patch : List (String × Json Value)) (stored : WorkloadNetworkPolicy) :
    (patchObject patch stored).spec = stored.spec := rfl

@[simp] lemma patchObject_status (patch : List (String × Json Value)) (stored : WorkloadNetworkPolicy) :
    (patchObject patch stored).status = stored.status := rfl

end NetworkEnforcer.Sync
