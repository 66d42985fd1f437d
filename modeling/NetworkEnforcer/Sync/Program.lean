import NetworkEnforcer.Lib.Program
import NetworkEnforcer.Ringbuf.Buffer
import NetworkEnforcer.Api.Errors
import NetworkEnforcer.Api.ViolationRecord
import NetworkEnforcer.Attribution.Attribute
import NetworkEnforcer.Sync.Patch

/-!
# The status sync (`internal/controller/workloadnetworkpolicystatus_sync.go`)

`sync` is the sequential program of one cycle; whatever it asks of the cluster, the buffer, the metrics,
the clock and the event log is a `Request`.  `Answers` says how a request can be answered and what it
does to the `World`, `Interference` what everybody else may do in between: the scrapers record
observations, users edit policies, the reconciler writes conditions.

The world keeps some history that the program does not see, to state what a run has done.
-/

namespace NetworkEnforcer.Sync

open NetworkEnforcer.Lib NetworkEnforcer.Api NetworkEnforcer.Attribution NetworkEnforcer.Ringbuf

/-! ## Requests -/

inductive Request where
  /-- `List` of the policies, and of the network policies. -/
  | listWNPs
  | listNetworkPolicies
  /-- `violationBuffer.Drain`. -/
  | drain
  /-- What the client's cache holds when an observation is attributed. -/
  | cache
  | recordUnattributed (obs : Observation) (reason : UnattributedReason)
  | recordDisagreement (obs : Observation)
  /-- `time.Now`. -/
  | now
  /-- `Status().Patch` and `Patch`, both with `MergeFrom(base)`. -/
  | statusPatch (obj base : WorkloadNetworkPolicy)
  | patch (obj base : WorkloadNetworkPolicy)
  /-- `eventLogger.Emit` of a `policy_violation_acknowledged` event. -/
  | emit (ack : AcknowledgedViolationRecord)
  /-- A nil pointer is dereferenced: there is no answer. -/
  | crash

/-- The answer to a request. -/
@[reducible] def Request.Resp : Request → Type
  | listWNPs => Except Err (List WorkloadNetworkPolicy)
  | listNetworkPolicies => Except Err (List NetworkPolicy)
  | drain => List Observation
  | cache => IndexedCache
  | recordUnattributed .. => PUnit
  | recordDisagreement .. => PUnit
  | now => Time
  | statusPatch .. => Option Err
  | patch .. => Option Err
  | emit .. => PUnit
  | crash => Empty

/-- A program of the sync. -/
abbrev SyncM (α : Type) : Type := Prog Request.Resp α

def ask (r : Request) : SyncM r.Resp := Prog.ask r

/-! ## Correlating -/

/-- The policies an observation is attributed to, with the records they get. -/
abbrev ViolationsByWNP : Type := GoMap NamespacedName (List ViolationRecord)

/-- The record of an observation names the policy it belongs to. -/
def violationRecord (wnpKey : NamespacedName) (obs : Observation) : ViolationRecord :=
  { obs.toViolationInfo with denyingPolicyNamespace := wnpKey.ns, denyingPolicyName := wnpKey.name }

/-- One turn of the loop of `correlateViolationsToWNPs`. -/
def correlateViolation (ownedIndex : GoMap NamespacedName (Option NamespacedName)) (snap : Snapshot)
    (duplicates : List WnpTarget) (result : ViolationsByWNP) (obs : Observation) :
    SyncM ViolationsByWNP := do
  let c ← ask .cache
  let attributed := attributeViolation c obs ownedIndex snap duplicates
  if attributed.2 then
    ask (.recordDisagreement obs)
  match attributed.1 with
  | .error reason =>
    ask (.recordUnattributed obs reason)
    return result
  | .ok wnpKey => return result.push wnpKey (violationRecord wnpKey obs)

def correlateViolationsToWNPs (scraped : List Observation)
    (ownedIndex : GoMap NamespacedName (Option NamespacedName)) (snap : Snapshot)
    (duplicates : List WnpTarget) : SyncM ViolationsByWNP :=
  scraped.foldlM (correlateViolation ownedIndex snap duplicates) ∅

/-! ## Processing one policy -/

def emitAcknowledgedViolations (acknowledgements : List AcknowledgedViolationRecord) : SyncM PUnit :=
  acknowledgements.forM fun ack => ask (.emit ack)

def processWorkloadNetworkPolicy (lib : Apimachinery) (wnp : WorkloadNetworkPolicy)
    (violations : List ViolationRecord) : SyncM (Option Err) := do
  let now ← ask .now
  match wnp.recomputeStatus lib violations now with
  | none =>
    let stuck ← ask .crash
    nomatch stuck
  | some (newPolicy, acknowledged) =>
    match ← ask (.statusPatch newPolicy wnp) with
    | some err =>
      return some (.wrap ("failed to patch WorkloadNetworkPolicy status for " ++ wnp.key.text) err)
    | none =>
      emitAcknowledgedViolations acknowledged
      match ← ask (.patch newPolicy wnp) with
      | some err =>
        return some (.wrap ("failed to patch WorkloadNetworkPolicy annotations for " ++ wnp.key.text) err)
      | none => return none

/-! ## One cycle -/

def sync (lib : Apimachinery) : SyncM (Option Err) := do
  match ← ask .listWNPs with
  | .error err => return some (.wrap "failed to list WorkloadNetworkPolicies" err)
  | .ok items =>
    let snap := wnpByKey items
    match ← ask .listNetworkPolicies with
    | .error err =>
      return some (.wrap "failed to build ownership index" (.wrap "failed to list NetworkPolicies" err))
    | .ok nps =>
      let ownedIndex := buildOwnershipIndex nps snap
      let observations ← ask .drain
      let duplicates := duplicateTargets snap
      let violationsByWNP ← correlateViolationsToWNPs observations ownedIndex snap duplicates
      if snap.values.isEmpty then return none
      else
        -- an error of one policy is logged and does not stop the others
        snap.values.forM fun wnp => do
          let _ ← processWorkloadNetworkPolicy lib wnp ((violationsByWNP.lookup wnp.key).getD [])
        return none

/-! ## The world -/

structure World where
  buffer : Buffer Observation
  stored : Store WorkloadNetworkPolicy.key
  /-- The increments of the two attribution counters. -/
  unattributed : List (Observation × UnattributedReason) := []
  disagreements : List Observation := []
  /-- The event log, newest first. -/
  emitted : List AcknowledgedViolationRecord := []
  /-- History: the calls of `Record`, and those that overwrote an older observation. -/
  recorded : Nat := 0
  overwritten : Nat := 0
  /-- History: the status patches that failed, with the object and its base. -/
  refused : List (WorkloadNetworkPolicy × WorkloadNetworkPolicy) := []

/-- A patch that succeeds is applied to the stored object; one that fails changes nothing. -/
def PatchAnswers (obj base : WorkloadNetworkPolicy)
    (apply : List (String × Json Value) → WorkloadNetworkPolicy → WorkloadNetworkPolicy)
    (stored : Store WorkloadNetworkPolicy.key) (err : Option Err)
    (stored' : Store WorkloadNetworkPolicy.key) : Prop :=
  match err with
  | some _ => stored' = stored
  | none => ∃ old, stored.lookup base.key = some old ∧ conflicts (mergeFrom base obj) old = false ∧
      stored' = stored.put (apply (mergeFrom base obj) old)

/-- How a request can be answered.  A list of policies that succeeds returns what is stored. -/
def Answers : (r : Request) → World → r.Resp → World → Prop
  | .listWNPs, w, x, w' => w' = w ∧ ∀ items, x = Except.ok items → items.Perm w.stored.values
  | .listNetworkPolicies, w, _, w' => w' = w
  | .drain, w, x, w' => x = w.buffer.drain.1 ∧ w' = { w with buffer := w.buffer.drain.2 }
  | .cache, w, _, w' => w' = w
  | .recordUnattributed obs reason, w, _, w' =>
    w' = { w with unattributed := (obs, reason) :: w.unattributed }
  | .recordDisagreement obs, w, _, w' => w' = { w with disagreements := obs :: w.disagreements }
  | .now, w, _, w' => w' = w
  | .statusPatch obj base, w, err, w' =>
    ∃ stored', PatchAnswers obj base patchStatus w.stored err stored' ∧
      w' = { w with
        stored := stored'
        refused := if Option.isSome err then (obj, base) :: w.refused else w.refused }
  | .patch obj base, w, err, w' =>
    ∃ stored', PatchAnswers obj base patchObject w.stored err stored' ∧ w' = { w with stored := stored' }
  | .emit ack, w, _, w' => w' = { w with emitted := ack :: w.emitted }
  | .crash, _, _, _ => False

/-! ## The others -/

/-- The two statuses differ in the conditions only. -/
def SameViolations (s s' : WorkloadNetworkPolicyStatus) : Prop := s' = { s with conditions := s'.conditions }

/-- What the API server stores: a policy that passes the validation rule on its backend, with times in
whole seconds. -/
structure Storable (w : WorkloadNetworkPolicy) : Prop where
  backend : w.spec.backend = .kubernetes → w.spec.kubernetes.isSome
  times : storedStatus w.status = w.status

/-- What others do: at most `limit` observations are recorded in a run, and nobody deletes a policy or
writes the violation fields of its status. -/
inductive Interference (limit : Nat) : World → World → Prop
  | record {w : World} (obs : Observation) : w.recorded < limit →
    Interference limit w { w with
      buffer := (w.buffer.record obs).2
      recorded := w.recorded + 1
      overwritten := w.overwritten + if (w.buffer.record obs).1 then 1 else 0 }
  | edit {w : World} {old new : WorkloadNetworkPolicy} : w.stored.lookup new.key = some old →
    SameViolations old.status new.status → Storable new →
    Interference limit w { w with stored := w.stored.put new }
  | create {w : World} {new : WorkloadNetworkPolicy} : w.stored.lookup new.key = none →
    new.status = {} → Storable new → Interference limit w { w with stored := w.stored.put new }

/-- The sync and everybody else. -/
def system (limit : Nat) : System Request.Resp World where
  exec := Answers
  env := Interference limit

end NetworkEnforcer.Sync
