import NetworkEnforcer.Learner.Rules

/-!
# The learner (`internal/controller/learning_controller.go`)

Scrapers hand flows to the learner through a channel; the channel feeds a queue, and one worker takes the events
from the queue.  `reconcile` is the program of the worker for one event, for both backends
(`learning_kubernetes.go`, `learning_istio.go`), and `worker` is the loop around it: an event whose call has
failed goes back into the queue.

Whatever the program asks of the cluster is a `Request`.  `Answers` says how a request can be answered: reads come
from a cache and may return any version that an object has had, and a write that is answered with an error may
have been made all the same.  `Others` is what happens in between.
-/

namespace NetworkEnforcer.Learner

open NetworkEnforcer.Lib NetworkEnforcer.Api NetworkEnforcer.Reconcile
open NetworkEnforcer.Learning hiding World Request ask reconcile system

/-! ## Requests -/

/-- How a call goes wrong: with an error, or with a nil dereference that passes through its callers. -/
inductive Failure where
  | error (err : Err)
  | panic

/-- `fmt.Errorf` around the error of a call. -/
def Failure.wrap (context : String) : Failure → Failure
  | .error err => .error (.wrap context err)
  | .panic => .panic

inductive Request where
  /-- The worker waits for an event of the queue. -/
  | take
  /-- The end of a call, for the queue. -/
  | done (event : LearningEvent) (failure : Option Failure)
  | checkExistingPolicy (ns proposalName : String)
  | get (key : NamespacedName)
  | create (proposal : WorkloadNetworkPolicyProposal)
  | update (proposal : WorkloadNetworkPolicyProposal)
  | getOwner (wk : WorkloadRef)
  /-- `evaluateMonitorViolation`, which writes to the log and to the violation buffer. -/
  | evaluate (policy : WorkloadNetworkPolicy) (workload : WorkloadRef) (direction : PolicyType) (flow : LearnedFlow)

@[reducible] def Request.Resp : Request → Type
  | take => LearningEvent
  | done .. => Unit
  | checkExistingPolicy .. => Except Err (List WorkloadNetworkPolicy)
  | get _ => Except Err WorkloadNetworkPolicyProposal
  -- the client refreshes the object with the response
  | create _ => Except Err WorkloadNetworkPolicyProposal
  | update _ => Except Err WorkloadNetworkPolicyProposal
  | getOwner _ => Except Err ObjectMeta
  | evaluate .. => Option MonitorError

/-- A program of the learner. -/
abbrev LearnerM (α : Type) : Type := Prog Request.Resp α

def ask (r : Request) : LearnerM r.Resp := Prog.ask r

/-! ## Proposals -/

/-- `controllerutil.CreateOrUpdate`, with the object as it is stored. -/
def createOrUpdate (obj : WorkloadNetworkPolicyProposal)
    (mutate : WorkloadNetworkPolicyProposalSpec → Except Failure WorkloadNetworkPolicyProposalSpec) :
    LearnerM (Except Failure WorkloadNetworkPolicyProposal) := do
  match ← ask (.get obj.namespacedName) with
  | .error err =>
    if !err.isNotFound then return .error (.error err)
    else
      match mutate obj.spec with
      | .error failure => return .error failure
      | .ok spec =>
        match ← ask (.create { obj with spec := spec }) with
        | .error err => return .error (.error err)
        | .ok stored => return .ok stored
  | .ok existing =>
    match mutate existing.spec with
    | .error failure => return .error failure
    | .ok spec =>
      -- `equality.Semantic.DeepEqual`, where nothing but the specification can differ
      if spec = existing.spec then return .ok existing
      else
        match ← ask (.update { existing with spec := spec }) with
        | .error err => return .error (.error err)
        | .ok stored => return .ok stored

/-- `OwnerObjectFor` knows the kind. -/
def ownerObjectFor (kind : WorkloadKind) : Bool :=
  kind = workloadKindDeployment || kind = workloadKindStatefulSet || kind = workloadKindDaemonSet

/-- `setOwnerReference`, with the error it returns.  The reference is set on the object in memory, and nothing
writes it. -/
def setOwnerReference (ctrl : ControllerLib) (proposal : WorkloadNetworkPolicyProposal) (wk : WorkloadRef) :
    LearnerM (Option Err) := do
  if (getControllerOf proposal.ownerReferences).isSome then return none
  else if !ownerObjectFor wk.ownerKind then return some (.other ("unsupported workload kind: " ++ wk.ownerKind))
  else
    let key : NamespacedName := ⟨wk.ns, wk.ownerName⟩
    match ← ask (.getOwner wk) with
    | .error err =>
      if err.isNotFound then
        return some (.other ("owning workload not found: " ++ wk.ownerKind ++ " " ++ key.text))
      else return some (.wrap ("getting owner " ++ wk.ownerKind ++ " " ++ key.text) err)
    | .ok owner =>
      match ctrl.setControllerReference owner proposal.ownerReferences with
      | .error err =>
        return some (.wrap ("setting controller reference on proposal " ++ proposal.namespacedName.text) err)
      | .ok _ => return none

/-- What both backends do with a proposal that no policy was promoted from. -/
def maintainProposal (ctrl : ControllerLib) (wk : WorkloadRef) (obj : WorkloadNetworkPolicyProposal)
    (mutate : WorkloadNetworkPolicyProposalSpec → Except Failure WorkloadNetworkPolicyProposalSpec) :
    LearnerM (Option Failure) := do
  match ← createOrUpdate obj mutate with
  | .error failure => return some (failure.wrap ("create or update proposal " ++ obj.namespacedName.text))
  | .ok stored =>
    match ← setOwnerReference ctrl stored wk with
    | some err => return some (.error (.wrap ("setting owner reference on proposal " ++ obj.namespacedName.text) err))
    | none => return none

def multiplePolicies : Failure := .error (.other "multiple policies associated with the same proposal")

/-- The error of `checkExistingPolicy`, with its context. -/
def checkingFailed (key : NamespacedName) (err : Err) : Failure :=
  .error (.wrap ("checking existing policies for " ++ key.text) err)

/-! ### Kubernetes -/

/-- An error of the mutation, as the mutation function returns it. -/
def orError {α : Type} : Except Err α → Except Failure α
  | .ok a => .ok a
  | .error err => .error (.error err)

lemma eq_ok_of_orError {α : Type} {res : Except Err α} {a : α} (h : orError res = .ok a) : res = .ok a := by
  cases res with
  | error err => cases h
  | ok b => exact congrArg Except.ok (Except.ok.inj h)

def reconcileKubernetesProposal (lib : Apimachinery) (ctrl : ControllerLib) (workload : WorkloadRef)
    (direction : PolicyType) (flow : LearnedFlow) : LearnerM (Option Failure) := do
  let proposal := getProposalMetadata workload direction
  match ← ask (.checkExistingPolicy workload.ns proposal.name) with
  | .error err => return some (checkingFailed ⟨workload.ns, proposal.name⟩ err)
  | .ok [] =>
    maintainProposal ctrl workload proposal fun spec =>
      orError (mutateKubernetesProposal lib workload flow.peer direction flow.protocol flow.dstPort spec)
  | .ok [policy] =>
    if policy.spec.mode = .protect then return none
    else
      match ← ask (.evaluate policy workload direction flow) with
      | some .nilDereference => return some .panic
      -- any other error is logged
      | _ => return none
  | .ok (_ :: _ :: _) => return some multiplePolicies

def processKubernetesLearningEvent (lib : Apimachinery) (ctrl : ControllerLib) (req : LearningEvent) :
    LearnerM (Option Failure) := do
  match req.source, req.dest with
  | some source, some dest =>
    match ← reconcileKubernetesProposal lib ctrl source .egress ⟨dest, req.protocol, req.dstPort⟩ with
    | some failure => return some (failure.wrap "reconcile egress proposal")
    | none =>
      match ← reconcileKubernetesProposal lib ctrl dest .ingress ⟨source, req.protocol, req.dstPort⟩ with
      | some failure => return some (failure.wrap "reconcile ingress proposal")
      | none => return none
  | _, _ => return some (.error (.other "invalid learning event: missing source or destination"))

/-! ### Istio -/

/-- The mutation of `updateProposal`, which takes the identity of a source that may be nil. -/
def mutateIstio (evt : LearningEvent) (dest : WorkloadRef) (spec : WorkloadNetworkPolicyProposalSpec) :
    Except Failure WorkloadNetworkPolicyProposalSpec :=
  match evt.source with
  | some source => .ok (mutateIstioProposal dest source.identity evt.dstPort spec)
  | none => .error .panic

def updateProposal (ctrl : ControllerLib) (evt : LearningEvent) (dest : WorkloadRef) : LearnerM (Option Failure) :=
  maintainProposal ctrl dest (getProposalMetadata dest .ingress) (mutateIstio evt dest)

def processIstioLearningEvent (ctrl : ControllerLib) (req : LearningEvent) : LearnerM (Option Failure) := do
  match req.dest with
  | none => return some (.error (.other "invalid learning event: missing destination"))
  | some wk =>
    let proposalName := getProposalName wk .ingress
    match ← ask (.checkExistingPolicy wk.ns proposalName) with
    | .error err => return some (checkingFailed ⟨wk.ns, proposalName⟩ err)
    | .ok [] => updateProposal ctrl req wk
    | .ok [_] => return none
    | .ok (_ :: _ :: _) => return some multiplePolicies

/-! ## The worker -/

/-- `Reconcile`, for one event. -/
def reconcile (lib : Apimachinery) (ctrl : ControllerLib) (req : LearningEvent) : LearnerM (Option Failure) :=
  if req.backend = .istio then processIstioLearningEvent ctrl req else processKubernetesLearningEvent lib ctrl req

/-- One turn of the worker.  The controller recovers from a panic, and counts it as an error. -/
def worker (lib : Apimachinery) (ctrl : ControllerLib) : LearnerM Unit := do
  let event ← ask .take
  let failure ← reconcile lib ctrl event
  ask (.done event failure)

/-! ## The world -/

def defaultEventChannelBufferSize : Nat := 4096

structure World where
  proposals : Store fun p : WorkloadNetworkPolicyProposal => p.namespacedName
  /-- Every version that a proposal has had, newest first. -/
  versions : List WorkloadNetworkPolicyProposal
  /-- The last resource version given out for a key. -/
  clock : NamespacedName → Nat
  policies : Store WorkloadNetworkPolicy.key
  /-- Every version that a policy has had. -/
  policyVersions : List WorkloadNetworkPolicy
  monitor : Monitor
  /-- `eventChan`. -/
  channel : List LearningEvent
  /-- The queue of the controller. -/
  pending : List LearningEvent
  processing : Option LearningEvent
  /-- History: the events that `enqueueEvent` has accepted. -/
  accepted : List LearningEvent := []
  /-- History: the proposals that somebody else has deleted. -/
  deleted : List NamespacedName := []
  /-- History: the proposals whose specification somebody else has written. -/
  rewritten : List NamespacedName := []
  /-- History: the policies that `checkExistingPolicy` has shown to the worker, with the event it was working on and
  the proposal it was asking for; only one policy at a time is worked with. -/
  shown : List (LearningEvent × NamespacedName × WorkloadNetworkPolicy) := []

namespace World

/-- The proposal as it is stored next. -/
def stamp (w : World) (p : WorkloadNetworkPolicyProposal) : WorkloadNetworkPolicyProposal :=
  { p with resourceVersion := w.clock p.namespacedName + 1 }

/-- A new version of a proposal. -/
def write (w : World) (p : WorkloadNetworkPolicyProposal) : World :=
  { w with
    proposals := w.proposals.put (w.stamp p)
    versions := w.stamp p :: w.versions
    clock := Function.update w.clock p.namespacedName (w.clock p.namespacedName + 1) }

/-- `enqueueEvent`: an event for which the channel has no room is dropped. -/
def enqueueEvent (w : World) (evt : LearningEvent) : Bool × World :=
  if w.channel.length < defaultEventChannelBufferSize then
    (true, { w with channel := w.channel ++ [evt], accepted := evt :: w.accepted })
  else (false, w)

end World

/-- What an answer of `checkExistingPolicy` shows. -/
def shownBy (processing : Option LearningEvent) (key : NamespacedName) :
    Except Err (List WorkloadNetworkPolicy) → List (LearningEvent × NamespacedName × WorkloadNetworkPolicy)
  | .ok [policy] => processing.toList.map fun event => (event, key, policy)
  | _ => []

/-- How a request can be answered. -/
def Answers (lib : Apimachinery) : (r : Request) → World → r.Resp → World → Prop
  | .take, w, event, w' => w.processing = none ∧ ∃ before after, w.pending = before ++ event :: after ∧
      w' = { w with pending := before ++ after, processing := some event }
  | .done event failure, w, _, w' =>
    w' = { w with pending := w.pending ++ (if failure.isSome then [event] else []), processing := none }
  | .checkExistingPolicy ns proposalName, w, x, w' =>
    w' = { w with shown := shownBy w.processing ⟨ns, proposalName⟩ x ++ w.shown } ∧ ∀ policies, x = .ok policies →
      ∀ policy ∈ policies, policy ∈ w.policyVersions ∧ promotedFrom ns proposalName policy = true
  | .get key, w, x, w' => w' = w ∧ ∀ p, x = .ok p → p ∈ w.versions ∧ p.namespacedName = key
  | .create p, w, x, w' =>
    (w' = w ∧ ∃ err, x = .error err) ∨
      (w.proposals.lookup p.namespacedName = none ∧ w' = w.write p ∧ ∀ stored, x = .ok stored → stored = w.stamp p)
  -- the optimistic lock: the version that is sent must be the stored one
  | .update p, w, x, w' =>
    (w' = w ∧ ∃ err, x = .error err) ∨
      ((∃ old, w.proposals.lookup p.namespacedName = some old ∧ old.resourceVersion = p.resourceVersion) ∧
        w' = w.write p ∧ ∀ stored, x = .ok stored → stored = w.stamp p)
  | .getOwner _, w, _, w' => w' = w
  | .evaluate policy workload direction flow, w, x, w' => ∃ now,
      let out := evaluateMonitorViolation lib w.monitor policy workload flow.peer flow.protocol direction flow.dstPort now
      x = out.1 ∧ w' = { w with monitor := out.2 }

/-- What happens between two requests: scrapers send events, the channel feeds the queue, the proposal reconciler
and users edit and delete proposals and policies, and the status sync drains the buffer. -/
inductive Others : World → World → Prop
  | send {w : World} (event : LearningEvent) : Others w (w.enqueueEvent event).2
  | deliver {w : World} {event : LearningEvent} {rest : List LearningEvent} : w.channel = event :: rest →
      Others w { w with channel := rest, pending := w.pending ++ [event] }
  | editMetadata {w : World} {old new : WorkloadNetworkPolicyProposal} :
      w.proposals.lookup new.namespacedName = some old → new.spec = old.spec → Others w (w.write new)
  | rewrite {w : World} (new : WorkloadNetworkPolicyProposal) :
      Others w { w.write new with rewritten := new.namespacedName :: w.rewritten }
  | delete {w : World} (key : NamespacedName) :
      Others w { w with proposals := w.proposals.remove key, deleted := key :: w.deleted }
  | editPolicies {w : World} (policies : Store WorkloadNetworkPolicy.key) :
      Others w { w with policies := policies, policyVersions := policies.values ++ w.policyVersions }
  | useBuffer {w : World} (buffer : Ringbuf.Buffer Observation) :
      Others w { w with monitor := { w.monitor with violationBuffer := buffer } }

/-- The worker and everybody else. -/
def system (lib : Apimachinery) : System Request.Resp World where
  exec := Answers lib
  env := Others

/-- A process that has just started. -/
def World.start (proposals : Store fun p : WorkloadNetworkPolicyProposal => p.namespacedName)
    (policies : Store WorkloadNetworkPolicy.key) (buffer : Ringbuf.Buffer Observation) : World where
  proposals := proposals
  versions := proposals.values
  clock key := ((proposals.lookup key).map (·.resourceVersion)).getD 0
  policies := policies
  policyVersions := policies.values
  monitor := ⟨[], buffer⟩
  channel := []
  pending := []
  processing := none

end NetworkEnforcer.Learner
