import NetworkEnforcer.Reconcile.Locality

/-!
# The controller at work

`SetupWithManager` makes a controller out of `Reconcile`: watches report what changes in the cluster, handlers
turn the reports into requests, and one worker takes the requests from a queue.  Here the controller is a
transition system.

* `setupWithManager` decides on the watches: authorization policies are watched only if Istio is installed when
  the controller is set up;
* `ClusterEvent` is a change of one object, with the requests that the handlers add for it;
* `Job` is a call of `Reconcile` between two of its parts, and `advance` does the next part.  Anything may happen
  in between; if nothing does, the parts make up the call (`complete_eq_reconcile`);
* `Manager` is the whole: the cluster, the requests that wait, and the job of the worker, and `Step` its steps.

A request that is added while its job is running waits for the job to end, as the queue of client-go has it.
The caches do not lag in this model: a change, what the worker reads of it and its requests are one step.
-/

namespace NetworkEnforcer.Reconcile

open NetworkEnforcer.Lib NetworkEnforcer.Api NetworkEnforcer.Workload
open NetworkEnforcer.Attribution (groupVersion workloadNetworkPolicyKind)

/-! ## Set-up -/

/-- What `RESTMapping` says of the AuthorizationPolicy of Istio. -/
inductive RESTMapping where
  | found
  /-- `IsNoMatchError`: Istio is not installed. -/
  | noMatch
  | failed (err : Err)
  deriving DecidableEq, Repr

/-- What the calls of `SetupWithManager` return. -/
structure Setup where
  registerSelectorOverlaps : Option Err := none
  registerDuplicateTargets : Option Err := none
  restMapping : RESTMapping
  complete : Option Err := none

/-- The watch that may be left out; all others are always there. -/
structure Watches where
  authorizationPolicies : Bool
  deriving DecidableEq, Repr

/-- `SetupWithManager`, with the watches of the controller it has built. -/
def setupWithManager (s : Setup) : Except Err Watches :=
  match s.registerSelectorOverlaps, s.registerDuplicateTargets with
  | some err, _ => .error (.wrap "failed to register selector overlap metric" err)
  | none, some err => .error (.wrap "failed to register duplicate target metric" err)
  | none, none =>
    let complete (watches : Watches) : Except Err Watches :=
      match s.complete with
      | some err => .error err
      | none => .ok watches
    match s.restMapping with
    | .found => complete ⟨true⟩
    | .noMatch => complete ⟨false⟩
    | .failed err => .error (.wrap "unable to discover Istio AuthorizationPolicy CRD" err)

/-- Authorization policies are watched where Istio was found. -/
lemma watched_iff_found {s : Setup} {watches : Watches} (h : setupWithManager s = .ok watches) :
    watches.authorizationPolicies = true ↔ s.restMapping = .found := by
  unfold setupWithManager at h
  split at h
  · cases h
  · cases h
  · cases hm : s.restMapping <;> cases hc : s.complete <;> simp only [hm, hc] at h <;> cases h <;> simp

/-! ## Handlers -/

/-- `EnqueueRequestForObject`, the handler of `For`. -/
def enqueueRequestForObject (e : Event WorkloadNetworkPolicy) : List NamespacedName := [e.object.key]

/-- The group of an API version. -/
def groupOf (apiVersion : String) : String := ((cutAt '/' apiVersion).map Prod.fst).getD ""

/-- `getOwnerReconcileRequest`, for the controller only. -/
def ownerRequests (obj : ObjectMeta) : List NamespacedName :=
  match getControllerOf obj.ownerReferences with
  | some ref =>
    if ref.kind = workloadNetworkPolicyKind && groupOf ref.apiVersion = groupOf groupVersion then
      [⟨obj.ns, ref.name⟩]
    else []
  | none => []

/-- `EnqueueRequestForOwner`, the handler of `Owns`. -/
def enqueueRequestForOwner (e : Event ObjectMeta) : List NamespacedName := e.objects.flatMap ownerRequests

/-- What handlers read: the cache of the manager, which is up to date and whose lists do not fail. -/
structure Informer (cl : Cluster) where
  reader : Reader cl
  list : ListWNPs
  answers : reader.Answers
  lists (ns : String) : ∃ items, list ns = .ok items ∧ items.Perm (cl.wnps.values.filter (·.ns = ns))

/-- A change of one object of a kind that the controller knows. -/
inductive ClusterEvent where
  | policy (e : Event WorkloadNetworkPolicy)
  | watched (e : WatchedEvent)
  | networkPolicy (e : Event NetworkPolicy)
  | authorizationPolicy (e : Event AuthorizationPolicy)

namespace ClusterEvent

/-- The event is the difference between two clusters. -/
def Between (cl cl' : Cluster) : ClusterEvent → Prop
  | .policy e => e.Between cl.wnps cl'.wnps ∧ cl' = { cl with wnps := cl'.wnps }
  | .watched e => e.Between cl cl'
  | .networkPolicy e =>
    e.Between cl.networkPolicies cl'.networkPolicies ∧ cl' = { cl with networkPolicies := cl'.networkPolicies }
  | .authorizationPolicy e => e.Between cl.authorizationPolicies cl'.authorizationPolicies ∧
      cl' = { cl with authorizationPolicies := cl'.authorizationPolicies }

/-- What the API server promises of an update. -/
def Served : ClusterEvent → Prop
  | .policy e => ∀ old new, e = .update old new → ServedPolicyUpdate old new
  | .watched e => e.Served
  | .networkPolicy _ | .authorizationPolicy _ => True

/-- The requests of all handlers; policies have two, that of `For` and that for duplicates. -/
def requests {cl : Cluster} (watches : Watches) (inf : Informer cl) : ClusterEvent → List NamespacedName
  | .policy e =>
    enqueueRequestForObject e ++ if duplicateTargetAccepts e then duplicateTargetHandler inf.reader e else []
  | .watched e => if e.accepted then e.requests inf.list else []
  | .networkPolicy e => enqueueRequestForOwner (e.map (·.toObjectMeta))
  | .authorizationPolicy e =>
    if watches.authorizationPolicies then enqueueRequestForOwner (e.map (·.toObjectMeta)) else []

end ClusterEvent

/-! ## A call in parts -/

/-- A call of `Reconcile` in front of its next part. -/
inductive Job where
  /-- Nothing was read yet. -/
  | start (req : NamespacedName)
  | fetched (wnp : WorkloadNetworkPolicy)
  /-- The policy may render, as the oldest of its target or without a conflict. -/
  | elected (wnp : WorkloadNetworkPolicy) (conflict : Option DuplicateTargetConflict)
  | checked (wnp : WorkloadNetworkPolicy) (conflict : Option DuplicateTargetConflict) (condition : Condition)
  /-- The `Ready` condition is left to update; `err` is what `reconcilePolicy` returned. -/
  | decided (wnp : WorkloadNetworkPolicy) (condition : Condition) (err : Option Err)

def Job.key : Job → NamespacedName
  | .start req => req
  | .fetched wnp | .elected wnp _ | .checked wnp _ _ | .decided wnp _ _ => wnp.key

inductive Progress where
  | next (job : Job)
  | done (err : Option Err)

/-- What `Reconcile` does with the results of `reconcilePolicy`. -/
def afterPolicy (wnp : WorkloadNetworkPolicy) (conflict : Option DuplicateTargetConflict) (condition : Condition)
    (err : Option Err) : Progress :=
  if condition.type = "" && conflict.isNone then .done err
  else .next (.decided wnp ((conflict.map (·.condition)).getD condition) err)

/-- The next part of a call. -/
def advance (w : World) (env : Env w.toCluster) : Job → World × Progress
  | .start req =>
    match (env.reads .fetch).getWNP req with
    | .error err => (w, .done (ignoreNotFound err))
    | .ok wnp => (w, .next (.fetched wnp))
  | .fetched wnp =>
    match checkDuplicateTarget (env.reads .duplicates) wnp with
    | .error err => (w, .done (some err))
    | .ok (some conflict) =>
      if !conflict.winner then (w, .next (.decided wnp conflict.condition none))
      else (w, .next (.elected wnp (some conflict)))
    | .ok none => (w, .next (.elected wnp none))
  | .elected wnp conflict =>
    match checkSelectorScope env.lib (env.reads .scope) wnp with
    | .error err => (w, afterPolicy wnp conflict {} (some err))
    | .ok condition => (w, .next (.checked wnp conflict condition))
  | .checked wnp conflict condition =>
    if condition.reason = reasonSelectorDoesNotMatchTarget && wnp.spec.mode ≠ .monitor then
      match checkRetainedPolicyScope env.lib (env.reads .retained) wnp condition with
      | .error err => (w, afterPolicy wnp conflict condition (some err))
      | .ok retainedCondition => (w, afterPolicy wnp conflict retainedCondition none)
    else
      match renderPolicy env wnp with
      | (some err, cl) => ({ w with toCluster := cl }, afterPolicy wnp conflict (renderFailedCondition wnp err) (some err))
      | (none, cl) => ({ w with toCluster := cl }, afterPolicy wnp conflict condition none)
  | .decided wnp condition err =>
    let (err', w') := updateReadyCondition env wnp condition w
    (w', .done (joinErrors err err'))

/-- The rest of a call with nothing in between, in at most `parts` parts. -/
def complete (clients : (cl : Cluster) → Env cl) : (parts : Nat) → World → Job → Option (Option Err × World)
  | 0, _, _ => none
  | parts + 1, w, job =>
    match advance w (clients w.toCluster) job with
    | (w', .done err) => some (err, w')
    | (w', .next job') => complete clients parts w' job'

section Complete

variable {clients : (cl : Cluster) → Env cl} {w : World} {job : Job}

lemma complete_done {parts : Nat} {w' : World} {err : Option Err}
    (h : advance w (clients w.toCluster) job = (w', .done err)) :
    complete clients (parts + 1) w job = some (err, w') := by
  rw [complete, h]

lemma complete_next {parts : Nat} {w' : World} {job' : Job}
    (h : advance w (clients w.toCluster) job = (w', .next job')) :
    complete clients (parts + 1) w job = complete clients parts w' job' := by
  rw [complete, h]

/-- The writing of the condition needs no reads, so the client of the earlier cluster does as well. -/
lemma updateReadyCondition_congr {cl cl' : Cluster} {env : Env cl} {env' : Env cl'} (hctrl : env'.ctrl = env.ctrl)
    (hstatus : env'.status = env.status) (wnp : WorkloadNetworkPolicy) (c : Condition) (w : World) :
    updateReadyCondition env' wnp c w = updateReadyCondition env wnp c w := by
  unfold updateReadyCondition
  rw [hctrl, hstatus]

end Complete

/-- Clients for all clusters that share the libraries and the writer of statuses. -/
def OneLibrary (clients : (cl : Cluster) → Env cl) : Prop :=
  ∀ cl cl', (clients cl').ctrl = (clients cl).ctrl ∧ (clients cl').status = (clients cl).status

section Parts

variable {clients : (cl : Cluster) → Env cl} (hone : OneLibrary clients) (w : World) (wnp : WorkloadNetworkPolicy)
include hone

/-- The last two parts are what a call does with the results of `reconcilePolicy`. -/
lemma complete_afterPolicy {cl : Cluster} (conflict : Option DuplicateTargetConflict) (condition : Condition)
    (err : Option Err) {parts : Nat} {job : Job}
    (h : advance w (clients w.toCluster) job = ({ w with toCluster := cl }, afterPolicy wnp conflict condition err)) :
    complete clients (parts + 2) w job =
      if condition.type = "" && conflict.isNone then some (err, { w with toCluster := cl })
      else
        let out := updateReadyCondition (clients w.toCluster) wnp ((conflict.map (·.condition)).getD condition)
          { w with toCluster := cl }
        some (joinErrors err out.1, out.2) := by
  unfold afterPolicy at h
  by_cases hempty : (condition.type = "" && conflict.isNone) = true
  · rw [if_pos hempty] at h ⊢
    exact complete_done h
  · rw [if_neg hempty] at h ⊢
    rw [complete_next h, complete]
    simp only [advance]
    rw [updateReadyCondition_congr (hone w.toCluster cl).1 (hone w.toCluster cl).2]

/-- The parts of `reconcilePolicy`, and what follows it. -/
lemma complete_elected (conflict : Option DuplicateTargetConflict) :
    complete clients 3 w (.elected wnp conflict) =
      let res := reconcilePolicy (clients w.toCluster) wnp
      if res.1.type = "" && conflict.isNone then some (res.2.1, { w with toCluster := res.2.2 })
      else
        let out := updateReadyCondition (clients w.toCluster) wnp ((conflict.map (·.condition)).getD res.1)
          { w with toCluster := res.2.2 }
        some (joinErrors res.2.1 out.1, out.2) := by
  simp only
  cases hscope : checkSelectorScope (clients w.toCluster).lib ((clients w.toCluster).reads .scope) wnp with
  | error err =>
    have hres : reconcilePolicy (clients w.toCluster) wnp = ({}, some err, w.toCluster) := by
      simp only [reconcilePolicy, hscope]
    rw [hres]
    exact complete_afterPolicy hone w wnp conflict {} (some err) (by simp only [advance, hscope])
  | ok condition =>
    have hnext : advance w (clients w.toCluster) (.elected wnp conflict) =
        (w, .next (.checked wnp conflict condition)) := by simp only [advance, hscope]
    rw [complete_next hnext]
    by_cases hmis : (condition.reason = reasonSelectorDoesNotMatchTarget && wnp.spec.mode ≠ .monitor) = true
    · cases hret : checkRetainedPolicyScope (clients w.toCluster).lib ((clients w.toCluster).reads .retained) wnp
          condition with
      | error err =>
        have hres : reconcilePolicy (clients w.toCluster) wnp = (condition, some err, w.toCluster) := by
          simp only [reconcilePolicy, hscope, if_pos hmis, hret]
        rw [hres]
        exact complete_afterPolicy hone w wnp conflict condition (some err)
          (by simp only [advance, if_pos hmis, hret])
      | ok retained =>
        have hres : reconcilePolicy (clients w.toCluster) wnp = (retained, none, w.toCluster) := by
          simp only [reconcilePolicy, hscope, if_pos hmis, hret]
        rw [hres]
        exact complete_afterPolicy hone w wnp conflict retained none (by simp only [advance, if_pos hmis, hret])
    · rcases hrender : renderPolicy (clients w.toCluster) wnp with ⟨err, cl⟩
      cases err with
      | some err =>
        have hres : reconcilePolicy (clients w.toCluster) wnp = (renderFailedCondition wnp err, some err, cl) := by
          simp only [reconcilePolicy, hscope, if_neg hmis, hrender]
        rw [hres]
        exact complete_afterPolicy hone w wnp conflict _ (some err) (by simp only [advance, if_neg hmis, hrender])
      | none =>
        have hres : reconcilePolicy (clients w.toCluster) wnp = (condition, none, cl) := by
          simp only [reconcilePolicy, hscope, if_neg hmis, hrender]
        rw [hres]
        exact complete_afterPolicy hone w wnp conflict condition none (by simp only [advance, if_neg hmis, hrender])

end Parts

/-- **The parts make up the call**: without anything in between, a job ends as `Reconcile` does. -/
theorem complete_eq_reconcile {clients : (cl : Cluster) → Env cl} (hone : OneLibrary clients) (w : World)
    (req : NamespacedName) :
    complete clients 5 w (.start req) = some (reconcile w (clients w.toCluster) req) := by
  cases hget : ((clients w.toCluster).reads .fetch).getWNP req with
  | error err =>
    have hdone : advance w (clients w.toCluster) (.start req) = (w, .done (ignoreNotFound err)) := by
      simp only [advance, hget]
    rw [complete_done hdone]
    simp only [reconcile, hget]
  | ok wnp =>
    have hfetched : advance w (clients w.toCluster) (.start req) = (w, .next (.fetched wnp)) := by
      simp only [advance, hget]
    rw [complete_next hfetched]
    cases hdup : checkDuplicateTarget ((clients w.toCluster).reads .duplicates) wnp with
    | error err =>
      have hdone : advance w (clients w.toCluster) (.fetched wnp) = (w, .done (some err)) := by
        simp only [advance, hdup]
      rw [complete_done hdone]
      simp only [reconcile, hget, hdup]
    | ok conflict =>
      cases conflict with
      | none =>
        have hnext : advance w (clients w.toCluster) (.fetched wnp) = (w, .next (.elected wnp none)) := by
          simp only [advance, hdup]
        rw [complete_next hnext, complete_elected hone w wnp]
        simp only [reconcile, hget, hdup, Option.isNone_none, Bool.and_true, decide_eq_true_eq, Option.map_none,
          Option.getD_none]
        split <;> rfl
      | some conflict =>
        cases hwin : conflict.winner with
        | false =>
          have hnext : advance w (clients w.toCluster) (.fetched wnp) =
              (w, .next (.decided wnp conflict.condition none)) := by simp [advance, hdup, hwin]
          rw [complete_next hnext, complete]
          simp [advance, reconcile, hget, hdup, hwin, joinErrors]
        | true =>
          have hnext : advance w (clients w.toCluster) (.fetched wnp) =
              (w, .next (.elected wnp (some conflict))) := by simp [advance, hdup, hwin]
          rw [complete_next hnext, complete_elected hone w wnp]
          simp [reconcile, hget, hdup, hwin]

/-! ## The manager -/

/-- The controller and what it works on. -/
structure Manager where
  world : World
  /-- The requests that wait for the worker. -/
  pending : List NamespacedName
  /-- What the worker does. -/
  job : Option Job

def Progress.job : Progress → Option Job
  | .next job => some job
  | .done _ => none

/-- A call that ends with an error is tried again. -/
def Progress.retries (key : NamespacedName) : Progress → List NamespacedName
  | .next _ => []
  | .done none => []
  | .done (some _) => [key]

/-- The requests for what a part of a call has written under its key. -/
def writeRequests (watches : Watches) (cl : Cluster) {cl' : Cluster} (inf : Informer cl') (key : NamespacedName) :
    List NamespacedName :=
  ((Event.ofChange cl.wnps cl'.wnps key).map fun e => (ClusterEvent.policy e).requests watches inf).getD [] ++
    ((Event.ofChange cl.networkPolicies cl'.networkPolicies key).map fun e =>
      (ClusterEvent.networkPolicy e).requests watches inf).getD [] ++
    ((Event.ofChange cl.authorizationPolicies cl'.authorizationPolicies key).map fun e =>
      (ClusterEvent.authorizationPolicy e).requests watches inf).getD []

/-- A UID is given to one policy only, and a controller reference with the UID of a policy names that policy. -/
structure Truthful (policyOf : String → Option NamespacedName) (cl : Cluster) : Prop where
  policies {wnp : WorkloadNetworkPolicy} : wnp ∈ cl.wnps.values → policyOf wnp.uid = some wnp.key
  networkPolicies {np : NetworkPolicy} {ref : OwnerReference} {key : NamespacedName} :
    np ∈ cl.networkPolicies.values → getControllerOf np.ownerReferences = some ref → policyOf ref.uid = some key →
      key ∈ ownerRequests np.toObjectMeta
  authorizationPolicies {ap : AuthorizationPolicy} {ref : OwnerReference} {key : NamespacedName} :
    ap ∈ cl.authorizationPolicies.values → getControllerOf ap.ownerReferences = some ref →
      policyOf ref.uid = some key → key ∈ ownerRequests ap.toObjectMeta

/-- What a user reads of a condition. -/
def conditionView (c : Condition) : String × ConditionStatus × Int × String × String :=
  (c.type, c.status, c.observedGeneration, c.reason, c.message)

/-- What `SetStatusCondition` and a status patch promise beyond the laws of `Env`: conditions are kept whole but
for their times, and a patch changes nothing but the status of its policy. -/
structure Env.KeepsConditions {cl : Cluster} (env : Env cl) : Prop where
  unchanged {conditions : List Condition} {new : Condition} :
    (env.ctrl.setStatusCondition conditions new).2 = false →
      (findStatusCondition conditions new.type).map conditionView = some (conditionView new)
  set (conditions : List Condition) (new : Condition) :
    (findStatusCondition (env.ctrl.setStatusCondition conditions new).1 new.type).map conditionView =
      some (conditionView new)
  patched {s : Store WorkloadNetworkPolicy.key} {base new stored : WorkloadNetworkPolicy} :
    (env.status.patch s base new).1 = none → (env.status.patch s base new).2.lookup new.key = some stored →
      ∀ type, (findStatusCondition stored.status.conditions type).map conditionView =
        (findStatusCondition new.status.conditions type).map conditionView
  patch_frame {s : Store WorkloadNetworkPolicy.key} {base new : WorkloadNetworkPolicy} {k : NamespacedName} :
    k ≠ new.key → (env.status.patch s base new).2.lookup k = s.lookup k
  patch_keeps {s : Store WorkloadNetworkPolicy.key} {base new : WorkloadNetworkPolicy} :
    ((env.status.patch s base new).2.lookup new.key).map (fun w => (w.uid, w.generation, w.creationTimestamp, w.spec)) =
      (s.lookup new.key).map fun w => (w.uid, w.generation, w.creationTimestamp, w.spec)

/-- A writer does what it does as a whole or not at all, also where it reports an error. -/
structure ObjectWriter.Whole {V C : Type} {key : V → NamespacedName} {content : V → C}
    (writer : ObjectWriter key content) : Prop where
  delete (s : Store key) (k : NamespacedName) :
    (writer.delete s k).2.lookup k = s.lookup k ∨ (writer.delete s k).2.lookup k = none
  createOrUpdate (s : Store key) (obj : V) (mutate : V → Except Err V) :
    (writer.createOrUpdate s obj mutate).2.lookup (key obj) = s.lookup (key obj) ∨
      ∃ new stored, mutate ((s.lookup (key obj)).getD obj) = .ok new ∧
        (writer.createOrUpdate s obj mutate).2.lookup (key obj) = some stored ∧ content stored = content new

/-- The controller reference of `refs` is one to the policy of the metadata. -/
def NamesOwner (owner : ObjectMeta) (refs : List OwnerReference) : Prop :=
  ∃ ref, getControllerOf refs = some ref ∧ ref.apiVersion = groupVersion ∧ ref.kind = workloadNetworkPolicyKind ∧
    ref.name = owner.name ∧ ref.uid = owner.uid

/-- What the writers and `SetControllerReference` promise beyond the laws of `Env`. -/
structure Env.NamesOwners {cl : Cluster} (env : Env cl) : Prop where
  setControllerReference {owner : ObjectMeta} {refs refs' : List OwnerReference} :
    env.ctrl.setControllerReference owner refs = .ok refs' → NamesOwner owner refs'
  networkPolicies : env.networkPolicies.Whole
  authorizationPolicies : env.authorizationPolicies.Whole

/-- The steps of the controller and of everybody else.  What is `Truthful` is asked of the others only. -/
inductive Step (lib : Apimachinery) (watches : Watches) (policyOf : String → Option NamespacedName) :
    Manager → Manager → Prop
  /-- Somebody changes an object. -/
  | external {w : World} {pending : List NamespacedName} {job : Option Job} {cl : Cluster} {e : ClusterEvent}
      (inf : Informer cl) : e.Between w.toCluster cl → e.Served → Truthful policyOf cl →
      Step lib watches policyOf ⟨w, pending, job⟩
        ⟨{ w with toCluster := cl }, pending ++ e.requests watches inf, job⟩
  /-- The worker takes a request. -/
  | take {w : World} {pending : List NamespacedName} {req : NamespacedName} : req ∈ pending →
      Step lib watches policyOf ⟨w, pending, none⟩ ⟨w, pending.filter (· ≠ req), some (.start req)⟩
  /-- The worker does the next part of its job. -/
  | work {w w' : World} {pending : List NamespacedName} {job : Job} {progress : Progress} (env : Env w.toCluster)
      (inf : Informer w'.toCluster) : env.lib = lib → env.KeepsConditions → env.NamesOwners →
      advance w env job = (w', progress) →
      Step lib watches policyOf ⟨w, pending, some job⟩
        ⟨w', pending ++ writeRequests watches w.toCluster inf job.key ++ progress.retries job.key, progress.job⟩

/-! ## Direct clients -/

def Informer.direct (cl : Cluster) : Informer cl where
  reader := .direct cl
  list ns := .ok (cl.wnps.values.filter (·.ns = ns))
  answers := Reader.direct_answers cl
  lists _ := ⟨_, rfl, List.Perm.refl _⟩

lemma setStatusConditionAt_view (now : Time) (conditions : List Condition) (new : Condition) :
    (findStatusCondition (setStatusConditionAt now conditions new).1 new.type).map conditionView =
      some (conditionView new) := by
  unfold setStatusConditionAt
  split
  · rename_i hnone
    unfold findStatusCondition at *
    rw [List.find?_append, hnone]
    simp [conditionView]
  · rename_i old hold
    split
    · rename_i heq
      have hview : conditionView old = conditionView (transitioned now old new) := congrArg conditionView heq
      rw [hold, Option.map_some, hview]
      rfl
    · have hfind := find_map_type conditions (transitioned now old new) old hold
      have htype : (transitioned now old new).type = new.type := rfl
      rw [htype] at hfind
      rw [hfind]
      rfl

lemma key_patched {s : Store WorkloadNetworkPolicy.key} {old new : WorkloadNetworkPolicy}
    (h : s.lookup new.key = some old) : (patched old new).key = new.key := by
  have hkey : old.key = new.key := Store.key_of_lookup h
  exact hkey

lemma Env.direct_keepsConditions (cl : Cluster) (now : Time) : (Env.direct cl now).KeepsConditions where
  unchanged {conditions new} h := by
    have hview := setStatusConditionAt_view now conditions new
    have hsame : (setStatusConditionAt now conditions new).1 = conditions :=
      (ControllerLib.direct now).setStatusCondition_unchanged h
    rwa [hsame] at hview
  set := setStatusConditionAt_view now
  patched {s base new stored} h hlook type := by
    simp only [Env.direct, StatusWriter.direct] at h hlook
    split at h
    · cases h
    · rename_i old hold
      have hkey := key_patched hold
      split at h
      · rename_i hrv
        have hput := Store.lookup_put s (patched old new)
        rw [hkey] at hput
        simp only [hold, if_pos hrv, hput] at hlook
        rw [← Option.some.inj hlook]
        rfl
      · cases h
  patch_frame {s base new k} hk := by
    simp only [Env.direct, StatusWriter.direct]
    split
    · rfl
    · rename_i old hold
      have hkey := key_patched hold
      split
      · exact Store.lookup_put_ne (by rw [hkey]; exact hk)
      · rfl
  patch_keeps {s base new} := by
    simp only [Env.direct, StatusWriter.direct]
    split
    · rfl
    · rename_i old hold
      have hkey := key_patched hold
      split
      · have hput := Store.lookup_put s (patched old new)
        rw [hkey] at hput
        rw [hput, hold]
        rfl
      · rfl

lemma ObjectWriter.direct_whole {V C : Type} {key : V → NamespacedName} {content : V → C} :
    (ObjectWriter.direct : ObjectWriter key content).Whole where
  delete s k := by
    simp only [ObjectWriter.direct]
    split
    · exact .inl rfl
    · exact .inr (Store.lookup_remove s k)
  createOrUpdate s obj mutate := by
    simp only [ObjectWriter.direct]
    split
    · exact .inl rfl
    · rename_i new hnew
      split
      · rename_i hk
        exact .inr ⟨new, new, hnew, by rw [← hk]; exact Store.lookup_put s new, rfl⟩
      · exact .inl rfl

lemma Env.direct_namesOwners (cl : Cluster) (now : Time) : (Env.direct cl now).NamesOwners where
  setControllerReference {owner refs refs'} h := by
    simp only [Env.direct, ControllerLib.direct] at h
    refine ⟨⟨groupVersion, workloadNetworkPolicyKind, owner.name, owner.uid, some true⟩, ?_, rfl, rfl, rfl, rfl⟩
    split at h
    · split at h
      · rw [← Except.ok.inj h]
        simp [getControllerOf]
      · cases h
    · rw [← Except.ok.inj h]
      simp [getControllerOf]
  networkPolicies := ObjectWriter.direct_whole
  authorizationPolicies := ObjectWriter.direct_whole

instance (policyOf : String → Option NamespacedName) (cl : Cluster) : Decidable (Truthful policyOf cl) :=
  decidable_of_iff
    ((∀ wnp ∈ cl.wnps.values, policyOf wnp.uid = some wnp.key) ∧
      (∀ np ∈ cl.networkPolicies.values, ∀ ref ∈ getControllerOf np.ownerReferences, ∀ key ∈ policyOf ref.uid,
        key ∈ ownerRequests np.toObjectMeta) ∧
      ∀ ap ∈ cl.authorizationPolicies.values, ∀ ref ∈ getControllerOf ap.ownerReferences, ∀ key ∈ policyOf ref.uid,
        key ∈ ownerRequests ap.toObjectMeta)
    ⟨fun ⟨hw, hnp, hap⟩ => ⟨fun h => hw _ h, fun h href hkey => hnp _ h _ href _ hkey,
        fun h href hkey => hap _ h _ href _ hkey⟩,
      fun h => ⟨fun _ => h.policies, fun _ hnp _ href _ => h.networkPolicies hnp href,
        fun _ hap _ href _ => h.authorizationPolicies hap href⟩⟩

/-- A part that writes nothing adds no request but that for the next try. -/
lemma Step.work_unchanged {lib : Apimachinery} {watches : Watches} {policyOf : String → Option NamespacedName}
    {w : World} {pending : List NamespacedName} {job : Job} {progress : Progress} (env : Env w.toCluster)
    (inf : Informer w.toCluster) (hlib : env.lib = lib) (hkeeps : env.KeepsConditions) (hnames : env.NamesOwners)
    (h : advance w env job = (w, progress)) :
    Step lib watches policyOf ⟨w, pending, some job⟩ ⟨w, pending ++ progress.retries job.key, progress.job⟩ := by
  have hnone : writeRequests watches w.toCluster inf job.key = [] := by
    simp only [writeRequests, Event.ofChange_self, Option.map_none, Option.getD_none, List.append_nil]
  have hstep : Step lib watches policyOf ⟨w, pending, some job⟩ _ := .work env inf hlib hkeeps hnames h
  rwa [hnone, List.append_nil] at hstep

end NetworkEnforcer.Reconcile
