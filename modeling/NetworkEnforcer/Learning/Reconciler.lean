import NetworkEnforcer.Lib.Program
import NetworkEnforcer.Lib.Store
import NetworkEnforcer.Learning.Istio
import NetworkEnforcer.Learning.Kubernetes
import NetworkEnforcer.Reconcile.Client

/-!
# The proposal reconciler (`internal/controller/workloadnetworkpolicyproposal_controller.go`)

`reconcile` is the sequential program of one call of `Reconcile`; whatever it asks of the cluster is a
`Request`.  `Answers` says how a request can be answered, `Interference` what others do between two
requests: the learner updates or creates the proposal, users label or delete it and edit policies.

The cluster holds one proposal, the one that is reconciled.  Reads come from a cache and may return any
version that the proposal has had.
-/

namespace NetworkEnforcer.Learning

open NetworkEnforcer.Lib NetworkEnforcer.Api NetworkEnforcer.Reconcile

/-! ## Requests -/

/-- Which of the three calls of `Delete` it is. -/
inductive DeleteReason where
  /-- The owner workload is gone. -/
  | orphaned
  /-- A policy promoted from the proposal exists already. -/
  | alreadyPromoted
  /-- This policy was just created from the proposal. -/
  | promoted (policy : WorkloadNetworkPolicy)

/-- The answer to `Create`, as the reconciler tells it apart. -/
inductive CreateAnswer where
  | created
  | alreadyExists
  | failed (err : Err)

inductive Request where
  | get (key : NamespacedName)
  /-- `Get` of the owner, an object of kind `wk.ownerKind`. -/
  | getOwner (wk : WorkloadRef)
  /-- `Patch` with `MergeFrom`: the owner references are the one thing that differs. -/
  | patchOwnerReferences (proposal : WorkloadNetworkPolicyProposal) (refs : List OwnerReference)
  /-- `List` of the policies promoted from the proposal. -/
  | checkExistingPolicy (ns proposalName : String)
  | create (policy : WorkloadNetworkPolicy)
  | delete (proposal : WorkloadNetworkPolicyProposal) (reason : DeleteReason)

@[reducible] def Request.Resp : Request → Type
  | get _ => Except Err WorkloadNetworkPolicyProposal
  | getOwner _ => Except Err ObjectMeta
  -- the client refreshes the object with the response
  | patchOwnerReferences .. => Except Err WorkloadNetworkPolicyProposal
  | checkExistingPolicy .. => Except Err (List WorkloadNetworkPolicy)
  | create _ => CreateAnswer
  | delete .. => Option Err

/-- A program of the proposal reconciler. -/
abbrev ProposalM (α : Type) : Type := Prog Request.Resp α

def ask (r : Request) : ProposalM r.Resp := Prog.ask r

/-! ## Ownership -/

/-- The known kinds, with the start of a proposal name they give. -/
def knownKinds : List (WorkloadKind × String) :=
  [workloadKindDeployment, workloadKindStatefulSet, workloadKindDaemonSet].map
    fun kind => (kind, toLower kind ++ "-")

def knownSuffixes : List String := ["-ingress", "-egress"]

def ownerRefFromProposalName (ns proposalName : String) : Option WorkloadRef :=
  knownKinds.findSome? fun (kind, start) =>
    (cutPrefix proposalName start).bind fun rest =>
      knownSuffixes.findSome? fun suffix =>
        (cutSuffix rest suffix).bind fun ownerName =>
          if ownerName = "" then none else some { ns := ns, ownerKind := kind, ownerName := ownerName }

/-- What `reconcileOwnership` answers: its error, whether the proposal was deleted, and the proposal as
its patch left it. -/
def reconcileOwnership (ctrl : ControllerLib) (proposal : WorkloadNetworkPolicyProposal) :
    ProposalM (Except Err (Bool × WorkloadNetworkPolicyProposal)) := do
  match ownerRefFromProposalName proposal.ns proposal.name with
  | none => return .ok (false, proposal)
  | some wk =>
    let key : NamespacedName := ⟨wk.ns, wk.ownerName⟩
    match ← ask (.getOwner wk) with
    | .error err =>
      if !err.isNotFound then
        return .error (.wrap ("getting owner " ++ wk.ownerKind ++ " " ++ key.text) err)
      else
        match ← ask (.delete proposal .orphaned) with
        | none => return .ok (true, proposal)
        | some deleteErr =>
          -- a proposal that is gone already counts as not deleted
          match ignoreNotFound deleteErr with
          | some err => return .error err
          | none => return .ok (false, proposal)
    | .ok owner =>
      if (getControllerOf proposal.ownerReferences).map (·.uid) = some owner.uid then
        return .ok (false, proposal)
      else
        match ctrl.setControllerReference owner [] with
        | .error err => return .error (.wrap "setting controller reference" err)
        | .ok refs =>
          match ← ask (.patchOwnerReferences proposal refs) with
          | .error err => return .error (.wrap "patching ownerReference" err)
          | .ok patched => return .ok (false, patched)

section Rule

variable {World : Type} {S : System Request.Resp World} {inv : World → Prop}
  {pre : Request → World → Prop} {Q : Except Err (Bool × WorkloadNetworkPolicyProposal) → World → Prop}
  {I : WorkloadNetworkPolicyProposal → World → Prop}

/-- The rule for `reconcileOwnership`, where `I` says what is known of the proposal in hand: every request
keeps it, the response of the patch takes the proposal's place, and the deletion is asked for only after
the owner was not found. -/
theorem reconcileOwnership_rule (ctrl : ControllerLib) {proposal : WorkloadNetworkPolicyProposal}
    (hstable : ∀ p, S.Stable (I p)) (hinv : ∀ p w, I p w → inv w)
    (hkeep : ∀ r w x w', I proposal w → S.exec r w x w' → I proposal w')
    (hpatched : ∀ refs w patched w', I proposal w →
      S.exec (.patchOwnerReferences proposal refs) w (.ok patched) w' → I patched w')
    (hget : ∀ wk w, I proposal w → pre (.getOwner wk) w)
    (hdelete : ∀ wk err w w', ownerRefFromProposalName proposal.ns proposal.name = some wk →
      S.exec (.getOwner wk) w (.error err) w' → err.isNotFound = true →
        ∀ w, I proposal w → pre (.delete proposal .orphaned) w)
    (hpatch : ∀ refs w, I proposal w → pre (.patchOwnerReferences proposal refs) w)
    (herror : ∀ err w, I proposal w → Q (.error err) w)
    (hok : ∀ deleted p w, I p w → Q (.ok (deleted, p)) w) {w : World} (hw : I proposal w) :
    Safe S inv pre Q (reconcileOwnership ctrl proposal) w := by
  have failed : ∀ err {w}, I proposal w → Safe S inv pre Q (.ret (.error err)) w :=
    fun err w h => .ret (hstable proposal) h fun w h => ⟨hinv _ w h, herror err w h⟩
  have done : ∀ deleted p {w}, I p w → Safe S inv pre Q (.ret (.ok (deleted, p))) w :=
    fun deleted p w h => .ret (hstable p) h fun w h => ⟨hinv _ w h, hok deleted p w h⟩
  unfold reconcileOwnership
  cases hwk : ownerRefFromProposalName proposal.ns proposal.name with
  | none => exact done false proposal hw
  | some wk =>
    refine .ask_bind (hstable proposal) hw (fun w h => ⟨hinv _ w h, hget wk w h⟩) ?_
    intro w x w' hw hans
    have hw' : I proposal w' := hkeep _ w x w' hw hans
    cases x with
    | error err =>
      dsimp only
      split
      next => exact failed _ hw'
      next hfound =>
        have hgone : err.isNotFound = true := by simpa using hfound
        refine .ask_bind (hstable proposal) hw'
          (fun w₁ h => ⟨hinv _ w₁ h, hdelete wk err w w' hwk hans hgone w₁ h⟩) ?_
        intro w x w' hw hans
        have hw' : I proposal w' := hkeep _ w x w' hw hans
        cases x with
        | none => exact done true proposal hw'
        | some deleteErr =>
          dsimp only
          split
          · exact failed _ hw'
          · exact done false proposal hw'
    | ok owner =>
      dsimp only
      split
      · exact done false proposal hw'
      · split
        · exact failed _ hw'
        · refine .ask_bind (hstable proposal) hw' (fun w h => ⟨hinv _ w h, hpatch _ w h⟩) ?_
          intro w x w' hw hans
          cases x with
          | error err => exact failed _ (hkeep _ w _ w' hw hans)
          | ok patched => exact done false patched (hpatched _ w patched w' hw hans)

end Rule

/-! ## Reconcile -/

/-- The last part of `Reconcile`, for a proposal that carries a promotion label. -/
def promote (proposal : WorkloadNetworkPolicyProposal) (mode : WorkloadNetworkPolicyMode) :
    ProposalM (Option Err) := do
  match promotedPolicy proposal mode with
  | .error err => return some err
  | .ok policy =>
    match ← ask (.create policy) with
    | .alreadyExists => return none
    | .failed err => return some (.wrap "failed to create WorkloadNetworkPolicy" err)
    | .created => return (← ask (.delete proposal (.promoted policy))).bind ignoreNotFound

def reconcile (ctrl : ControllerLib) (req : NamespacedName) : ProposalM (Option Err) := do
  match ← ask (.get req) with
  | .error err => return ignoreNotFound err
  | .ok proposal =>
    if proposal.deletionTimestamp.isSome then return none
    else
      match ← reconcileOwnership ctrl proposal with
      | .error err => return some err
      | .ok (true, _) => return none
      | .ok (false, proposal) =>
        match ← ask (.checkExistingPolicy proposal.ns proposal.name) with
        | .error err => return some (.wrap "failed to check promoted WorkloadNetworkPolicy" err)
        | .ok (_ :: _) => return (← ask (.delete proposal .alreadyPromoted)).bind ignoreNotFound
        | .ok [] =>
          match hasPromotionLabel proposal with
          | none => return none
          | some mode => promote proposal mode

end NetworkEnforcer.Learning
