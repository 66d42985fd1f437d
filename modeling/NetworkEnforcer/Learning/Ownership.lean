import NetworkEnforcer.Learning.Promotion

/-!
# Owners of proposals

A proposal belongs to the workload that its name tells.  `reconcileOwnership` looks the workload up, and where the
proposal is not controlled by it, replaces the owner references of the proposal.  The chart installs an admission
policy (`templates/vap/wnpp-owner-reference-immutability.yaml`) that rejects every update of a proposal which drops
the UID of an owner.

* `promoted_only_if_owned` — a proposal is promoted only if a workload object of its name controls it, or in one
  case after the workload is gone: where somebody else has deleted the orphan first, the call goes on;
* `wrong_owner_is_final` — under the admission policy a proposal with the reference of another object is neither
  repaired nor promoted nor deleted.
-/

namespace NetworkEnforcer.Learning

open NetworkEnforcer.Lib NetworkEnforcer.Api NetworkEnforcer.Reconcile

/-! ## The name of the proposal -/

/-- Every version has the name of the proposal. -/
structure Named (key : NamespacedName) (w : World) : Prop where
  versions : ∀ v ∈ w.versions, v.namespacedName = key
  stored : ∀ p, w.proposal = some p → p ∈ w.versions

section Named

variable {lib : Apimachinery} {key : NamespacedName} {w w' : World}

lemma Named.store (h : Named key w) {p : WorkloadNetworkPolicyProposal} (hp : p.namespacedName = key)
    (learned : List (Nat × LearnerUpdate)) : Named key { w.store p with learned := learned } where
  versions := List.forall_mem_cons.2 ⟨hp, h.versions⟩
  stored q hq := by
    obtain rfl := Option.some.inj hq
    exact List.mem_cons_self ..

lemma Named.name (h : Named key w) {p : WorkloadNetworkPolicyProposal} (hp : w.proposal = some p) :
    p.namespacedName = key :=
  h.versions p (h.stored p hp)

lemma Named.forget (h : Named key w) : Named key { w with proposal := none } where
  versions := h.versions
  stored _ hp := by cases hp

lemma Named.interference (h : Named key w) (hstep : Interference lib key w w') : Named key w' := by
  cases hstep with
  | @learn old u spec hold _ _ _ =>
    have hname := h.name hold
    exact h.store (p := { old with spec := spec }) hname _
  | @learnFirst u spec _ hu _ => exact h.store (p := { u.metadata with spec := spec }) hu _
  | editMetadata hold _ hname => exact h.store (hname.trans (h.name hold)) _
  | delete => exact h.forget
  | editPolicies => exact ⟨h.versions, h.stored⟩

lemma Named.answers (h : Named key w) {r : Request} {x : r.Resp} (hans : Answers r w x w') : Named key w' := by
  rcases answers_cases hans with rfl | ⟨old, refs, hold, rfl⟩ | ⟨policies, rfl⟩ | rfl
  · exact h
  · have hname := h.name hold
    exact h.store (p := { old with ownerReferences := refs }) hname _
  · exact ⟨h.versions, h.stored⟩
  · exact h.forget

lemma named_start {start : Option WorkloadNetworkPolicyProposal} (hstart : ∀ p, start = some p → p.namespacedName = key)
    (policies : Store WorkloadNetworkPolicy.key) : Named key (World.start start policies) where
  versions v hv := hstart v (Option.mem_toList.1 hv)
  stored _ hp := Option.mem_toList.2 hp

/-- Two proposals of one name are for the same workload. -/
lemma ownerRef_of_namespacedName {p : WorkloadNetworkPolicyProposal} (hp : p.namespacedName = key) :
    ownerRefFromProposalName p.ns p.name = ownerRefFromProposalName key.ns key.name := by
  rw [← hp]
  rfl

end Named

/-! ## Promotion needs an owner -/

/-- The proposal and the policies, and what the API server has answered to the current call. -/
structure CallWorld extends World where
  answers : List (Sigma Request.Resp) := []

/-- A call starts by reading the proposal. -/
def Request.startsCall : Request → Bool
  | get _ => true
  | _ => false

/-- The answers to the call after one more. -/
def answersAfter (answers : List (Sigma Request.Resp)) (r : Request) (x : r.Resp) : List (Sigma Request.Resp) :=
  if r.startsCall then [] else ⟨r, x⟩ :: answers

/-- The reconciler and everybody else, with the answers of the call. -/
def callSystem (lib : Apimachinery) (key : NamespacedName) : System Request.Resp CallWorld where
  exec r w x w' := Answers r w.toWorld x w'.toWorld ∧ w'.answers = answersAfter w.answers r x
  env w w' := Interference lib key w.toWorld w'.toWorld ∧ w'.answers = w.answers

/-- By these answers a workload object of the name of the proposal controls it; or the workload is missing, and so is
the proposal that was to be deleted. -/
def ControlledByWorkload (answers : List (Sigma Request.Resp)) (p : WorkloadNetworkPolicyProposal) : Prop :=
  ∀ wk, ownerRefFromProposalName p.ns p.name = some wk →
    (∃ owner, ⟨.getOwner wk, .ok owner⟩ ∈ answers ∧ isControlledBy p.ownerReferences owner.uid = true) ∨
      ∃ err proposal deleteErr, ⟨.getOwner wk, .error err⟩ ∈ answers ∧ err.isNotFound = true ∧
        ⟨.delete proposal .orphaned, some deleteErr⟩ ∈ answers ∧ deleteErr.isNotFound = true

lemma ControlledByWorkload.mono {answers answers' : List (Sigma Request.Resp)} {p : WorkloadNetworkPolicyProposal}
    (h : ControlledByWorkload answers p) (hsub : answers ⊆ answers') : ControlledByWorkload answers' p := by
  intro wk hwk
  rcases h wk hwk with ⟨owner, howner, hcontrolled⟩ | ⟨err, proposal, deleteErr, hmissing, herr, hdelete, hdeleteErr⟩
  · exact .inl ⟨owner, hsub howner, hcontrolled⟩
  · exact .inr ⟨err, proposal, deleteErr, hsub hmissing, herr, hsub hdelete, hdeleteErr⟩

/-- A version of the proposal, and answers that the call has got. -/
structure Holding (key : NamespacedName) (p : WorkloadNetworkPolicyProposal) (known : List (Sigma Request.Resp))
    (w : CallWorld) : Prop where
  named : Named key w.toWorld
  version : p ∈ w.versions
  known : known ⊆ w.answers

/-- What is promoted is a version that is owned. -/
def PromotesOwned : Request → CallWorld → Prop
  | .create policy, w =>
    ∃ p ∈ w.versions, ControlledByWorkload w.answers p ∧ ∃ mode, promotedPolicy p mode = .ok policy
  | _, _ => True

section Owned

variable {lib : Apimachinery} {key : NamespacedName} {ctrl : ControllerLib} {p : WorkloadNetworkPolicyProposal}
  {known : List (Sigma Request.Resp)}

lemma stable_named : (callSystem lib key).Stable fun w => Named key w.toWorld := fun _ _ h hstep =>
  h.interference hstep.1

lemma stable_holding (p : WorkloadNetworkPolicyProposal) (known : List (Sigma Request.Resp)) :
    (callSystem lib key).Stable (Holding key p known) := by
  intro w w' h hstep
  refine ⟨h.named.interference hstep.1, versions_subset_interference hstep.1 h.version, ?_⟩
  rw [hstep.2]
  exact h.known

/-- A request in the middle of a call adds its answer to those that are known. -/
lemma Holding.answers {r : Request} (hr : r.startsCall = false) {w w' : CallWorld} {x : r.Resp}
    (h : Holding key p known w) (hans : (callSystem lib key).exec r w x w') :
    Holding key p (⟨r, x⟩ :: known) w' := by
  refine ⟨h.named.answers hans.1, versions_subset_answers hans.1 h.version, ?_⟩
  have hlog : w'.answers = ⟨r, x⟩ :: w.answers := by
    rw [hans.2, answersAfter, hr]
    rfl
  rw [hlog]
  exact List.cons_subset_cons _ h.known

/-- Safety of a program of the reconciler. -/
abbrev SafeOwned (lib : Apimachinery) (key : NamespacedName) {α : Type} (Q : α → CallWorld → Prop)
    (p : ProposalM α) (w : CallWorld) : Prop :=
  Safe (callSystem lib key) (fun w : CallWorld => Named key w.toWorld) PromotesOwned Q p w

/-- A request with a version in hand. -/
lemma safeOwned_ask {α : Type} {Q : α → CallWorld → Prop} {r : Request} (hmid : r.startsCall = false)
    {f : r.Resp → ProposalM α} {w : CallWorld} (hw : Holding key p known w)
    (hr : ∀ w, Holding key p known w → PromotesOwned r w)
    (h : ∀ (w : CallWorld) x (w' : CallWorld), Answers r w.toWorld x w'.toWorld → Holding key p (⟨r, x⟩ :: known) w' →
      SafeOwned lib key Q (f x) w') :
    SafeOwned lib key Q (ask r >>= f) w :=
  Safe.ask_bind (stable_holding p known) hw (fun w h => ⟨h.named, hr w h⟩)
    fun w x w' hw hans => h w x w' hans.1 (hw.answers hmid hans)

lemma safeOwned_end {w : CallWorld} (err : Option Err) (hw : Named key w.toWorld) :
    SafeOwned lib key (fun _ w => Named key w.toWorld) (.ret err) w :=
  Safe.ret stable_named hw fun _ h => ⟨h, h⟩

/-- What `reconcileOwnership` hands on. -/
def HandsOnOwned (key : NamespacedName) (res : Except Err (Bool × WorkloadNetworkPolicyProposal)) (w : CallWorld) :
    Prop :=
  Named key w.toWorld ∧ ∀ p, res = .ok (false, p) → p ∈ w.versions ∧ ControlledByWorkload w.answers p

lemma safeOwned_failed {w : CallWorld} (err : Err) (hw : Named key w.toWorld) :
    SafeOwned lib key (HandsOnOwned key) (.ret (.error err)) w := by
  refine Safe.ret stable_named hw fun w h => ⟨h, h, ?_⟩
  intro p heq
  cases heq

/-- The proposal that is handed on. -/
lemma safeOwned_handOn {w : CallWorld} (hw : Holding key p known w) (hp : ControlledByWorkload known p) :
    SafeOwned lib key (HandsOnOwned key) (.ret (.ok (false, p))) w := by
  refine Safe.ret (stable_holding p known) hw fun w h => ⟨h.named, h.named, ?_⟩
  intro q heq
  cases heq
  exact ⟨h.version, hp.mono h.known⟩

lemma isControlledBy_iff {refs : List OwnerReference} {uid : String} :
    isControlledBy refs uid = true ↔ (getControllerOf refs).map (·.uid) = some uid := by
  unfold isControlledBy
  cases getControllerOf refs with
  | none => simp
  | some ref => simp

lemma isNotFound_of_ignored {err : Err} (h : ignoreNotFound err = none) : err.isNotFound = true := by
  unfold ignoreNotFound at h
  split at h
  next hnotFound => exact hnotFound
  next => cases h

/-- The response to the patch is the stored proposal, with the new references. -/
lemma patched_of_answers {proposal patched : WorkloadNetworkPolicyProposal} {refs : List OwnerReference} {w w' : World}
    (hans : Answers (.patchOwnerReferences proposal refs) w (.ok patched) w') (hw : Named key w') :
    patched ∈ w'.versions ∧ patched.ownerReferences = refs := by
  obtain ⟨old, hold, ⟨rfl, rfl, hsame⟩ | ⟨rfl, hstored⟩⟩ := hans
  · rw [← hsame] at hold
    exact ⟨hw.stored _ hold, rfl⟩
  · refine ⟨?_, rfl⟩
    rw [hstored]
    exact List.mem_cons_self ..

/-- **A proposal that is handed on is owned**, whichever way `reconcileOwnership` takes. -/
theorem reconcileOwnership_owned {proposal : WorkloadNetworkPolicyProposal} {w : CallWorld}
    (hw : Holding key proposal [] w) :
    SafeOwned lib key (HandsOnOwned key) (reconcileOwnership ctrl proposal) w := by
  unfold reconcileOwnership
  cases hwk : ownerRefFromProposalName proposal.ns proposal.name with
  | none =>
    refine safeOwned_handOn hw fun wk hwk' => ?_
    rw [hwk] at hwk'
    cases hwk'
  | some wk =>
    refine safeOwned_ask rfl hw (fun _ _ => trivial) ?_
    intro w x w' _ hw
    cases x with
    | error err =>
      dsimp only
      split
      next => exact safeOwned_failed _ hw.named
      next hfound =>
        refine safeOwned_ask rfl hw (fun _ _ => trivial) ?_
        intro w x w' _ hw
        cases x with
        | none =>
          refine Safe.ret stable_named hw.named fun w h => ⟨h, h, ?_⟩
          intro p heq
          cases heq
        | some deleteErr =>
          dsimp only
          split
          next => exact safeOwned_failed _ hw.named
          next hignored =>
            -- the orphan is gone already, and the call goes on
            refine safeOwned_handOn hw fun wk' hwk' => .inr ?_
            obtain rfl := Option.some.inj (hwk.symm.trans hwk')
            exact ⟨err, proposal, deleteErr, List.mem_cons_of_mem _ (List.mem_singleton_self _), by simpa using hfound,
              List.mem_cons_self .., isNotFound_of_ignored hignored⟩
    | ok owner =>
      dsimp only
      split
      next hcontrolled =>
        refine safeOwned_handOn hw fun wk' hwk' => .inl ⟨owner, ?_, isControlledBy_iff.2 hcontrolled⟩
        obtain rfl := Option.some.inj (hwk.symm.trans hwk')
        exact List.mem_singleton_self _
      next =>
        cases hrefs : ctrl.setControllerReference owner [] with
        | error err => exact safeOwned_failed _ hw.named
        | ok refs =>
          refine safeOwned_ask rfl hw (fun _ _ => trivial) ?_
          intro w x w' hans hw
          cases x with
          | error err => exact safeOwned_failed _ hw.named
          | ok patched =>
            have hcontrolled := ctrl.setControllerReference_ok hrefs
            obtain ⟨hversion, hpatched⟩ := patched_of_answers hans hw.named
            refine safeOwned_handOn ⟨hw.named, hversion, hw.known⟩ ?_
            intro wk' hwk'
            rw [ownerRef_of_namespacedName (hw.named.versions _ hversion),
              ← ownerRef_of_namespacedName (hw.named.versions _ hw.version), hwk] at hwk'
            obtain rfl := Option.some.inj hwk'
            refine .inl ⟨owner, List.mem_cons_of_mem _ (List.mem_singleton_self _), ?_⟩
            rw [hpatched]
            exact hcontrolled

lemma promote_owned {proposal : WorkloadNetworkPolicyProposal} {mode : WorkloadNetworkPolicyMode} {w : CallWorld}
    (hw : Holding key proposal known w) (hp : ControlledByWorkload known proposal) :
    SafeOwned lib key (fun _ w => Named key w.toWorld) (promote proposal mode) w := by
  unfold promote
  cases hpolicy : promotedPolicy proposal mode with
  | error err => exact safeOwned_end _ hw.named
  | ok policy =>
    refine safeOwned_ask rfl hw
      (fun w h => ⟨proposal, h.version, hp.mono h.known, mode, hpolicy⟩) ?_
    intro w x w' _ hw
    cases x with
    | alreadyExists => exact safeOwned_end _ hw.named
    | failed err => exact safeOwned_end _ hw.named
    | created =>
      refine safeOwned_ask rfl hw (fun _ _ => trivial) ?_
      intro w x w' _ hw
      exact safeOwned_end _ hw.named

lemma reconcile_owned {w : CallWorld} (hw : Named key w.toWorld) :
    SafeOwned lib key (fun _ w => Named key w.toWorld) (reconcile ctrl key) w := by
  unfold reconcile
  refine Safe.ask_bind stable_named hw (fun w h => ⟨h, trivial⟩) ?_
  intro w x w' hw hans
  have hw' : Named key w'.toWorld := hw.answers hans.1
  obtain ⟨⟨hsame, hread⟩, -⟩ := hans
  cases x with
  | error err => exact safeOwned_end _ hw'
  | ok proposal =>
    have hversion : proposal ∈ w'.versions := by
      rw [hsame]
      exact hread proposal rfl
    dsimp only
    split
    · exact safeOwned_end _ hw'
    · refine Safe.bind (reconcileOwnership_owned ⟨hw', hversion, List.nil_subset _⟩) ?_
      intro res w hres
      rcases res with err | ⟨deleted, proposal⟩
      · exact safeOwned_end _ hres.1
      · cases deleted with
        | true => exact safeOwned_end _ hres.1
        | false =>
          obtain ⟨hversion, howned⟩ := hres.2 proposal rfl
          have hw : Holding key proposal w.answers w := ⟨hres.1, hversion, List.Subset.refl _⟩
          refine safeOwned_ask rfl hw (fun _ _ => trivial) ?_
          intro w x w' _ hw
          rcases x with err | policies
          · exact safeOwned_end _ hw.named
          · cases policies with
            | cons policy policies =>
              refine safeOwned_ask rfl hw (fun _ _ => trivial) ?_
              intro w x w' _ hw
              exact safeOwned_end _ hw.named
            | nil =>
              dsimp only
              split
              · exact safeOwned_end _ hw.named
              · exact promote_owned hw (howned.mono (List.subset_cons_self ..))

end Owned

/-- **Only an owned proposal is promoted.**  Whatever the learner and others do, whenever a call of `Reconcile` is
about to create a policy: it is a copy of a version of the proposal, and if the name of the proposal tells a
workload, then that version is controlled by an object which this call has found under that name; or this call has
found no such workload, and the proposal was not found either when the call was deleting it. -/
theorem promoted_only_if_owned {lib : Apimachinery} {ctrl : ControllerLib} {key : NamespacedName}
    {start : Option WorkloadNetworkPolicyProposal} (hstart : ∀ p, start = some p → p.namespacedName = key)
    {policies : Store WorkloadNetworkPolicy.key} {w : CallWorld} {policy : WorkloadNetworkPolicy}
    {k : CreateAnswer → ProposalM (Option Err)}
    (hrun : (callSystem lib key).Runs (reconcile ctrl key) ({ World.start start policies with }, reconcile ctrl key)
      (w, .call (.create policy) k)) :
    ∃ p ∈ w.versions, ControlledByWorkload w.answers p ∧ ∃ mode, promotedPolicy p mode = .ok policy := by
  have hsafe := Safe.reachable (fun _ _ h => reconcile_owned h) (reconcile_owned (named_start hstart policies)) hrun
  exact hsafe.request

/-- The orphan is gone when it is to be deleted: its policy is created all the same. -/
lemma runs_orphan {lib : Apimachinery} {ctrl : ControllerLib} {key : NamespacedName}
    {body : ProposalM (Option Err)} {c : CallWorld × ProposalM (Option Err)} {w : CallWorld}
    {p : WorkloadNetworkPolicyProposal} {wk : WorkloadRef} {mode : WorkloadNetworkPolicyMode}
    {policy : WorkloadNetworkPolicy} (h : (callSystem lib key).Runs body c (w, reconcile ctrl key))
    (hversion : p ∈ w.versions) (hdeletion : p.deletionTimestamp = none)
    (hwk : ownerRefFromProposalName p.ns p.name = some wk) (hlabel : hasPromotionLabel p = some mode)
    (hpolicy : promotedPolicy p mode = .ok policy) :
    ∃ w' k, (callSystem lib key).Runs body c (w', .call (.create policy) k) := by
  have hget : (callSystem lib key).exec (.get key) w (.ok p) ⟨w.toWorld, []⟩ := by
    refine ⟨⟨rfl, fun q hq => ?_⟩, rfl⟩
    obtain rfl := Except.ok.inj hq
    exact hversion
  unfold reconcile at h
  have hread := h.ask hget
  simp only [hdeletion, Option.isSome_none, Bool.false_eq_true, if_false, reconcileOwnership, hwk] at hread
  have hmissing : (callSystem lib key).exec (.getOwner wk) ⟨w.toWorld, []⟩ (.error (.notFound "workload not found"))
    ⟨w.toWorld, [⟨.getOwner wk, .error (.notFound "workload not found")⟩]⟩ := ⟨rfl, rfl⟩
  have howner := hread.ask_bind hmissing
  simp only [Err.isNotFound, Bool.not_true, Bool.false_eq_true, if_false] at howner
  -- somebody else comes first
  let gone : World := { w.toWorld with proposal := none }
  have hstep : (callSystem lib key).env ⟨w.toWorld, [⟨.getOwner wk, .error (.notFound "workload not found")⟩]⟩
    ⟨gone, [⟨.getOwner wk, .error (.notFound "workload not found")⟩]⟩ := ⟨.delete, rfl⟩
  have hvanished : (callSystem lib key).exec (.delete p .orphaned)
      ⟨gone, [⟨.getOwner wk, .error (.notFound "workload not found")⟩]⟩ (some (.notFound "proposal not found"))
      ⟨gone, [⟨.delete p .orphaned, some (.notFound "proposal not found")⟩,
        ⟨.getOwner wk, .error (.notFound "workload not found")⟩]⟩ := ⟨rfl, rfl⟩
  have hdelete := (howner.env hstep).ask_bind hvanished
  simp only [ignoreNotFound, Err.isNotFound, if_true] at hdelete
  have hunused : ∀ answers, (callSystem lib key).exec (.checkExistingPolicy p.ns p.name) ⟨gone, answers⟩ (.ok [])
    ⟨gone, ⟨.checkExistingPolicy p.ns p.name, .ok []⟩ :: answers⟩ := fun _ => ⟨rfl, rfl⟩
  have hlist := Lib.System.Runs.ask hdelete (hunused _)
  simp only [hlabel, promote, hpolicy] at hlist
  exact ⟨_, _, hlist⟩

/-- The second case happens: the proposal of a workload that does not exist is promoted. -/
theorem promoted_only_if_owned_orphan : ∃ policy w k,
    (callSystem .documented labelledProposal.namespacedName).Runs
      (reconcile (.direct 0) labelledProposal.namespacedName)
      ({ World.start (some labelledProposal) (.ofList []) with }, reconcile (.direct 0) labelledProposal.namespacedName)
      (w, .call (.create policy) k) ∧
    ∃ p ∈ w.versions, ControlledByWorkload w.answers p ∧ ∃ mode, promotedPolicy p mode = .ok policy := by
  obtain ⟨policy, hpolicy⟩ := exists_promotedPolicy labelledProposal (by decide) .monitor
  have hname : ∀ p, some labelledProposal = some p → p.namespacedName = labelledProposal.namespacedName := by
    intro p hp
    rw [← Option.some.inj hp]
  obtain ⟨w, k, hrun⟩ : ∃ w k, (callSystem .documented labelledProposal.namespacedName).Runs
      (reconcile (.direct 0) labelledProposal.namespacedName)
      ({ World.start (some labelledProposal) (.ofList []) with }, reconcile (.direct 0) labelledProposal.namespacedName)
      (w, .call (.create policy) k) :=
    runs_orphan .refl (List.mem_singleton.2 rfl) rfl rfl rfl hpolicy
  exact ⟨policy, w, k, hrun, promoted_only_if_owned hname hrun⟩

/-! ## A wrong owner -/

/-- What the API server answers about workloads in the course of time. -/
structure Answered where
  /-- The workload objects that are found under the name of a workload. -/
  owners : WorkloadRef → List ObjectMeta
  /-- The workload is not found. -/
  missing : WorkloadRef → Prop

/-- The answer is one of them. -/
def Answered.Allows (a : Answered) : (r : Request) → r.Resp → Prop
  | .getOwner wk, x => (∀ owner, x = .ok owner → owner ∈ a.owners wk) ∧
      ∀ err, x = .error err → err.isNotFound = true → a.missing wk
  | _, _ => True

/-- The validation of `wnpp-owner-reference-immutability`: every owner stays, by its UID. -/
def keepsOwners (old new : List OwnerReference) : Bool := old.all fun o => new.any fun n => n.uid = o.uid

/-- An update that the admission policy lets pass. -/
def Admitted (w w' : World) : Prop :=
  ∀ old new, w.proposal = some old → w'.proposal = some new →
    keepsOwners old.ownerReferences new.ownerReferences = true

/-- The admission policy is installed, and others neither delete the proposal nor change its owner references. -/
def guardedSystem (lib : Apimachinery) (key : NamespacedName) (a : Answered) : System Request.Resp World where
  exec r w x w' := Answers r w x w' ∧ a.Allows r x ∧ Admitted w w'
  env w w' := Interference lib key w w' ∧ ∀ old, w.proposal = some old →
    ∃ new, w'.proposal = some new ∧ new.ownerReferences = old.ownerReferences

/-- The proposal is there, and every version has these owner references. -/
structure Held (key : NamespacedName) (refs : List OwnerReference) (w : World) : Prop where
  named : Named key w
  references : ∀ v ∈ w.versions, v.ownerReferences = refs
  present : ∃ p, w.proposal = some p

/-- The request creates no policy and deletes nothing. -/
def Idles : Request → World → Prop
  | .create _, _ => False
  | .delete .., _ => False
  | _, _ => True

/-- The owner references are those of other objects than the workload. -/
def Foreign (owners : List ObjectMeta) (refs : List OwnerReference) : Prop :=
  ∀ owner ∈ owners, isControlledBy refs owner.uid = false ∧ ∃ ref ∈ refs, ref.uid ≠ owner.uid

section Held

variable {lib : Apimachinery} {key : NamespacedName} {a : Answered} {ctrl : ControllerLib} {wk : WorkloadRef}
  {refs : List OwnerReference} {w w' : World}

lemma Held.store (h : Held key refs w) {p : WorkloadNetworkPolicyProposal} (hp : p.namespacedName = key)
    (hrefs : p.ownerReferences = refs) (learned : List (Nat × LearnerUpdate)) :
    Held key refs { w.store p with learned := learned } where
  named := h.named.store hp learned
  references := List.forall_mem_cons.2 ⟨hrefs, h.references⟩
  present := ⟨_, rfl⟩

lemma Held.interference (h : Held key refs w) (hstep : (guardedSystem lib key a).env w w') : Held key refs w' := by
  obtain ⟨hstep, hkeep⟩ := hstep
  obtain ⟨p, hp⟩ := h.present
  obtain ⟨new, hnew, hsame⟩ := hkeep p hp
  cases hstep with
  | @learn old u spec hold _ _ _ =>
    have hname := h.named.name hold
    have hrefs := h.references old (h.named.stored old hold)
    exact h.store (p := { old with spec := spec }) hname hrefs _
  | learnFirst hnone _ _ =>
    rw [hp] at hnone
    cases hnone
  | editMetadata hold _ hname =>
    refine h.store (hname.trans (h.named.name hold)) ?_ _
    obtain rfl := Option.some.inj hnew
    exact hsame.trans (h.references p (h.named.stored p hp))
  | delete => cases hnew
  | editPolicies => exact ⟨⟨h.named.versions, h.named.stored⟩, h.references, h.present⟩

lemma stable_held : (guardedSystem lib key a).Stable (Held key refs) := fun _ _ h hstep => h.interference hstep

/-- Safety of a program, with nothing to be done. -/
abbrev SafeHeld (lib : Apimachinery) (key : NamespacedName) (a : Answered) (refs : List OwnerReference) {α : Type}
    (Q : α → World → Prop) (p : ProposalM α) (w : World) : Prop :=
  Safe (guardedSystem lib key a) (Held key refs) Idles Q p w

lemma safeHeld_end {α : Type} (x : α) {P : α → Prop} (hx : P x) (hw : Held key refs w) :
    SafeHeld lib key a refs (fun x w => Held key refs w ∧ P x) (.ret x) w :=
  Safe.ret stable_held hw fun _ h => ⟨h, h, hx⟩

/-- **The repair fails**: the admission policy does not let the other owners go. -/
theorem reconcileOwnership_fails (hwk : ownerRefFromProposalName key.ns key.name = some wk)
    (hthere : ¬ a.missing wk) (hforeign : Foreign (a.owners wk) refs)
    (hctrl : ∀ owner refs', ctrl.setControllerReference owner [] = .ok refs' → ∀ ref ∈ refs', ref.uid = owner.uid)
    {proposal : WorkloadNetworkPolicyProposal} (hp : proposal ∈ w.versions) (hw : Held key refs w) :
    SafeHeld lib key a refs (fun res w => Held key refs w ∧ ∃ err, res = .error err)
      (reconcileOwnership ctrl proposal) w := by
  have hrefs := hw.references proposal hp
  unfold reconcileOwnership
  rw [ownerRef_of_namespacedName (hw.named.versions proposal hp), hwk]
  refine Safe.ask_bind stable_held hw (fun w h => ⟨h, trivial⟩) ?_
  rintro w x w' hw ⟨rfl, hallow, -⟩
  cases x with
  | error err =>
    dsimp only
    split
    next => exact safeHeld_end _ ⟨_, rfl⟩ hw
    next hfound => exact absurd (hallow.2 err rfl (by simpa using hfound)) hthere
  | ok owner =>
    obtain ⟨hcontrolled, ref, href, huid⟩ := hforeign owner (hallow.1 owner rfl)
    have hnot : ¬ (getControllerOf proposal.ownerReferences).map (·.uid) = some owner.uid := by
      rw [hrefs, ← isControlledBy_iff, hcontrolled]
      exact Bool.false_ne_true
    dsimp only
    rw [if_neg hnot]
    cases hset : ctrl.setControllerReference owner [] with
    | error err => exact safeHeld_end _ ⟨_, rfl⟩ hw
    | ok refs' =>
      refine Safe.ask_bind stable_held hw (fun w h => ⟨h, trivial⟩) ?_
      rintro w x w' hw ⟨hans, -, hadmitted⟩
      cases x with
      | error err =>
        obtain rfl := hans
        exact safeHeld_end _ ⟨_, rfl⟩ hw
      | ok patched =>
        exfalso
        obtain ⟨old, hold, ⟨hsame, -, -⟩ | ⟨-, rfl⟩⟩ := hans
        · -- the references of the workload are not those of the proposal
          have hnew := ctrl.setControllerReference_ok hset
          rw [hsame, hw.references old (hw.named.stored old hold), hcontrolled] at hnew
          cases hnew
        · have hkeeps := hadmitted old _ hold rfl
          rw [hw.references old (hw.named.stored old hold)] at hkeeps
          obtain ⟨new, hnew, heq⟩ := List.any_eq_true.1 (List.all_eq_true.1 hkeeps ref href)
          have heq : new.uid = ref.uid := of_decide_eq_true heq
          exact huid (heq.symm.trans (hctrl owner refs' hset new hnew))

lemma reconcile_fails (hwk : ownerRefFromProposalName key.ns key.name = some wk)
    (hthere : ¬ a.missing wk) (hforeign : Foreign (a.owners wk) refs)
    (hctrl : ∀ owner refs', ctrl.setControllerReference owner [] = .ok refs' → ∀ ref ∈ refs', ref.uid = owner.uid)
    (hw : Held key refs w) :
    SafeHeld lib key a refs (fun _ w => Held key refs w) (reconcile ctrl key) w := by
  have hend : ∀ (err : Option Err) {w}, Held key refs w →
      SafeHeld lib key a refs (fun _ w => Held key refs w) (.ret err) w := by
    intro err w hw
    exact Safe.ret stable_held hw fun _ h => ⟨h, h⟩
  unfold reconcile
  refine Safe.ask_bind stable_held hw (fun w h => ⟨h, trivial⟩) ?_
  rintro w x w' hw ⟨⟨rfl, hread⟩, -⟩
  cases x with
  | error err => exact hend _ hw
  | ok proposal =>
    dsimp only
    split
    · exact hend _ hw
    · refine Safe.bind (reconcileOwnership_fails hwk hthere hforeign hctrl (hread proposal rfl) hw) ?_
      rintro res w ⟨hw, err, rfl⟩
      exact hend _ hw

end Held

/-- **A wrong owner is final.**  The admission policy of the chart is installed; the workload that the name of a
proposal tells exists, but does not control the proposal, which names an owner with another UID.  As long as nobody
else deletes the proposal or changes its owner references, no call of `Reconcile` does either: the references are
never repaired, and the proposal is not promoted, whatever its label says. -/
theorem wrong_owner_is_final {lib : Apimachinery} {ctrl : ControllerLib} {key : NamespacedName} {a : Answered}
    {wk : WorkloadRef} {first : WorkloadNetworkPolicyProposal} (hfirst : first.namespacedName = key)
    (hwk : ownerRefFromProposalName key.ns key.name = some wk) (hthere : ¬ a.missing wk)
    (hforeign : Foreign (a.owners wk) first.ownerReferences)
    (hctrl : ∀ owner refs, ctrl.setControllerReference owner [] = .ok refs → ∀ ref ∈ refs, ref.uid = owner.uid)
    {policies : Store WorkloadNetworkPolicy.key} {w : World} {p : ProposalM (Option Err)}
    (hrun : (guardedSystem lib key a).Runs (reconcile ctrl key)
      (World.start (some first) policies, reconcile ctrl key) (w, p)) :
    (∃ stored, w.proposal = some stored ∧ stored.ownerReferences = first.ownerReferences) ∧
      (∀ policy k, p ≠ .call (.create policy) k) ∧ ∀ proposal reason k, p ≠ .call (.delete proposal reason) k := by
  have hstart : Held key first.ownerReferences (World.start (some first) policies) := by
    refine ⟨named_start ?_ policies, ?_, ⟨first, rfl⟩⟩
    · intro q hq
      rw [← Option.some.inj hq]
      exact hfirst
    · intro v hv
      rw [List.mem_singleton.1 hv]
  have hsafe := Safe.reachable (fun _ _ h => reconcile_fails hwk hthere hforeign hctrl h)
    (reconcile_fails hwk hthere hforeign hctrl hstart) hrun
  refine ⟨?_, ?_, ?_⟩
  · obtain ⟨stored, hstored⟩ := hsafe.inv_holds.present
    exact ⟨stored, hstored, hsafe.inv_holds.references stored (hsafe.inv_holds.named.stored stored hstored)⟩
  · rintro policy k rfl
    exact hsafe.request
  · rintro proposal reason k rfl
    exact hsafe.request

/-- The workload has been created again: the object has another UID than the owner of the proposal. -/
def recreated : Answered where
  owners _ := [{ name := "web", ns := "shop", uid := "u2" }]
  missing _ := False

/-- The repair of the reference to the workload as it was is rejected. -/
lemma runs_rejected {lib : Apimachinery} {ctrl : ControllerLib} {key : NamespacedName} {a : Answered}
    {body : ProposalM (Option Err)} {c : World × ProposalM (Option Err)} {w : World}
    {p : WorkloadNetworkPolicyProposal} {wk : WorkloadRef} {owner : ObjectMeta} {refs : List OwnerReference}
    (h : (guardedSystem lib key a).Runs body c (w, reconcile ctrl key))
    (hversion : p ∈ w.versions) (hdeletion : p.deletionTimestamp = none)
    (hwk : ownerRefFromProposalName p.ns p.name = some wk) (howner : owner ∈ a.owners wk)
    (hnot : ¬ (getControllerOf p.ownerReferences).map (·.uid) = some owner.uid)
    (hrefs : ctrl.setControllerReference owner [] = .ok refs) :
    ∃ err, (guardedSystem lib key a).Runs body c (w, .ret (some err)) := by
  have hkeeps : Admitted w w := by
    intro old new hold hnew
    obtain rfl := Option.some.inj (hold.symm.trans hnew)
    exact List.all_eq_true.2 fun ref href => List.any_eq_true.2 ⟨ref, href, decide_eq_true rfl⟩
  have hget : Answers (.get key) w (.ok p) w := by
    refine ⟨rfl, fun q hq => ?_⟩
    obtain rfl := Except.ok.inj hq
    exact hversion
  have hgetOwner : a.Allows (.getOwner wk) (.ok owner) := by
    refine ⟨fun found hfound => ?_, fun err herr => ?_⟩
    · obtain rfl := Except.ok.inj hfound
      exact howner
    · cases herr
  unfold reconcile at h
  have hread := h.ask ⟨hget, trivial, hkeeps⟩
  simp only [hdeletion, Option.isSome_none, Bool.false_eq_true, if_false, reconcileOwnership, hwk] at hread
  have hfound := hread.ask_bind ⟨rfl, hgetOwner, hkeeps⟩
  simp only [hnot, if_false, hrefs] at hfound
  have hdenied : Answers (.patchOwnerReferences p refs) w (.error (.other "denied request")) w := rfl
  exact ⟨_, hfound.ask_bind ⟨hdenied, trivial, hkeeps⟩⟩

/-- The proposal of a workload that has been created again is not promoted, for all its label. -/
theorem wrong_owner_is_final_recreated : ∃ err w,
    (guardedSystem .documented labelledProposal.namespacedName recreated).Runs
      (reconcile (.direct 0) labelledProposal.namespacedName)
      (World.start (some labelledProposal) (.ofList []), reconcile (.direct 0) labelledProposal.namespacedName)
      (w, .ret (some err)) ∧
    ∃ stored, w.proposal = some stored ∧ stored.ownerReferences = labelledProposal.ownerReferences := by
  have hforeign : ∀ wk, Foreign (recreated.owners wk) labelledProposal.ownerReferences := by
    intro wk owner howner
    rw [List.mem_singleton.1 howner]
    exact ⟨rfl, _, List.mem_singleton.2 rfl, by decide⟩
  have hctrl : ∀ owner refs, (ControllerLib.direct 0).setControllerReference owner [] = .ok refs →
      ∀ ref ∈ refs, ref.uid = owner.uid := by
    intro owner refs h ref href
    obtain rfl := Except.ok.inj h
    rw [List.mem_singleton.1 href]
  obtain ⟨err, hrun⟩ : ∃ err, (guardedSystem .documented labelledProposal.namespacedName recreated).Runs
      (reconcile (.direct 0) labelledProposal.namespacedName)
      (World.start (some labelledProposal) (.ofList []), reconcile (.direct 0) labelledProposal.namespacedName)
      (World.start (some labelledProposal) (.ofList []), .ret (some err)) :=
    runs_rejected .refl (List.mem_singleton.2 rfl) rfl rfl (List.mem_singleton.2 rfl) (by decide) rfl
  exact ⟨err, _, hrun, (wrong_owner_is_final rfl rfl id (hforeign _) hctrl hrun).1⟩

end NetworkEnforcer.Learning
