import NetworkEnforcer.Learner.Program

/-!
# What becomes of an accepted event

An event that `enqueueEvent` has accepted is in the channel, in the queue or in the hands of the worker, until it
is accounted for: each of its two rules (one, for istio) is in the stored proposal, or the worker has left it to a
promoted policy that it was shown while it worked on the event (`LeftTo`), or somebody else has deleted or rewritten
the proposal.

* `Grows` — what a step of anybody keeps, and `Inv` — the invariant of every run;
* `Inv.others`, `Inv.answers` — one step of the others, and of the worker.
-/

namespace NetworkEnforcer.Learner

open NetworkEnforcer.Lib NetworkEnforcer.Api NetworkEnforcer.Reconcile
open NetworkEnforcer.Learning hiding World Request ask reconcile system

/-! ## Accounts -/

/-- The updates that an event asks for. -/
def updates (event : LearningEvent) : List LearnerUpdate :=
  match event.source, event.dest with
  | some source, some dest =>
    if event.backend = .istio then [.istio dest source.identity event.dstPort]
    else [.kubernetes source .egress ⟨dest, event.protocol, event.dstPort⟩,
      .kubernetes dest .ingress ⟨source, event.protocol, event.dstPort⟩]
  | _, _ => []

/-- The proposal of an update. -/
def proposalOf (u : LearnerUpdate) : NamespacedName := u.metadata.namespacedName

section Accounts

variable (lib : Apimachinery)

/-- The rule is in the stored proposal, unless somebody else has taken the proposal away or rewritten it. -/
def Kept (w : World) (key : NamespacedName) (rule : LearnedRule) : Prop :=
  key ∈ w.deleted ∨ key ∈ w.rewritten ∨
    ∃ p, w.proposals.lookup key = some p ∧ Contains lib p.spec.toPolicyBackendSpec rule

/-- The data plane enforces the policy, or the policy has the rule, or a violation was reported. -/
def Monitored (w : World) (policy : WorkloadNetworkPolicy) (workload : WorkloadRef) (direction : PolicyType)
    (flow : LearnedFlow) : Prop :=
  policy.spec.mode = .protect ∨
    Contains lib policy.spec.toPolicyBackendSpec (LearnerUpdate.kubernetes workload direction flow).rule ∨
    ∃ now, generateViolationObservation policy.name workload flow.peer flow.protocol direction flow.dstPort now ∈
      w.monitor.emitted

/-- Working on the event, the worker was shown the policy as the one that was promoted from the proposal. -/
structure Shown (w : World) (event : LearningEvent) (key : NamespacedName) (policy : WorkloadNetworkPolicy) : Prop where
  version : policy ∈ w.policyVersions
  promoted : promotedFrom key.ns key.name policy = true
  shown : (event, key, policy) ∈ w.shown

/-- The worker has left the flow to a policy that it was shown.  On istio that is all: nothing compares the
connection with the policy. -/
structure LeftTo (w : World) (event : LearningEvent) (u : LearnerUpdate) (policy : WorkloadNetworkPolicy) : Prop
    extends Shown w event (proposalOf u) policy where
  kubernetes {workload : WorkloadRef} {direction : PolicyType} {flow : LearnedFlow} :
    u = .kubernetes workload direction flow → Monitored lib w policy workload direction flow

def Accounted (w : World) (event : LearningEvent) (u : LearnerUpdate) : Prop :=
  Kept lib w (proposalOf u) u.rule ∨ ∃ policy, LeftTo lib w event u policy

/-- Where a rule of a proposal comes from. -/
def Origin (initial : Store fun p : WorkloadNetworkPolicyProposal => p.namespacedName) (w : World)
    (key : NamespacedName) (rule : LearnedRule) : Prop :=
  (∃ p, initial.lookup key = some p ∧ Contains lib p.spec.toPolicyBackendSpec rule) ∨
    ∃ event ∈ w.accepted, ∃ u ∈ updates event, proposalOf u = key ∧ SameLearnedRule lib u.rule rule

/-- The observation is that of an accepted event, on a policy in monitor mode that does not have its rule. -/
def Justified (w : World) (obs : Observation) : Prop :=
  ∃ event ∈ w.accepted, ∃ workload direction flow, .kubernetes workload direction flow ∈ updates event ∧
    ∃ policy ∈ w.policyVersions, promotedFrom workload.ns (getProposalName workload direction) policy = true ∧
      policy.spec.mode ≠ .protect ∧
      ¬ Contains lib policy.spec.toPolicyBackendSpec (LearnerUpdate.kubernetes workload direction flow).rule ∧
      ∃ now, obs = generateViolationObservation policy.name workload flow.peer flow.protocol direction flow.dstPort now

/-- What every step keeps. -/
structure Grows (w w' : World) : Prop where
  accepted : w.accepted ⊆ w'.accepted
  versions : w.versions ⊆ w'.versions
  policyVersions : w.policyVersions ⊆ w'.policyVersions
  emitted : w.monitor.emitted ⊆ w'.monitor.emitted
  shown : w.shown ⊆ w'.shown
  kept {key : NamespacedName} {rule : LearnedRule} : Kept lib w key rule → Kept lib w' key rule

/-- What holds of every state of every run. -/
structure Inv (initial : Store fun p : WorkloadNetworkPolicyProposal => p.namespacedName) (w : World) : Prop where
  bounded {v : WorkloadNetworkPolicyProposal} : v ∈ w.versions → v.resourceVersion ≤ w.clock v.namespacedName
  /-- A resource version names one version. -/
  distinct {v v' : WorkloadNetworkPolicyProposal} : v ∈ w.versions → v' ∈ w.versions →
    v.namespacedName = v'.namespacedName → v.resourceVersion = v'.resourceVersion → v = v'
  stored {p : WorkloadNetworkPolicyProposal} : p ∈ w.proposals.values → p ∈ w.versions
  /-- What a version has had is not lost later. -/
  versionKept {v : WorkloadNetworkPolicyProposal} {rule : LearnedRule} :
    v ∈ w.versions → Contains lib v.spec.toPolicyBackendSpec rule → Kept lib w v.namespacedName rule
  /-- The events under way were accepted. -/
  underWay {event : LearningEvent} :
    event ∈ w.channel ∨ event ∈ w.pending ∨ w.processing = some event → event ∈ w.accepted
  origin {key : NamespacedName} {p : WorkloadNetworkPolicyProposal} {rule : LearnedRule} :
    w.proposals.lookup key = some p → key ∉ w.rewritten → Contains lib p.spec.toPolicyBackendSpec rule →
      Origin lib initial w key rule
  initial {key : NamespacedName} {p : WorkloadNetworkPolicyProposal} {rule : LearnedRule} :
    initial.lookup key = some p → Contains lib p.spec.toPolicyBackendSpec rule → Kept lib w key rule
  accounted {event : LearningEvent} : event ∈ w.accepted →
    event ∈ w.channel ∨ event ∈ w.pending ∨ w.processing = some event ∨ ∀ u ∈ updates event, Accounted lib w event u
  justified {obs : Observation} : obs ∈ w.monitor.emitted → Justified lib w obs

end Accounts

section Grows

variable {lib : Apimachinery} {initial : Store fun p : WorkloadNetworkPolicyProposal => p.namespacedName}
  {w w' : World}

lemma Grows.refl (w : World) : Grows lib w w where
  accepted := List.Subset.refl _
  versions := List.Subset.refl _
  policyVersions := List.Subset.refl _
  emitted := List.Subset.refl _
  shown := List.Subset.refl _
  kept := id

lemma Monitored.mono (h : Grows lib w w') {policy : WorkloadNetworkPolicy} {workload : WorkloadRef}
    {direction : PolicyType} {flow : LearnedFlow} (hm : Monitored lib w policy workload direction flow) :
    Monitored lib w' policy workload direction flow := by
  rcases hm with hm | hm | ⟨now, hm⟩
  · exact .inl hm
  · exact .inr (.inl hm)
  · exact .inr (.inr ⟨now, h.emitted hm⟩)

lemma Shown.mono (h : Grows lib w w') {event : LearningEvent} {key : NamespacedName} {policy : WorkloadNetworkPolicy}
    (hs : Shown w event key policy) : Shown w' event key policy :=
  ⟨h.policyVersions hs.version, hs.promoted, h.shown hs.shown⟩

lemma Accounted.mono (h : Grows lib w w') {event : LearningEvent} {u : LearnerUpdate}
    (ha : Accounted lib w event u) : Accounted lib w' event u := by
  rcases ha with ha | ⟨policy, hleft⟩
  · exact .inl (h.kept ha)
  · exact .inr ⟨policy, hleft.toShown.mono h, fun hu => (hleft.kubernetes hu).mono h⟩

lemma Origin.mono (h : Grows lib w w') {key : NamespacedName} {rule : LearnedRule}
    (ho : Origin lib initial w key rule) : Origin lib initial w' key rule := by
  rcases ho with ho | ⟨event, he, ho⟩
  · exact .inl ho
  · exact .inr ⟨event, h.accepted he, ho⟩

lemma Justified.mono (h : Grows lib w w') {obs : Observation} (hj : Justified lib w obs) : Justified lib w' obs := by
  obtain ⟨event, he, workload, direction, flow, hu, policy, hpolicy, hj⟩ := hj
  exact ⟨event, h.accepted he, workload, direction, flow, hu, policy, h.policyVersions hpolicy, hj⟩

/-- A step that leaves the proposals alone. -/
lemma Grows.of_proposals (hproposals : w'.proposals = w.proposals) (hdeleted : w'.deleted = w.deleted)
    (hrewritten : w'.rewritten = w.rewritten) (hversions : w'.versions = w.versions)
    (haccepted : w.accepted ⊆ w'.accepted) (hpolicies : w.policyVersions ⊆ w'.policyVersions)
    (hemitted : w.monitor.emitted ⊆ w'.monitor.emitted) (hshown : w.shown ⊆ w'.shown) : Grows lib w w' where
  accepted := haccepted
  versions := by rw [hversions]; exact List.Subset.refl _
  policyVersions := hpolicies
  emitted := hemitted
  shown := hshown
  kept h := by
    unfold Kept
    rw [hproposals, hdeleted, hrewritten]
    exact h

/-- Events move between the channel, the queue and the worker. -/
lemma Grows.moved (w : World) (channel pending : List LearningEvent) (processing : Option LearningEvent) :
    Grows lib w { w with channel := channel, pending := pending, processing := processing } :=
  .of_proposals rfl rfl rfl rfl (List.Subset.refl _) (List.Subset.refl _) (List.Subset.refl _) (List.Subset.refl _)

/-! ### New versions -/

/-- A stored proposal has the name it is stored under. -/
lemma namespacedName_of_lookup {s : Store fun p : WorkloadNetworkPolicyProposal => p.namespacedName}
    {key : NamespacedName} {p : WorkloadNetworkPolicyProposal} (h : s.lookup key = some p) :
    p.namespacedName = key :=
  s.key_eq h

lemma lookup_write (w : World) (p : WorkloadNetworkPolicyProposal) :
    (w.write p).proposals.lookup p.namespacedName = some (w.stamp p) :=
  Store.lookup_put w.proposals (w.stamp p)

lemma lookup_write_ne (w : World) {p : WorkloadNetworkPolicyProposal} {key : NamespacedName}
    (h : key ≠ p.namespacedName) : (w.write p).proposals.lookup key = w.proposals.lookup key := by
  have hne : key ≠ (w.stamp p).namespacedName := h
  exact Store.lookup_put_ne hne

/-- A new version with all rules of the old one. -/
lemma Grows.write {p : WorkloadNetworkPolicyProposal}
    (hkeep : ∀ {old rule}, w.proposals.lookup p.namespacedName = some old →
      Contains lib old.spec.toPolicyBackendSpec rule → Contains lib p.spec.toPolicyBackendSpec rule) :
    Grows lib w (w.write p) where
  accepted := List.Subset.refl _
  versions := List.subset_cons_self ..
  policyVersions := List.Subset.refl _
  emitted := List.Subset.refl _
  shown := List.Subset.refl _
  kept {key rule} h := by
    rcases h with h | h | ⟨old, hold, hrule⟩
    · exact .inl h
    · exact .inr (.inl h)
    · right; right
      by_cases hk : key = p.namespacedName
      · subst hk
        exact ⟨_, lookup_write w p, hkeep hold hrule⟩
      · exact ⟨old, by rw [lookup_write_ne w hk]; exact hold, hrule⟩

/-- The part of the invariant on versions, after a write. -/
lemma Inv.versions_write (h : Inv lib initial w) (p : WorkloadNetworkPolicyProposal) :
    (∀ {v}, v ∈ (w.write p).versions → v.resourceVersion ≤ (w.write p).clock v.namespacedName) ∧
    (∀ {v v'}, v ∈ (w.write p).versions → v' ∈ (w.write p).versions → v.namespacedName = v'.namespacedName →
      v.resourceVersion = v'.resourceVersion → v = v') ∧
    ∀ {q}, q ∈ (w.write p).proposals.values → q ∈ (w.write p).versions := by
  -- the stamp is newer than every version of its key
  have hnew : ∀ v ∈ w.versions, v.namespacedName = p.namespacedName →
      v.resourceVersion < (w.stamp p).resourceVersion := by
    intro v hv hk
    have hle := h.bounded hv
    rw [hk] at hle
    exact Nat.lt_succ_of_le hle
  refine ⟨?_, ?_, ?_⟩
  · intro v hv
    rcases List.mem_cons.1 hv with rfl | hv
    · have hclock : (w.write p).clock (w.stamp p).namespacedName = w.clock p.namespacedName + 1 :=
        Function.update_self ..
      rw [hclock]
      exact Nat.le_refl _
    · by_cases hk : v.namespacedName = p.namespacedName
      · have hclock : (w.write p).clock v.namespacedName = (w.stamp p).resourceVersion := by
          rw [hk]
          exact Function.update_self ..
        rw [hclock]
        exact (hnew v hv hk).le
      · have hclock : (w.write p).clock v.namespacedName = w.clock v.namespacedName := Function.update_of_ne hk ..
        rw [hclock]
        exact h.bounded hv
  · intro v v' hv hv' hk hrv
    rcases List.mem_cons.1 hv with rfl | hv <;> rcases List.mem_cons.1 hv' with rfl | hv'
    · rfl
    · exact absurd hrv (hnew v' hv' hk.symm).ne'
    · exact absurd hrv (hnew v hv hk).ne
    · exact h.distinct hv hv' hk hrv
  · intro q hq
    rw [Store.mem_values] at hq
    by_cases hk : q.namespacedName = p.namespacedName
    · rw [hk, lookup_write] at hq
      obtain rfl := Option.some.inj hq
      exact List.mem_cons_self ..
    · rw [lookup_write_ne w hk] at hq
      exact List.mem_cons_of_mem _ (h.stored (Store.mem_values.2 hq))

/-- A write whose rules have an origin, and which keeps the rules of the old version. -/
lemma Inv.write (h : Inv lib initial w) {p : WorkloadNetworkPolicyProposal}
    (hkeep : ∀ {old rule}, w.proposals.lookup p.namespacedName = some old →
      Contains lib old.spec.toPolicyBackendSpec rule → Contains lib p.spec.toPolicyBackendSpec rule)
    (horigin : ∀ {rule}, p.namespacedName ∉ w.rewritten → Contains lib p.spec.toPolicyBackendSpec rule →
      Origin lib initial w p.namespacedName rule) : Inv lib initial (w.write p) := by
  have hgrows : Grows lib w (w.write p) := .write hkeep
  obtain ⟨hbounded, hdistinct, hstored⟩ := h.versions_write p
  refine ⟨hbounded, hdistinct, hstored, ?_, h.underWay, ?_, ?_, ?_, ?_⟩
  · intro v rule hv hrule
    rcases List.mem_cons.1 hv with rfl | hv
    · exact .inr (.inr ⟨_, lookup_write w p, hrule⟩)
    · exact hgrows.kept (h.versionKept hv hrule)
  · intro key q rule hq hnot hrule
    by_cases hk : key = p.namespacedName
    · subst hk
      rw [lookup_write] at hq
      obtain rfl := Option.some.inj hq
      exact (horigin hnot hrule).mono hgrows
    · rw [lookup_write_ne w hk] at hq
      exact (h.origin hq hnot hrule).mono hgrows
  · exact fun hp hrule => hgrows.kept (h.initial hp hrule)
  · intro event he
    rcases h.accounted he with h | h | h | h
    · exact .inl h
    · exact .inr (.inl h)
    · exact .inr (.inr (.inl h))
    · exact .inr (.inr (.inr fun u hu => (h u hu).mono hgrows))
  · exact fun hobs => (h.justified hobs).mono hgrows

end Grows

/-! ## One step of the others -/

section Others

variable {lib : Apimachinery} {initial : Store fun p : WorkloadNetworkPolicyProposal => p.namespacedName}
  {w w' : World}

lemma grows_enqueueEvent (w : World) (event : LearningEvent) : Grows lib w (w.enqueueEvent event).2 := by
  unfold World.enqueueEvent
  split
  · exact .of_proposals rfl rfl rfl rfl (List.subset_cons_self ..) (List.Subset.refl _) (List.Subset.refl _)
      (List.Subset.refl _)
  · exact .refl w

lemma Grows.rewrite (w : World) (new : WorkloadNetworkPolicyProposal) :
    Grows lib w { w.write new with rewritten := new.namespacedName :: w.rewritten } where
  accepted := List.Subset.refl _
  versions := List.subset_cons_self ..
  policyVersions := List.Subset.refl _
  emitted := List.Subset.refl _
  shown := List.Subset.refl _
  kept {key rule} h := by
    rcases h with h | h | ⟨old, hold, hrule⟩
    · exact .inl h
    · exact .inr (.inl (List.mem_cons_of_mem _ h))
    · by_cases hk : key = new.namespacedName
      · exact .inr (.inl (hk ▸ List.mem_cons_self ..))
      · exact .inr (.inr ⟨old, (lookup_write_ne w hk).trans hold, hrule⟩)

lemma Grows.delete (w : World) (key : NamespacedName) :
    Grows lib w { w with proposals := w.proposals.remove key, deleted := key :: w.deleted } where
  accepted := List.Subset.refl _
  versions := List.Subset.refl _
  policyVersions := List.Subset.refl _
  emitted := List.Subset.refl _
  shown := List.Subset.refl _
  kept {k rule} h := by
    rcases h with h | h | ⟨old, hold, hrule⟩
    · exact .inl (List.mem_cons_of_mem _ h)
    · exact .inr (.inl h)
    · by_cases hk : k = key
      · exact .inl (hk ▸ List.mem_cons_self ..)
      · exact .inr (.inr ⟨old, (Store.lookup_remove_ne hk).trans hold, hrule⟩)

lemma Grows.others (hstep : Others w w') : Grows lib w w' := by
  cases hstep with
  | send event => exact grows_enqueueEvent w event
  | deliver h => exact .moved w _ _ _
  | @editMetadata old new hold hspec =>
    refine .write fun {old' rule} hold' hrule => ?_
    obtain rfl := Option.some.inj (hold.symm.trans hold')
    rw [hspec]
    exact hrule
  | rewrite new => exact .rewrite w new
  | delete key => exact .delete w key
  | editPolicies policies =>
    exact .of_proposals rfl rfl rfl rfl (List.Subset.refl _) (List.subset_append_right ..) (List.Subset.refl _)
      (List.Subset.refl _)
  | useBuffer buffer =>
    exact .of_proposals rfl rfl rfl rfl (List.Subset.refl _) (List.Subset.refl _) (List.Subset.refl _)
      (List.Subset.refl _)

/-- The invariant after a step that leaves the proposals alone. -/
lemma Inv.of_proposals (h : Inv lib initial w) (hgrows : Grows lib w w') (hproposals : w'.proposals = w.proposals)
    (hrewritten : w'.rewritten = w.rewritten) (hversions : w'.versions = w.versions) (hclock : w'.clock = w.clock)
    (hunderWay : ∀ {event}, event ∈ w'.channel ∨ event ∈ w'.pending ∨ w'.processing = some event →
      event ∈ w'.accepted)
    (haccounted : ∀ {event}, event ∈ w'.accepted → event ∈ w'.channel ∨ event ∈ w'.pending ∨
      w'.processing = some event ∨ ∀ u ∈ updates event, Accounted lib w' event u)
    (hjustified : ∀ {obs}, obs ∈ w'.monitor.emitted → Justified lib w' obs) : Inv lib initial w' where
  bounded := by rw [hversions, hclock]; exact h.bounded
  distinct := by rw [hversions]; exact h.distinct
  stored := by rw [hversions, hproposals]; exact h.stored
  versionKept hv hrule := by
    rw [hversions] at hv
    exact hgrows.kept (h.versionKept hv hrule)
  underWay := hunderWay
  origin hp hnot hrule := by
    rw [hproposals] at hp
    rw [hrewritten] at hnot
    exact (h.origin hp hnot hrule).mono hgrows
  initial hp hrule := hgrows.kept (h.initial hp hrule)
  accounted := haccounted
  justified := hjustified

/-- An account stays an account. -/
lemma accounts_mono (hgrows : Grows lib w w') {event : LearningEvent}
    (h : ∀ u ∈ updates event, Accounted lib w event u) : ∀ u ∈ updates event, Accounted lib w' event u :=
  fun u hu => (h u hu).mono hgrows

/-- The same for the events that are still under way. -/
lemma Inv.accounted_mono (h : Inv lib initial w) (hgrows : Grows lib w w') {event : LearningEvent}
    (he : event ∈ w.accepted) : event ∈ w.channel ∨ event ∈ w.pending ∨ w.processing = some event ∨
      ∀ u ∈ updates event, Accounted lib w' event u :=
  (h.accounted he).imp_right (.imp_right (.imp_right (accounts_mono hgrows)))

/-- The invariant after a step that leaves the proposals and the events alone. -/
lemma Inv.of_events (h : Inv lib initial w) (hgrows : Grows lib w w') (hproposals : w'.proposals = w.proposals)
    (hrewritten : w'.rewritten = w.rewritten) (hversions : w'.versions = w.versions) (hclock : w'.clock = w.clock)
    (haccepted : w'.accepted = w.accepted) (hchannel : w'.channel = w.channel) (hpending : w'.pending = w.pending)
    (hprocessing : w'.processing = w.processing)
    (hjustified : ∀ {obs}, obs ∈ w'.monitor.emitted → Justified lib w' obs) : Inv lib initial w' := by
  refine h.of_proposals hgrows hproposals hrewritten hversions hclock ?_ ?_ hjustified
  · rw [hchannel, hpending, hprocessing, haccepted]
    exact h.underWay
  · rw [hchannel, hpending, hprocessing, haccepted]
    exact h.accounted_mono hgrows

/-- **What others do keeps the invariant.** -/
theorem Inv.others (h : Inv lib initial w) (hstep : Others w w') : Inv lib initial w' := by
  have hgrows : Grows lib w w' := .others hstep
  cases hstep with
  | send event =>
    unfold World.enqueueEvent at hgrows ⊢
    split
    · rename_i hroom
      rw [if_pos hroom] at hgrows
      refine h.of_proposals hgrows rfl rfl rfl rfl ?_ ?_ (fun hobs => (h.justified hobs).mono hgrows)
      · intro e he
        rcases he with he | he | he
        · rcases List.mem_append.1 he with he | he
          · exact List.mem_cons_of_mem _ (h.underWay (.inl he))
          · exact List.mem_cons.2 (.inl (List.mem_singleton.1 he))
        · exact List.mem_cons_of_mem _ (h.underWay (.inr (.inl he)))
        · exact List.mem_cons_of_mem _ (h.underWay (.inr (.inr he)))
      · intro e he
        rcases List.mem_cons.1 he with rfl | he
        · exact .inl (List.mem_append_right _ (List.mem_singleton_self _))
        · rcases h.accounted he with h | h | h | h
          · exact .inl (List.mem_append_left _ h)
          · exact .inr (.inl h)
          · exact .inr (.inr (.inl h))
          · exact .inr (.inr (.inr (accounts_mono hgrows h)))
    · exact h
  | @deliver event rest hchannel =>
    refine h.of_proposals hgrows rfl rfl rfl rfl ?_ ?_ (fun hobs => (h.justified hobs).mono hgrows)
    · intro e he
      rcases he with he | he | he
      · exact h.underWay (.inl (hchannel ▸ List.mem_cons_of_mem _ he))
      · rcases List.mem_append.1 he with he | he
        · exact h.underWay (.inr (.inl he))
        · obtain rfl := List.mem_singleton.1 he
          exact h.underWay (.inl (hchannel ▸ List.mem_cons_self ..))
      · exact h.underWay (.inr (.inr he))
    · intro e he
      rcases h.accounted he with h | h | h | h
      · rw [hchannel] at h
        rcases List.mem_cons.1 h with rfl | h
        · exact .inr (.inl (List.mem_append_right _ (List.mem_singleton_self _)))
        · exact .inl h
      · exact .inr (.inl (List.mem_append_left _ h))
      · exact .inr (.inr (.inl h))
      · exact .inr (.inr (.inr (accounts_mono hgrows h)))
  | @editMetadata old new hold hspec =>
    refine h.write (fun {old' rule} hold' hrule => ?_) fun {rule} hnot hrule => ?_
    · obtain rfl := Option.some.inj (hold.symm.trans hold')
      rw [hspec]
      exact hrule
    · rw [hspec] at hrule
      exact h.origin hold hnot hrule
  | rewrite new =>
    obtain ⟨hbounded, hdistinct, hstored⟩ := h.versions_write new
    refine ⟨hbounded, hdistinct, hstored, ?_, h.underWay, ?_, fun hp hrule => hgrows.kept (h.initial hp hrule), ?_,
      fun hobs => (h.justified hobs).mono hgrows⟩
    · intro v rule hv hrule
      rcases List.mem_cons.1 hv with rfl | hv
      · exact .inr (.inl (List.mem_cons_self ..))
      · exact hgrows.kept (h.versionKept hv hrule)
    · intro key p rule hp hnot hrule
      have hk : key ≠ new.namespacedName := fun hk => hnot (hk ▸ List.mem_cons_self ..)
      exact (h.origin ((lookup_write_ne w hk).symm.trans hp) (fun hmem => hnot (List.mem_cons_of_mem _ hmem))
        hrule).mono hgrows
    · exact h.accounted_mono hgrows
  | delete key =>
    refine ⟨h.bounded, h.distinct, ?_, fun hv hrule => hgrows.kept (h.versionKept hv hrule), h.underWay, ?_,
      fun hp hrule => hgrows.kept (h.initial hp hrule), ?_, fun hobs => (h.justified hobs).mono hgrows⟩
    · intro p hp
      rw [Store.mem_values] at hp
      have hk : p.namespacedName ≠ key := by
        rintro hk
        rw [hk, Store.lookup_remove] at hp
        cases hp
      exact h.stored (Store.mem_values.2 ((Store.lookup_remove_ne hk).symm.trans hp))
    · intro k p rule hp hnot hrule
      have hk : k ≠ key := by
        rintro rfl
        rw [Store.lookup_remove] at hp
        cases hp
      exact (h.origin ((Store.lookup_remove_ne hk).symm.trans hp) hnot hrule).mono hgrows
    · exact h.accounted_mono hgrows
  | editPolicies policies =>
    exact h.of_events hgrows rfl rfl rfl rfl rfl rfl rfl rfl fun hobs => (h.justified hobs).mono hgrows
  | useBuffer buffer =>
    exact h.of_events hgrows rfl rfl rfl rfl rfl rfl rfl rfl fun hobs => (h.justified hobs).mono hgrows

end Others

/-! ## One step of the worker -/

section Monitor

variable (lib : Apimachinery) (m : Monitor) (policy : WorkloadNetworkPolicy) (workload : WorkloadRef)
  (flow : LearnedFlow) (now : Time) {direction : PolicyType}

/-- What the monitor does for the rules of one direction. -/
lemma evaluateRules_cases {R : Type} {T : PeerPortRule R} {rules : NetworkPolicySpec → List R} :
    let out := evaluateRules lib T rules m policy workload flow.peer flow.protocol direction flow.dstPort now
    let has := ∃ k, policy.spec.kubernetes = some k ∧
      containsPeerPort lib T (rules k) flow.peerAndPort.1 flow.peerAndPort.2 = true
    (out.2 = m ∧ (out.1 = some .nilDereference ∨ has)) ∨
      (¬ has ∧ out.1 ≠ some .nilDereference ∧ out.2.emitted = m.emitted ++
        [generateViolationObservation policy.name workload flow.peer flow.protocol direction flow.dstPort now]) := by
  intro out has
  cases hk : policy.spec.kubernetes with
  | none =>
    left
    simp only [out, evaluateRules, hk]
    exact ⟨trivial, .inl trivial⟩
  | some k =>
    cases hc : containsPeerPort lib T (rules k) flow.peerAndPort.1 flow.peerAndPort.2 with
    | true =>
      left
      have hc' := hc
      rw [LearnedFlow.peerAndPort] at hc'
      simp only [out, evaluateRules, hk, hc', Bool.not_true, Bool.false_eq_true, if_false]
      exact ⟨trivial, .inr ⟨k, hk, hc⟩⟩
    | false =>
      right
      have hc' := hc
      rw [LearnedFlow.peerAndPort] at hc'
      refine ⟨?_, ?_⟩
      · rintro ⟨k', hk', h⟩
        obtain rfl := Option.some.inj (hk.symm.trans hk')
        rw [hc] at h
        cases h
      · simp only [out, evaluateRules, hk, hc', Bool.not_false, if_true, sendMonitorViolation]
        refine ⟨?_, trivial⟩
        split
        · intro h
          cases h
        · intro h
          cases h

/-- **The monitor is silent about a rule of the policy and reports any other flow.** -/
lemma evaluateMonitorViolation_cases (hdirection : direction ≠ .unset) :
    let out := evaluateMonitorViolation lib m policy workload flow.peer flow.protocol direction flow.dstPort now
    let has := Contains lib policy.spec.toPolicyBackendSpec (LearnerUpdate.kubernetes workload direction flow).rule
    (out.2 = m ∧ (out.1 = some .nilDereference ∨ has)) ∨
      (¬ has ∧ out.1 ≠ some .nilDereference ∧ out.2.emitted = m.emitted ++
        [generateViolationObservation policy.name workload flow.peer flow.protocol direction flow.dstPort now]) := by
  cases direction with
  | egress => exact evaluateRules_cases lib m policy workload flow now
  | ingress => exact evaluateRules_cases lib m policy workload flow now
  | unset => exact absurd rfl hdirection

end Monitor

/-- What holds when the worker makes a request. -/
def Requested (lib : Apimachinery) : Request → World → Prop
  | .done event failure, w =>
    w.processing = some event ∧ (failure = none → ∀ u ∈ updates event, Accounted lib w event u)
  | .create p, w => ∃ event u, w.processing = some event ∧ u ∈ updates event ∧
      u.apply lib u.metadata.spec = .ok p.spec ∧ p = { u.metadata with spec := p.spec }
  | .update p, w => ∃ event u old, w.processing = some event ∧ u ∈ updates event ∧ old ∈ w.versions ∧
      old.namespacedName = proposalOf u ∧ u.apply lib old.spec = .ok p.spec ∧ p.spec ≠ old.spec ∧
      p = { old with spec := p.spec }
  | .evaluate policy workload direction flow, w => ∃ event, w.processing = some event ∧
      .kubernetes workload direction flow ∈ updates event ∧ policy ∈ w.policyVersions ∧
      promotedFrom workload.ns (getProposalName workload direction) policy = true ∧ policy.spec.mode ≠ .protect
  | .take, _ | .checkExistingPolicy .., _ | .get _, _ | .getOwner _, _ => True

section Answers

variable {lib : Apimachinery} {initial : Store fun p : WorkloadNetworkPolicyProposal => p.namespacedName}
  {w w' : World}

/-- The direction of an update of an event is set. -/
lemma direction_of_mem_updates {event : LearningEvent} {workload : WorkloadRef} {direction : PolicyType}
    {flow : LearnedFlow} (h : .kubernetes workload direction flow ∈ updates event) : direction ≠ .unset := by
  unfold updates at h
  split at h
  · split at h
    · simp at h
    · rcases List.mem_pair.1 h with h | h <;> cases h <;> decide
  · cases h

/-- The one version that an update can replace is the one it was made from. -/
lemma Inv.lookup_of_update (h : Inv lib initial w) {p old stored : WorkloadNetworkPolicyProposal}
    (hold : old ∈ w.versions) (hp : p = { old with spec := p.spec })
    (hstored : w.proposals.lookup p.namespacedName = some stored)
    (hlock : stored.resourceVersion = p.resourceVersion) : w.proposals.lookup p.namespacedName = some old := by
  have hkey : p.namespacedName = old.namespacedName := by rw [hp]
  have hversion : p.resourceVersion = old.resourceVersion := by rw [hp]
  have hsame : stored = old := by
    refine h.distinct (h.stored (Store.mem_of_lookup hstored)) hold ?_ (hlock.trans hversion)
    exact (Store.key_of_lookup hstored).trans hkey
  rw [hstored, hsame]

/-- What a learned flow writes. -/
lemma Inv.learn (h : Inv lib initial w) {event : LearningEvent} {u : LearnerUpdate}
    {p : WorkloadNetworkPolicyProposal} {spec : WorkloadNetworkPolicyProposalSpec}
    (hevent : w.processing = some event) (hu : u ∈ updates event) (hkey : p.namespacedName = proposalOf u)
    (happly : u.apply lib spec = .ok p.spec)
    (hspec : ∀ {old}, w.proposals.lookup p.namespacedName = some old → old.spec = spec)
    (hnone : w.proposals.lookup p.namespacedName = none → ∀ rule, ¬ Contains lib spec.toPolicyBackendSpec rule) :
    Grows lib w (w.write p) ∧ Inv lib initial (w.write p) := by
  have hkeep : ∀ {old rule}, w.proposals.lookup p.namespacedName = some old →
      Contains lib old.spec.toPolicyBackendSpec rule → Contains lib p.spec.toPolicyBackendSpec rule := by
    intro old rule hold hrule
    rw [hspec hold] at hrule
    exact hrule.apply_of happly
  refine ⟨.write hkeep, h.write hkeep fun {rule} hnot hrule => ?_⟩
  rcases Contains.apply lib happly hrule with hrule | hsame
  · cases hlook : w.proposals.lookup p.namespacedName with
    | none => exact absurd hrule (hnone hlook rule)
    | some old =>
      rw [← hspec hlook] at hrule
      exact h.origin hlook hnot hrule
  · exact .inr ⟨event, h.underWay (.inr (.inr hevent)), u, hu, hkey.symm, hsame⟩

/-- The worker takes an event from the queue. -/
lemma Inv.take (h : Inv lib initial w) {event : LearningEvent} {before after : List LearningEvent}
    (hidle : w.processing = none) (hpending : w.pending = before ++ event :: after) :
    Inv lib initial { w with pending := before ++ after, processing := some event } := by
  have hgrows : Grows lib w { w with pending := before ++ after, processing := some event } := .moved w _ _ _
  have hmem : ∀ e, e ∈ w.pending ↔ e ∈ before ++ after ∨ event = e := by
    intro e
    rw [hpending]
    simp only [List.mem_append, List.mem_cons]
    tauto
  refine h.of_proposals hgrows rfl rfl rfl rfl ?_ ?_ fun hobs => (h.justified hobs).mono hgrows
  · intro e he
    rcases he with he | he | he
    · exact h.underWay (.inl he)
    · exact h.underWay (.inr (.inl ((hmem e).2 (.inl he))))
    · exact h.underWay (.inr (.inl ((hmem e).2 (.inr (Option.some.inj he)))))
  · intro e he
    rcases h.accounted he with h | h | h | h
    · exact .inl h
    · rcases (hmem e).1 h with h | h
      · exact .inr (.inl h)
      · exact .inr (.inr (.inl (congrArg some h)))
    · rw [hidle] at h
      cases h
    · exact .inr (.inr (.inr (accounts_mono hgrows h)))

/-- The worker ends its work on an event, which goes back into the queue if that has failed. -/
lemma Inv.done (h : Inv lib initial w) {event : LearningEvent} {failure : Option Failure}
    (hprocessing : w.processing = some event)
    (hdone : failure = none → ∀ u ∈ updates event, Accounted lib w event u) :
    Inv lib initial { w with pending := w.pending ++ (if failure.isSome then [event] else [])
                             processing := none } := by
  have hgrows : Grows lib w { w with pending := w.pending ++ (if failure.isSome then [event] else [])
                                     processing := none } := .moved w _ _ _
  refine h.of_proposals hgrows rfl rfl rfl rfl ?_ ?_ fun hobs => (h.justified hobs).mono hgrows
  · intro e he
    rcases he with he | he | he
    · exact h.underWay (.inl he)
    · rcases List.mem_append.1 he with he | he
      · exact h.underWay (.inr (.inl he))
      · split at he
        · obtain rfl := List.mem_singleton.1 he
          exact h.underWay (.inr (.inr hprocessing))
        · cases he
    · cases he
  · intro e he
    rcases h.accounted he with h | h | h | h
    · exact .inl h
    · exact .inr (.inl (List.mem_append_left _ h))
    · obtain rfl := Option.some.inj (hprocessing.symm.trans h)
      cases failure with
      | some f => exact .inr (.inl (List.mem_append_right _ (List.mem_singleton_self _)))
      | none => exact .inr (.inr (.inr (accounts_mono hgrows (hdone rfl))))
    · exact .inr (.inr (.inr (accounts_mono hgrows h)))

/-- The monitor reports a flow of the event at hand. -/
lemma Inv.report (h : Inv lib initial w) {event : LearningEvent} (hevent : w.processing = some event)
    {policy : WorkloadNetworkPolicy} {workload : WorkloadRef} {direction : PolicyType} {flow : LearnedFlow}
    (hu : .kubernetes workload direction flow ∈ updates event) (hpolicy : policy ∈ w.policyVersions)
    (hfrom : promotedFrom workload.ns (getProposalName workload direction) policy = true)
    (hmode : policy.spec.mode ≠ .protect)
    (hmissing : ¬ Contains lib policy.spec.toPolicyBackendSpec (LearnerUpdate.kubernetes workload direction flow).rule)
    {now : Time} {m : Monitor} (hemitted : m.emitted = w.monitor.emitted ++
      [generateViolationObservation policy.name workload flow.peer flow.protocol direction flow.dstPort now]) :
    Grows lib w { w with monitor := m } ∧ Inv lib initial { w with monitor := m } := by
  have hgrows : Grows lib w { w with monitor := m } := by
    refine .of_proposals rfl rfl rfl rfl (List.Subset.refl _) (List.Subset.refl _) ?_ (List.Subset.refl _)
    rw [hemitted]
    exact List.subset_append_left ..
  refine ⟨hgrows, h.of_events hgrows rfl rfl rfl rfl rfl rfl rfl rfl fun {obs} hobs => ?_⟩
  rw [hemitted] at hobs
  rcases List.mem_append.1 hobs with hobs | hobs
  · exact (h.justified hobs).mono hgrows
  · exact ⟨event, h.underWay (.inr (.inr hevent)), workload, direction, flow, hu, policy, hpolicy, hfrom, hmode,
      hmissing, now, List.mem_singleton.1 hobs⟩

/-- **What the worker asks for keeps the invariant**, and takes nothing away. -/
theorem Inv.answers (h : Inv lib initial w) {r : Request} {x : r.Resp} (hreq : Requested lib r w)
    (hans : Answers lib r w x w') : Grows lib w w' ∧ Inv lib initial w' := by
  cases r with
  | take =>
    obtain ⟨hidle, before, after, hpending, rfl⟩ := hans
    exact ⟨.moved w _ _ _, h.take hidle hpending⟩
  | done event failure =>
    obtain rfl := hans
    exact ⟨.moved w _ _ _, h.done hreq.1 hreq.2⟩
  | checkExistingPolicy ns name =>
    obtain ⟨rfl, -⟩ := hans
    have hgrows : Grows lib w { w with shown := shownBy w.processing ⟨ns, name⟩ x ++ w.shown } :=
      .of_proposals rfl rfl rfl rfl (List.Subset.refl _) (List.Subset.refl _) (List.Subset.refl _)
        (List.subset_append_right ..)
    exact ⟨hgrows, h.of_events hgrows rfl rfl rfl rfl rfl rfl rfl rfl fun hobs => (h.justified hobs).mono hgrows⟩
  | get key =>
    obtain ⟨rfl, -⟩ := hans
    exact ⟨.refl _, h⟩
  | getOwner wk =>
    obtain rfl := hans
    exact ⟨.refl _, h⟩
  | create p =>
    rcases hans with ⟨rfl, -⟩ | ⟨hnone, rfl, -⟩
    · exact ⟨.refl _, h⟩
    · obtain ⟨event, u, hevent, hu, happly, hp⟩ := hreq
      have hkey : p.namespacedName = proposalOf u := by rw [hp]; rfl
      refine h.learn hevent hu hkey happly (fun {old} hold => ?_) fun _ => not_contains_metadata lib u
      rw [hnone] at hold
      cases hold
  | update p =>
    rcases hans with ⟨rfl, -⟩ | ⟨⟨stored, hstored, hlock⟩, rfl, -⟩
    · exact ⟨.refl _, h⟩
    · obtain ⟨event, u, old, hevent, hu, hold, hkey, happly, -, hp⟩ := hreq
      have hlook := h.lookup_of_update hold hp hstored hlock
      have hpkey : p.namespacedName = old.namespacedName := by rw [hp]
      refine h.learn hevent hu (hpkey.trans hkey) happly (fun {old'} hold' => ?_) fun hnone => ?_
      · rw [Option.some.inj (hold'.symm.trans hlook)]
      · rw [hlook] at hnone
        cases hnone
  | evaluate policy workload direction flow =>
    obtain ⟨now, -, rfl⟩ := hans
    obtain ⟨event, hevent, hu, hpolicy, hfrom, hmode⟩ := hreq
    rcases evaluateMonitorViolation_cases lib w.monitor policy workload flow now (direction_of_mem_updates hu) with
      ⟨hsame, -⟩ | ⟨hmissing, -, hemitted⟩
    · rw [hsame]
      exact ⟨.refl _, h⟩
    · exact h.report hevent hu hpolicy hfrom hmode hmissing hemitted

end Answers

end NetworkEnforcer.Learner
