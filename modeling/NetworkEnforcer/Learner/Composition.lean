import NetworkEnforcer.Learner.Refinement

/-!
# The learner and the proposal reconciler together

Both controllers run in one process over the same objects: the worker of the learner, and for every proposal the
calls of `Reconcile`, never two at a time for one proposal.  A step is one request of one of them, or something that
somebody else does.

For the learner the reconciler is one of the others (`others_of_promoterAnswers`), and for the reconciler of one
proposal the learner and the other reconcilers are (`View.answers`, `View.promoters`).  So a run of both is a run
of each (`Joint.of_run`), and what was shown of the two apart holds of them together:
`promotion_keeps_accepted` follows an accepted event into the promoted policy.
-/

namespace NetworkEnforcer.Learner

open NetworkEnforcer.Lib NetworkEnforcer.Api NetworkEnforcer.Reconcile
open NetworkEnforcer.Learning hiding World Request ask reconcile system

/-! ## The proposal that a call is about -/

/-- The answers to a call for one proposal, as far as they name it. -/
def naming (key : NamespacedName) : System Learning.Request.Resp Unit where
  exec
    | .get _, _, x, _ => ∀ p, x = .ok p → p.namespacedName = key
    | .patchOwnerReferences .., _, x, _ => ∀ p, x = .ok p → p.namespacedName = key
    | _, _, _, _ => True
  env _ _ := False

/-- The request is about the proposal. -/
def Names (key : NamespacedName) : Learning.Request → Unit → Prop
  | .get k, _ => k = key
  | .patchOwnerReferences p _, _ => p.namespacedName = key
  | .delete p _, _ => p.namespacedName = key
  | _, _ => True

/-- Every request of the program is about the proposal. -/
abbrev NamesOnly (key : NamespacedName) (p : ProposalM (Option Err)) : Prop :=
  Safe (naming key) (fun _ => True) (Names key) (fun _ _ => True) p ()

section Naming

variable {key : NamespacedName} {ctrl : ControllerLib}

lemma naming_stable (P : Unit → Prop) : (naming key).Stable P := fun _ _ _ h => h.elim

lemma naming_end (err : Option Err) : NamesOnly key (.ret err) :=
  Safe.ret (naming_stable fun _ => True) trivial fun _ _ => ⟨trivial, trivial⟩

/-- A request in front of the rest. -/
lemma naming_ask {r : Learning.Request} {f : r.Resp → ProposalM (Option Err)} (hr : Names key r ())
    (h : ∀ x, (naming key).exec r () x () → NamesOnly key (f x)) : NamesOnly key (Learning.ask r >>= f) :=
  Safe.ask_bind (naming_stable fun _ => True) trivial (fun _ _ => ⟨trivial, hr⟩) fun _ x _ _ hx => h x hx

lemma naming_reconcileOwnership {proposal : WorkloadNetworkPolicyProposal} (hp : proposal.namespacedName = key) :
    Safe (naming key) (fun _ => True) (Names key)
      (fun res _ => ∀ deleted p, res = .ok (deleted, p) → p.namespacedName = key)
      (reconcileOwnership ctrl proposal) () := by
  refine reconcileOwnership_rule (I := fun p _ => p.namespacedName = key) ctrl (fun _ => naming_stable _)
    (fun _ _ _ => trivial) (fun _ _ _ _ h _ => h) (fun _ _ patched _ _ hans => hans patched rfl)
    (fun _ _ _ => trivial) (fun _ _ _ _ _ _ _ _ h => h) (fun _ _ h => h) ?_ ?_ hp
  · intro err _ _ deleted p heq
    cases heq
  · intro deleted p _ h deleted' p' heq
    cases heq
    exact h

lemma naming_promote {proposal : WorkloadNetworkPolicyProposal} (hp : proposal.namespacedName = key)
    (mode : WorkloadNetworkPolicyMode) : NamesOnly key (promote proposal mode) := by
  unfold promote
  cases promotedPolicy proposal mode with
  | error err => exact naming_end _
  | ok policy =>
    refine naming_ask trivial fun x _ => ?_
    cases x with
    | alreadyExists => exact naming_end _
    | failed err => exact naming_end _
    | created => exact naming_ask hp fun _ _ => naming_end _

/-- **A call of `Reconcile` asks for its own proposal only.** -/
theorem naming_reconcile : NamesOnly key (Learning.reconcile ctrl key) := by
  unfold Learning.reconcile
  refine naming_ask rfl fun x hx => ?_
  cases x with
  | error err => exact naming_end _
  | ok proposal =>
    dsimp only
    split
    · exact naming_end _
    · refine Safe.bind (naming_reconcileOwnership (hx proposal rfl)) ?_
      rintro (err | ⟨deleted, p⟩) _ hres
      · exact naming_end _
      · have hp : p.namespacedName = key := hres deleted p rfl
        cases deleted with
        | true => exact naming_end _
        | false =>
          refine naming_ask trivial fun x _ => ?_
          rcases x with err | policies
          · exact naming_end _
          · cases policies with
            | cons policy policies => exact naming_ask hp fun _ _ => naming_end _
            | nil =>
              dsimp only
              split
              · exact naming_end _
              · exact naming_promote hp _

end Naming

/-! ## Both controllers -/

/-- How a request of the proposal reconciler can be answered. -/
def PromoterAnswers : (r : Learning.Request) → World → r.Resp → World → Prop
  | .get key, w, x, w' => w' = w ∧ ∀ p, x = Except.ok p → p ∈ w.versions ∧ p.namespacedName = key
  | .getOwner _, w, _, w' => w' = w
  | .patchOwnerReferences p refs, w, x, w' =>
    (w' = w ∧ ∃ err, x = .error err) ∨
      ∃ old, w.proposals.lookup p.namespacedName = some old ∧
        ((refs = old.ownerReferences ∧ x = .ok old ∧ w' = w) ∨
          (x = .ok (w.stamp { old with ownerReferences := refs }) ∧
            w' = w.write { old with ownerReferences := refs }))
  | .checkExistingPolicy .., w, _, w' => w' = w
  | .create policy, w, x, w' =>
    (w' = w ∧ x ≠ .created) ∨
      (x = .created ∧ w.policies.lookup policy.key = none ∧
        w' = { w with policies := w.policies.put policy
                      policyVersions := (w.policies.put policy).values ++ w.policyVersions })
  | .delete p _, w, x, w' =>
    (w' = w ∧ ∃ err, x = some err) ∨
      (x = none ∧ w.proposals.lookup p.namespacedName ≠ none ∧
        w' = { w with proposals := w.proposals.remove p.namespacedName
                      deleted := p.namespacedName :: w.deleted })

/-- The two controllers of the process, with the call that is under way for each proposal. -/
structure Controllers where
  world : World
  learner : LearnerM Unit
  promoters : NamespacedName → ProposalM (Option Err)

section Controllers

variable (lib : Apimachinery) (ctrl : ControllerLib)

/-- One request of one of the controllers, the start of their next call, or something that others do. -/
inductive Controllers.Step : Controllers → Controllers → Prop
  | others {s : Controllers} {w : World} : Others s.world w → Step s { s with world := w }
  | learner {s : Controllers} {w : World} {r : Request} {k : r.Resp → LearnerM Unit} {x : r.Resp} :
      s.learner = .call r k → Answers lib r s.world x w → Step s { s with world := w, learner := k x }
  | learnerAgain {s : Controllers} {a : Unit} :
      s.learner = .ret a → Step s { s with learner := worker lib ctrl }
  | promoter {s : Controllers} {w : World} {key : NamespacedName} {r : Learning.Request}
      {k : r.Resp → ProposalM (Option Err)} {x : r.Resp} :
      s.promoters key = .call r k → PromoterAnswers r s.world x w →
        Step s { s with world := w, promoters := Function.update s.promoters key (k x) }
  | promoterAgain {s : Controllers} {key : NamespacedName} {err : Option Err} :
      s.promoters key = .ret err →
        Step s { s with promoters := Function.update s.promoters key (Learning.reconcile ctrl key) }

/-- A process that has just started. -/
def Controllers.start (proposals : Store fun p : WorkloadNetworkPolicyProposal => p.namespacedName)
    (policies : Store WorkloadNetworkPolicy.key) (buffer : Ringbuf.Buffer Observation) : Controllers where
  world := World.start proposals policies buffer
  learner := worker lib ctrl
  promoters := Learning.reconcile ctrl

end Controllers

section Views

variable {lib : Apimachinery} {key : NamespacedName} {w w' : World} {v : Learning.World}

/-- For the learner the reconciler is one of the others. -/
lemma others_of_promoterAnswers {r : Learning.Request} {x : r.Resp} (h : PromoterAnswers r w x w') :
    w' = w ∨ Others w w' := by
  cases r with
  | get => exact .inl h.1
  | getOwner => exact .inl h
  | checkExistingPolicy => exact .inl h
  | patchOwnerReferences p refs =>
    rcases h with ⟨rfl, -⟩ | ⟨old, hold, ⟨-, -, rfl⟩ | ⟨-, rfl⟩⟩
    · exact .inl rfl
    · exact .inl rfl
    · have hkey := namespacedName_of_lookup hold
      have hlook : w.proposals.lookup old.namespacedName = some old := by
        rw [hkey]
        exact hold
      exact .inr (.editMetadata hlook rfl)
  | create policy =>
    rcases h with ⟨rfl, -⟩ | ⟨-, -, rfl⟩
    · exact .inl rfl
    · exact .inr (.editPolicies _)
  | delete p reason =>
    rcases h with ⟨rfl, -⟩ | ⟨-, -, rfl⟩
    · exact .inl rfl
    · exact .inr (.delete _)

/-- The answers name the proposal that was asked for. -/
lemma naming_of_promoterAnswers {r : Learning.Request} {x : r.Resp} (hr : Names key r ())
    (hans : PromoterAnswers r w x w') : (naming key).exec r () x () := by
  cases r with
  | get k =>
    obtain rfl : k = key := hr
    exact fun p hp => (hans.2 p hp).2
  | patchOwnerReferences p refs =>
    obtain rfl : p.namespacedName = key := hr
    rcases hans with ⟨-, err, rfl⟩ | ⟨old, hold, ⟨-, rfl, -⟩ | ⟨rfl, -⟩⟩
    · intro q hq
      cases hq
    · intro q hq
      obtain rfl := Except.ok.inj hq
      exact namespacedName_of_lookup hold
    · intro q hq
      obtain rfl := Except.ok.inj hq
      have hkey := namespacedName_of_lookup hold
      exact hkey
  | getOwner => trivial
  | checkExistingPolicy => trivial
  | create => trivial
  | delete => trivial

/-- **The call for the proposal itself**, as its own requests and answers. -/
lemma View.promoter (h : View key w v) {r : Learning.Request} {x : r.Resp} (hr : Names key r ())
    (hans : PromoterAnswers r w x w') : ∃ v', View key w' v' ∧ Learning.Answers r v x v' := by
  cases r with
  | get k =>
    obtain rfl : k = key := hr
    obtain ⟨rfl, hread⟩ := hans
    exact ⟨v, h, rfl, fun p hp => (h.versions p).2 (hread p hp)⟩
  | getOwner wk =>
    obtain rfl := hans
    exact ⟨v, h, rfl⟩
  | checkExistingPolicy ns name =>
    obtain rfl := hans
    exact ⟨v, h, rfl⟩
  | patchOwnerReferences p refs =>
    obtain rfl : p.namespacedName = key := hr
    rcases hans with ⟨rfl, err, rfl⟩ | ⟨old, hold, ⟨rfl, rfl, rfl⟩ | ⟨rfl, rfl⟩⟩
    · exact ⟨v, h, rfl⟩
    · exact ⟨v, h, old, h.proposal.trans hold, .inl ⟨rfl, rfl, rfl⟩⟩
    · have hname := namespacedName_of_lookup hold
      have hkey : ({ old with ownerReferences := refs } : WorkloadNetworkPolicyProposal).namespacedName =
          p.namespacedName := hname
      have hstamp : w.stamp { old with ownerReferences := refs } = v.stamp { old with ownerReferences := refs } := by
        rw [Learning.World.stamp, World.stamp, h.clock, ← hkey]
      exact ⟨v.store { old with ownerReferences := refs }, h.write hkey v.learned, old, h.proposal.trans hold,
        .inr ⟨hstamp, rfl⟩⟩
  | create policy =>
    rcases hans with ⟨rfl, hx⟩ | ⟨rfl, hnone, rfl⟩
    · refine ⟨v, h, ?_⟩
      cases x with
      | created => exact absurd rfl hx
      | alreadyExists => rfl
      | failed err => rfl
    · refine ⟨{ v with policies := v.policies.put policy }, ⟨h.proposal, h.versions, h.clock, ?_⟩, ?_, rfl⟩
      · rw [h.policies]
      · rw [h.policies]
        exact hnone
  | delete p reason =>
    obtain rfl : p.namespacedName = key := hr
    rcases hans with ⟨rfl, err, rfl⟩ | ⟨rfl, hsome, rfl⟩
    · exact ⟨v, h, rfl⟩
    · refine ⟨{ v with proposal := none }, ⟨?_, h.versions, h.clock, h.policies⟩, ?_, rfl⟩
      · exact (Store.lookup_remove ..).symm
      · rw [h.proposal]
        exact hsome

end Views

/-! ## A run of both is a run of each -/

/-- What a run of both is for the learner, and for the reconciler of each proposal. -/
structure Joint (lib : Apimachinery) (ctrl : ControllerLib)
    (initial : Store fun p : WorkloadNetworkPolicyProposal => p.namespacedName)
    (policies : Store WorkloadNetworkPolicy.key) (buffer : Ringbuf.Buffer Observation) (s : Controllers) : Prop where
  learner : (system lib).Runs (worker lib ctrl) (World.start initial policies buffer, worker lib ctrl)
    (s.world, s.learner)
  names (key : NamespacedName) : NamesOnly key (s.promoters key)
  promoter {key : NamespacedName} : key ∉ s.world.rewritten → ∃ v, View key s.world v ∧
    (Learning.system lib key).Runs (Learning.reconcile ctrl key)
      (Learning.World.start (initial.lookup key) policies, Learning.reconcile ctrl key) (v, s.promoters key)

section Joint

variable {lib : Apimachinery} {ctrl : ControllerLib}
  {initial : Store fun p : WorkloadNetworkPolicyProposal => p.namespacedName}
  {policies : Store WorkloadNetworkPolicy.key} {buffer : Ringbuf.Buffer Observation} {s s' : Controllers}

/-- Steps of the others, in front of a call. -/
lemma runs_env {key : NamespacedName} {start : Learning.World × ProposalM (Option Err)} {v v' : Learning.World}
    {body p : ProposalM (Option Err)} (hrun : (Learning.system lib key).Runs body start (v, p))
    (hsteps : Relation.ReflTransGen (Interference lib key) v v') :
    (Learning.system lib key).Runs body start (v', p) := by
  induction hsteps with
  | refl => exact hrun
  | tail _ hstep ih => exact ih.tail (.env hstep)

lemma Joint.safe (h : Joint lib ctrl initial policies buffer s) :
    Safe (system lib) (Inv lib initial) (Requested lib) (fun _ => Idle lib initial) s.learner s.world :=
  Safe.reachable (fun _ _ hw => worker_safe hw) (worker_safe (idle_start policies buffer)) h.learner

/-- A step that others make, for the learner and for every reconciler. -/
lemma Joint.others (h : Joint lib ctrl initial policies buffer s) {w : World} (hstep : Others s.world w) :
    Joint lib ctrl initial policies buffer { s with world := w } where
  learner := h.learner.tail (.env hstep)
  names := h.names
  promoter {key} hkey := by
    obtain ⟨v, hv, hrun⟩ := h.promoter fun hmem => hkey (rewritten_subset_others hstep hmem)
    obtain ⟨v', hv', hsteps⟩ : ∃ v', View key w v' ∧ Relation.ReflTransGen (Interference lib key) v v' :=
      hv.others hstep hkey
    exact ⟨v', hv', runs_env hrun hsteps⟩

/-- **One step of both.** -/
theorem Joint.step (h : Joint lib ctrl initial policies buffer s) (hstep : Controllers.Step lib ctrl s s') :
    Joint lib ctrl initial policies buffer s' := by
  cases hstep with
  | others hother => exact h.others hother
  | @learner w r k x hcall hans =>
    have hsafe := h.safe
    have hrun := h.learner
    rw [hcall] at hsafe hrun
    refine ⟨hrun.tail (.call hans), h.names, fun {key} hkey => ?_⟩
    have hbefore : key ∉ s.world.rewritten := by
      rw [← rewritten_of_answers hans]
      exact hkey
    obtain ⟨v, hv, hruns⟩ := h.promoter hbefore
    obtain ⟨v', hv', hsteps⟩ := hv.answers hsafe.inv_holds hsafe.request hans
    exact ⟨v', hv', runs_env hruns hsteps⟩
  | learnerAgain hret =>
    have hrun := h.learner
    rw [hret] at hrun
    exact ⟨hrun.tail .restart, h.names, h.promoter⟩
  | @promoter w moved r k x hcall hans =>
    have hnames := h.names moved
    rw [hcall] at hnames
    have hr : Names moved r () := hnames.request
    -- everybody but the reconciler that moves sees a step of the others, or none
    have hworld : Joint lib ctrl initial policies buffer { s with world := w } ∧
        s.world.rewritten ⊆ w.rewritten := by
      rcases others_of_promoterAnswers hans with rfl | hother
      · exact ⟨h, List.Subset.refl _⟩
      · exact ⟨h.others hother, rewritten_subset_others hother⟩
    refine ⟨hworld.1.learner, fun key => ?_, fun {key} hkey => ?_⟩
    · by_cases hk : key = moved
      · subst hk
        simp only [Function.update_self]
        exact (hnames () .refl).2.2 x () (naming_of_promoterAnswers hr hans)
      · simp only [Function.update_of_ne hk]
        exact h.names key
    · by_cases hk : key = moved
      · subst hk
        obtain ⟨v, hv, hrun⟩ := h.promoter fun hmem => hkey (hworld.2 hmem)
        obtain ⟨v', hv', hans'⟩ := hv.promoter hr hans
        rw [hcall] at hrun
        simp only [Function.update_self]
        exact ⟨v', hv', hrun.tail (.call hans')⟩
      · simp only [Function.update_of_ne hk]
        exact hworld.1.promoter hkey
  | @promoterAgain moved err hret =>
    refine ⟨h.learner, fun key => ?_, fun {key} hkey => ?_⟩
    · by_cases hk : key = moved
      · subst hk
        simp only [Function.update_self]
        exact naming_reconcile
      · simp only [Function.update_of_ne hk]
        exact h.names key
    · obtain ⟨v, hv, hrun⟩ := h.promoter hkey
      by_cases hk : key = moved
      · subst hk
        rw [hret] at hrun
        simp only [Function.update_self]
        exact ⟨v, hv, hrun.tail .restart⟩
      · simp only [Function.update_of_ne hk]
        exact ⟨v, hv, hrun⟩

/-- **A run of both is a run of each.** -/
theorem Joint.of_run
    (hrun : Relation.ReflTransGen (Controllers.Step lib ctrl) (Controllers.start lib ctrl initial policies buffer) s) :
    Joint lib ctrl initial policies buffer s := by
  induction hrun with
  | refl => exact ⟨.refl, fun _ => naming_reconcile, fun _ => ⟨_, view_start initial policies buffer _, .refl⟩⟩
  | tail _ hstep ih => exact ih.step hstep

/-- The stored proposal is the newest version. -/
lemma newest_of_runs {key : NamespacedName} {start : Option WorkloadNetworkPolicyProposal}
    {body : ProposalM (Option Err)} {c : Learning.World × ProposalM (Option Err)}
    (hrun : (Learning.system lib key).Runs body (Learning.World.start start policies, body) c) :
    ∀ p, c.1.proposal = some p → p.resourceVersion = c.1.clock := by
  have hstore : ∀ (v : Learning.World) (q p : WorkloadNetworkPolicyProposal),
      (v.store q).proposal = some p → p.resourceVersion = (v.store q).clock := by
    intro v q p hp
    obtain rfl := Option.some.inj hp
    rfl
  induction hrun with
  | refl =>
    intro p hp
    have hp : start = some p := hp
    simp [Learning.World.start, hp]
  | tail _ hstep ih =>
    cases hstep with
    | env hstep =>
      cases hstep with
      | learn => exact hstore _ _
      | learnFirst => exact hstore _ _
      | editMetadata => exact hstore _ _
      | delete => exact fun p hp => by cases hp
      | editPolicies => exact ih
    | call hans =>
      rcases answers_cases hans with h | ⟨old, refs, -, h⟩ | ⟨policies, h⟩ | h
      · rw [h]
        exact ih
      · rw [h]
        exact hstore _ _
      · rw [h]
        exact ih
      · rw [h]
        exact fun p hp => by cases hp
    | restart => exact ih

end Joint

/-! ### A promotion -/

section Sample

variable {lib : Apimachinery} {ctrl : ControllerLib}

/-- A run in which the reconciler of the proposal comes to this point. -/
def Comes (lib : Apimachinery) (ctrl : ControllerLib) (start : Controllers) (key : NamespacedName) (w : World)
    (p : ProposalM (Option Err)) : Prop :=
  ∃ s, Relation.ReflTransGen (Controllers.Step lib ctrl) start s ∧ s.world = w ∧ s.promoters key = p

variable {start : Controllers} {key : NamespacedName} {w w' : World}

lemma Comes.others {p : ProposalM (Option Err)} (h : Comes lib ctrl start key w p) (hstep : Others w w') :
    Comes lib ctrl start key w' p := by
  obtain ⟨s, hrun, rfl, hp⟩ := h
  exact ⟨_, hrun.tail (.others hstep), rfl, hp⟩

lemma Comes.ask {r : Learning.Request} {f : r.Resp → ProposalM (Option Err)} {x : r.Resp}
    (h : Comes lib ctrl start key w (Learning.ask r >>= f)) (hans : PromoterAnswers r w x w') :
    Comes lib ctrl start key w' (f x) := by
  obtain ⟨s, hrun, rfl, hp⟩ := h
  exact ⟨_, hrun.tail (.promoter hp hans), rfl, Function.update_self ..⟩

/-- The first request of a program that goes on with another one. -/
lemma Comes.ask_bind {α : Type} {r : Learning.Request} {g : r.Resp → ProposalM α}
    {f : α → ProposalM (Option Err)} {x : r.Resp} (h : Comes lib ctrl start key w ((Learning.ask r >>= g) >>= f))
    (hans : PromoterAnswers r w x w') : Comes lib ctrl start key w' (g x >>= f) := by
  obtain ⟨s, hrun, rfl, hp⟩ := h
  exact ⟨_, hrun.tail (.promoter hp hans), rfl, Function.update_self ..⟩

/-- A run of the learner, while no reconciler moves. -/
lemma Comes.learner {initial : Store fun p : WorkloadNetworkPolicyProposal => p.namespacedName}
    {policies : Store WorkloadNetworkPolicy.key} {buffer : Ringbuf.Buffer Observation} {p : LearnerM Unit}
    (hrun : (system lib).Runs (worker lib ctrl) (World.start initial policies buffer, worker lib ctrl) (w, p)) :
    Comes lib ctrl (Controllers.start lib ctrl initial policies buffer) key w (Learning.reconcile ctrl key) := by
  have hruns : ∀ c, (system lib).Runs (worker lib ctrl) (World.start initial policies buffer, worker lib ctrl) c →
      Relation.ReflTransGen (Controllers.Step lib ctrl) (Controllers.start lib ctrl initial policies buffer)
        ⟨c.1, c.2, Learning.reconcile ctrl⟩ := by
    intro c hc
    induction hc with
    | refl => exact .refl
    | tail _ hstep ih =>
      cases hstep with
      | env hother => exact ih.tail (.others hother)
      | call hans => exact ih.tail (.learner rfl hans)
      | restart => exact ih.tail (.learnerAgain rfl)
  exact ⟨_, hruns _ hrun, rfl, rfl⟩

/-- From the read of a labelled proposal to its deletion. -/
lemma Comes.promotion {p : WorkloadNetworkPolicyProposal} {wk : WorkloadRef} {owner : OwnerReference}
    {mode : WorkloadNetworkPolicyMode} {policy : WorkloadNetworkPolicy}
    (h : Comes lib ctrl start key w (Learning.reconcile ctrl key)) (hversion : p ∈ w.versions)
    (hname : p.namespacedName = key) (hdeletion : p.deletionTimestamp = none)
    (hwk : ownerRefFromProposalName p.ns p.name = some wk)
    (howner : getControllerOf p.ownerReferences = some owner) (hlabel : hasPromotionLabel p = some mode)
    (hpolicy : promotedPolicy p mode = .ok policy) (hfree : w.policies.lookup policy.key = none) :
    ∃ k, Comes lib ctrl start key
      { w with policies := w.policies.put policy
               policyVersions := (w.policies.put policy).values ++ w.policyVersions }
      (.call (.delete p (.promoted policy)) k) := by
  have hget : PromoterAnswers (.get key) w (.ok p) w := by
    refine ⟨rfl, fun q hq => ?_⟩
    obtain rfl := Except.ok.inj hq
    exact ⟨hversion, hname⟩
  unfold Learning.reconcile at h
  have hread := h.ask hget
  simp only [hdeletion, Option.isSome_none, Bool.false_eq_true, if_false, reconcileOwnership, hwk] at hread
  have hgetOwner : PromoterAnswers (.getOwner wk) w (.ok { uid := owner.uid }) w := rfl
  have howned := hread.ask_bind hgetOwner
  simp only [howner, Option.map_some, if_true] at howned
  have hlist : PromoterAnswers (.checkExistingPolicy p.ns p.name) w (.ok []) w := rfl
  have hlisted := howned.ask hlist
  simp only [hlabel, promote, hpolicy] at hlisted
  have hcreate : PromoterAnswers (.create policy) w .created { w with
      policies := w.policies.put policy, policyVersions := (w.policies.put policy).values ++ w.policyVersions } :=
    .inr ⟨rfl, hfree, rfl⟩
  exact ⟨_, hlisted.ask hcreate⟩

end Sample

/-! ## Accepted events and promotion -/

section Results

variable {lib : Apimachinery} {ctrl : ControllerLib}
  {initial : Store fun p : WorkloadNetworkPolicyProposal => p.namespacedName}
  {policies : Store WorkloadNetworkPolicy.key} {buffer : Ringbuf.Buffer Observation} {s : Controllers}

/-- **A promotion keeps what was accepted.**  The learner and the reconcilers run together, and a reconciler is
about to delete the proposal that it has promoted; nobody has deleted the proposal before or written its
specification.  Then every accepted event for that proposal is still under way, or its rule is in the policy, or it
was learned after the version that was promoted, or the learner was shown a promoted policy while it worked on the
event, and left the flow to that. -/
theorem promotion_keeps_accepted
    (hrun : Relation.ReflTransGen (Controllers.Step lib ctrl) (Controllers.start lib ctrl initial policies buffer) s)
    {key : NamespacedName} {proposal : WorkloadNetworkPolicyProposal} {policy : WorkloadNetworkPolicy}
    {k : Option Err → ProposalM (Option Err)}
    (hcall : s.promoters key = .call (.delete proposal (.promoted policy)) k) (hrewritten : key ∉ s.world.rewritten)
    (hdeleted : key ∉ s.world.deleted) {event : LearningEvent} (hevent : event ∈ s.world.accepted) {u : LearnerUpdate}
    (hu : u ∈ updates event) (hkey : proposalOf u = key) :
    event ∈ s.world.channel ∨ event ∈ s.world.pending ∨ s.world.processing = some event ∨
      Contains lib policy.spec.toPolicyBackendSpec u.rule ∨
      (∃ stored, s.world.proposals.lookup key = some stored ∧ proposal.resourceVersion < stored.resourceVersion ∧
        Contains lib stored.spec.toPolicyBackendSpec u.rule) ∨
      ∃ shown, LeftTo lib s.world event u shown := by
  have hjoint := Joint.of_run hrun
  have hinv : Inv lib initial s.world := hjoint.safe.inv_holds
  rcases hinv.accounted hevent with h | h | h | haccounted
  · exact .inl h
  · exact .inr (.inl h)
  · exact .inr (.inr (.inl h))
  right; right; right
  subst hkey
  rcases haccounted u hu with (hdel | hrew | ⟨stored, hstored, hrule⟩) | hleft
  · exact absurd hdel hdeleted
  · exact absurd hrew hrewritten
  · obtain ⟨v, hv, hruns⟩ := hjoint.promoter hrewritten
    rw [hcall] at hruns
    have hsafe := Safe.reachable (fun _ _ h => Learning.reconcile_safe h)
      (Learning.reconcile_safe (traced_start lib (initial.lookup (proposalOf u)) policies)) hruns
    obtain ⟨hversion, mode, hpolicy⟩ :
        Learning.Requested (.delete proposal (.promoted policy)) v := hsafe.request
    obtain ⟨hmem, hname⟩ := (hv.versions proposal).1 hversion
    -- the version that was promoted is the stored one or an older one
    have hnewest : stored.resourceVersion = v.clock := newest_of_runs hruns stored (hv.proposal.trans hstored)
    rcases Nat.lt_or_ge proposal.resourceVersion stored.resourceVersion with hlt | hge
    · exact .inr (.inl ⟨stored, hstored, hlt, hrule⟩)
    · have hle : proposal.resourceVersion ≤ stored.resourceVersion := by
        rw [hnewest]
        exact hsafe.inv_holds.bounded proposal hversion
      obtain rfl : proposal = stored := hinv.distinct hmem (hinv.stored (Store.mem_of_lookup hstored))
        (hname.trans (namespacedName_of_lookup hstored).symm) (Nat.le_antisymm hle hge)
      left
      rw [(promotedPolicy_eq_ok hpolicy).2.2]
      exact hrule
  · exact .inr (.inr hleft)

/-- The metadata of the proposal of `db`, labelled for promotion. -/
def labelled (spec : WorkloadNetworkPolicyProposalSpec) : WorkloadNetworkPolicyProposal where
  ns := "shop"
  name := "deployment-db-ingress"
  labels := AList.singleton proposalPromoteLabelKey "monitor"
  ownerReferences := [⟨"apps/v1", "Deployment", "db", "u1", some true⟩]
  spec := spec

/-- A connection is learned, the proposal is labelled and promoted, and the policy has the rule: nothing is under way,
nothing was learned later, and the learner was shown no policy. -/
theorem promotion_keeps_accepted_sample : ∃ start s proposal policy k,
    Relation.ReflTransGen (Controllers.Step .documented (.direct 0)) start s ∧
      s.promoters ⟨"shop", "deployment-db-ingress"⟩ = .call (.delete proposal (.promoted policy)) k ∧
      istioEvent ∈ s.world.accepted ∧
      Contains .documented policy.spec.toPolicyBackendSpec (.istio "td/ns/shop/sa/web" "5432") := by
  obtain ⟨w, hw, haccepted, hchannel, hpending, hprocessing, hdeleted, hrewritten, -, hpolicies,
    hshown⟩ := learned_run
  have hmem : istioEvent ∈ w.accepted := by
    rw [haccepted]
    exact List.mem_singleton_self _
  have hinv := hw.inv
  obtain ⟨policies, buffer, p, hrun⟩ := hw
  -- the learned proposal, which is then labelled
  obtain ⟨old, hold⟩ : ∃ old, w.proposals.lookup ⟨"shop", "deployment-db-ingress"⟩ = some old := by
    have haccounted := hinv.accounted hmem
    rw [hchannel, hpending, hprocessing] at haccounted
    simp only [List.not_mem_nil, false_or, reduceCtorEq] at haccounted
    rcases haccounted _ (List.mem_singleton_self _) with (h | h | ⟨old, hold, -⟩) | ⟨policy, hleft⟩
    · rw [hdeleted] at h
      cases h
    · rw [hrewritten] at h
      cases h
    · exact ⟨old, hold⟩
    · have h := hleft.shown
      rw [hshown] at h
      cases h
  let new := labelled old.spec
  have hshort : (w.stamp new).name.utf8ByteSize ≤ maxLabelValueLength := by
    show "deployment-db-ingress".utf8ByteSize ≤ maxLabelValueLength
    decide
  have hwk : ownerRefFromProposalName (w.stamp new).ns (w.stamp new).name =
      some { ns := "shop", ownerKind := workloadKindDeployment, ownerName := "db" } := by
    show ownerRefFromProposalName "shop" "deployment-db-ingress" = _
    rfl
  obtain ⟨policy, hpolicy⟩ := exists_promotedPolicy (w.stamp new) hshort .monitor
  have hedit : Others w (w.write new) := .editMetadata hold rfl
  have hlearned : Comes .documented (.direct 0) (Controllers.start .documented (.direct 0) (.ofList []) policies buffer)
      new.namespacedName w (Learning.reconcile (.direct 0) new.namespacedName) := .learner hrun
  have hfree : (w.write new).policies.lookup policy.key = none := by
    rw [show (w.write new).policies = _ from hpolicies]
    rfl
  obtain ⟨k, s, hsteps, hworld, hcall⟩ := (hlearned.others hedit).promotion (List.mem_cons_self ..) rfl rfl hwk rfl rfl
    hpolicy hfree
  have hnone : ∀ l : List NamespacedName, l = [] → new.namespacedName ∉ l := by
    rintro l rfl
    exact List.not_mem_nil
  have hresult := promotion_keeps_accepted hsteps hcall (hnone _ (by rw [hworld]; exact hrewritten))
    (hnone _ (by rw [hworld]; exact hdeleted)) (by rw [hworld]; exact hmem) (List.mem_singleton_self _) rfl
  refine ⟨_, s, _, policy, k, hsteps, hcall, by rw [hworld]; exact hmem, ?_⟩
  rw [hworld] at hresult
  rcases hresult with h | h | h | h | ⟨stored, hstored, hlt, -⟩ | ⟨shown, hleft⟩
  · rw [show (w.write new).channel = [] from hchannel] at h
    cases h
  · rw [show (w.write new).pending = [] from hpending] at h
    cases h
  · rw [show (w.write new).processing = none from hprocessing] at h
    cases h
  · exact h
  · obtain rfl := Option.some.inj ((lookup_write w new).symm.trans hstored)
    exact absurd hlt (Nat.lt_irrefl _)
  · have h := hleft.shown
    rw [show (w.write new).shown = [] from hshown] at h
    cases h

end Results

end NetworkEnforcer.Learner
