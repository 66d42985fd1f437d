import NetworkEnforcer.Learner.Delivery

/-!
# What a proposal was learned from

`learned_iff_accepted` says which rules a proposal has.  Here is what the proposal is: a version that nobody else has
written is what the updates of accepted events have made of a new proposal, one after the other (`Learned`).  That fixes
its shape as well: a proposal of istio events has the rules of `learnIstio` (`Learned.istio`).
-/

namespace NetworkEnforcer.Learner

open NetworkEnforcer.Lib NetworkEnforcer.Api NetworkEnforcer.Reconcile
open NetworkEnforcer.Learning hiding World Request ask reconcile system

/-- The event asks for an update of the proposal. -/
def UpdateOf (accepted : List LearningEvent) (key : NamespacedName) (u : LearnerUpdate) : Prop :=
  ∃ event ∈ accepted, u ∈ updates event ∧ proposalOf u = key

/-- The specifications that updates of accepted events make of a new proposal. -/
inductive Learned (lib : Apimachinery) (accepted : List LearningEvent) (key : NamespacedName) :
    WorkloadNetworkPolicyProposalSpec → Prop
  | first {u : LearnerUpdate} {spec : WorkloadNetworkPolicyProposalSpec} : UpdateOf accepted key u →
    u.apply lib u.metadata.spec = .ok spec → Learned lib accepted key spec
  | next {u : LearnerUpdate} {old spec : WorkloadNetworkPolicyProposalSpec} : Learned lib accepted key old →
    UpdateOf accepted key u → u.apply lib old = .ok spec → Learned lib accepted key spec

section Learned

variable {lib : Apimachinery} {accepted accepted' : List LearningEvent} {key : NamespacedName}
  {spec : WorkloadNetworkPolicyProposalSpec}

lemma UpdateOf.mono (hsub : accepted ⊆ accepted') {u : LearnerUpdate} (h : UpdateOf accepted key u) :
    UpdateOf accepted' key u := by
  obtain ⟨event, hevent, hu⟩ := h
  exact ⟨event, hsub hevent, hu⟩

lemma Learned.mono (hsub : accepted ⊆ accepted') (h : Learned lib accepted key spec) :
    Learned lib accepted' key spec := by
  induction h with
  | first hu happly => exact .first (hu.mono hsub) happly
  | next _ hu happly ih => exact .next ih (hu.mono hsub) happly

/-- **A proposal of istio events** has the rules of their connections, and no others. -/
theorem Learned.istio (h : Learned lib accepted key spec)
    (hbackend : ∀ {u}, UpdateOf accepted key u → ∃ dest principal port, u = .istio dest principal port) :
    spec.backend = .istio ∧ ∃ selector connections,
      spec.istio = some (learnIstio { selector := selector } connections) ∧
      ∀ c ∈ connections, ∃ dest, UpdateOf accepted key (.istio dest c.1 c.2) := by
  induction h with
  | first hu happly =>
    obtain ⟨dest, principal, port, rfl⟩ := hbackend hu
    obtain rfl := Except.ok.inj happly
    exact ⟨rfl, dest.selector, [(principal, port)], rfl, List.forall_mem_singleton.2 ⟨dest, hu⟩⟩
  | next hold hu happly ih =>
    obtain ⟨dest, principal, port, rfl⟩ := hbackend hu
    obtain rfl := Except.ok.inj happly
    obtain ⟨hbackend, selector, connections, hspec, hall⟩ := ih
    refine ⟨?_, selector, connections ++ [(principal, port)], ?_, ?_⟩
    · simp only [mutateIstioProposal, hspec]
      exact hbackend
    · simp only [mutateIstioProposal, hspec, learnIstio, List.foldl_append, List.foldl_cons, List.foldl_nil]
    · intro c hc
      rcases List.mem_append.1 hc with hc | hc
      · exact hall c hc
      · obtain rfl := List.mem_singleton.1 hc
        exact ⟨dest, hu⟩

end Learned

/-! ## Runs -/

section Runs

variable {lib : Apimachinery} {ctrl : ControllerLib}
  {initial : Store fun p : WorkloadNetworkPolicyProposal => p.namespacedName} {w w' : World}

/-- Every version of a proposal that is new and that nobody else has written was learned. -/
def VersionsLearned (lib : Apimachinery) (initial : Store fun p : WorkloadNetworkPolicyProposal => p.namespacedName)
    (w : World) : Prop :=
  ∀ p ∈ w.versions, p.namespacedName ∉ w.rewritten → initial.lookup p.namespacedName = none →
    Learned lib w.accepted p.namespacedName p.spec

/-- A step that writes no proposal. -/
lemma VersionsLearned.of_versions (h : VersionsLearned lib initial w) (hversions : w'.versions = w.versions)
    (haccepted : w.accepted ⊆ w'.accepted) (hrewritten : w'.rewritten = w.rewritten) :
    VersionsLearned lib initial w' := by
  intro p hp hnot hnew
  rw [hversions] at hp
  rw [hrewritten] at hnot
  exact (h p hp hnot hnew).mono haccepted

lemma VersionsLearned.write (h : VersionsLearned lib initial w) {p : WorkloadNetworkPolicyProposal}
    (hp : p.namespacedName ∉ w.rewritten → initial.lookup p.namespacedName = none →
      Learned lib w.accepted p.namespacedName p.spec) : VersionsLearned lib initial (w.write p) := by
  intro q hq hnot hnew
  rcases List.mem_cons.1 hq with rfl | hq
  · exact hp hnot hnew
  · exact h q hq hnot hnew

lemma VersionsLearned.others (h : VersionsLearned lib initial w) (hinv : Inv lib initial w) (hstep : Others w w') :
    VersionsLearned lib initial w' := by
  have hself := List.Subset.refl w.accepted
  cases hstep with
  | send event =>
    unfold World.enqueueEvent
    split
    · exact h.of_versions rfl (List.subset_cons_self ..) rfl
    · exact h
  | deliver => exact h.of_versions rfl hself rfl
  | @editMetadata old new hold hspec =>
    refine h.write fun hnot hnew => ?_
    have hkey := namespacedName_of_lookup hold
    rw [hspec]
    rw [← hkey] at hnot hnew ⊢
    exact h old (hinv.stored (Store.mem_of_lookup hold)) hnot hnew
  | rewrite new =>
    intro p hp hnot hnew
    rcases List.mem_cons.1 hp with rfl | hp
    · exact absurd (List.mem_cons_self ..) hnot
    · exact h p hp (fun hmem => hnot (List.mem_cons_of_mem _ hmem)) hnew
  | delete => exact h.of_versions rfl hself rfl
  | editPolicies => exact h.of_versions rfl hself rfl
  | useBuffer => exact h.of_versions rfl hself rfl

lemma VersionsLearned.answers (h : VersionsLearned lib initial w) (hinv : Inv lib initial w) {r : Request} {x : r.Resp}
    (hreq : Requested lib r w) (hans : Answers lib r w x w') : VersionsLearned lib initial w' := by
  have hself := List.Subset.refl w.accepted
  have hunderWay : ∀ {event u}, w.processing = some event → u ∈ updates event → UpdateOf w.accepted (proposalOf u) u :=
    fun hevent hu => ⟨_, hinv.underWay (.inr (.inr hevent)), hu, rfl⟩
  cases r with
  | take =>
    obtain ⟨-, before, after, -, rfl⟩ := hans
    exact h.of_versions rfl hself rfl
  | done event failure =>
    obtain rfl := hans
    exact h.of_versions rfl hself rfl
  | checkExistingPolicy ns name =>
    obtain ⟨rfl, -⟩ := hans
    exact h.of_versions rfl hself rfl
  | get k =>
    obtain ⟨rfl, -⟩ := hans
    exact h
  | getOwner wk =>
    obtain rfl := hans
    exact h
  | evaluate policy workload direction flow =>
    obtain ⟨now, -, rfl⟩ := hans
    exact h.of_versions rfl hself rfl
  | create p =>
    rcases hans with ⟨rfl, -⟩ | ⟨-, rfl, -⟩
    · exact h
    · obtain ⟨event, u, hevent, hu, happly, hp⟩ := hreq
      refine h.write fun _ _ => ?_
      rw [show p.namespacedName = proposalOf u by rw [hp]; rfl]
      exact .first (hunderWay hevent hu) happly
  | update p =>
    rcases hans with ⟨rfl, -⟩ | ⟨-, rfl, -⟩
    · exact h
    · obtain ⟨event, u, old, hevent, hu, hold, hkey, happly, -, hp⟩ := hreq
      refine h.write fun hnot hnew => ?_
      have hpkey : p.namespacedName = old.namespacedName := by rw [hp]
      rw [hpkey] at hnot hnew ⊢
      have hold := h old hold hnot hnew
      rw [hkey] at hold ⊢
      exact .next hold (hunderWay hevent hu) happly

/-- **What the learner stores was learned.** -/
theorem Reachable.learned (h : Reachable lib ctrl initial w) {key : NamespacedName} {p : WorkloadNetworkPolicyProposal}
    (hp : w.proposals.lookup key = some p) (hnot : key ∉ w.rewritten) (hnew : initial.lookup key = none) :
    Learned lib w.accepted key p.spec := by
  obtain ⟨policies, buffer, prog, hrun⟩ := h
  -- along the run, with what the proof rule says of each of its states
  have hstates : ∀ c : World × LearnerM Unit,
      (system lib).Runs (worker lib ctrl) (World.start initial policies buffer, worker lib ctrl) c →
      Inv lib initial c.1 ∧ VersionsLearned lib initial c.1 := by
    intro c hc
    have hinv : ∀ {c},
        (system lib).Runs (worker lib ctrl) (World.start initial policies buffer, worker lib ctrl) c → _ :=
      fun hc => Safe.reachable (fun _ _ h => worker_safe h) (worker_safe (idle_start policies buffer)) hc
    refine ⟨(hinv hc).inv_holds, ?_⟩
    induction hc with
    | refl =>
      intro p hp _ hnew
      have hlookup : initial.lookup p.namespacedName = some p := Store.mem_values.1 hp
      rw [hnew] at hlookup
      cases hlookup
    | tail hb hstep ih =>
      have hsafe := hinv hb
      cases hstep with
      | env hother => exact ih.others hsafe.inv_holds hother
      | call hans => exact ih.answers hsafe.inv_holds hsafe.request hans
      | restart => exact ih
  obtain ⟨hinv, hversions⟩ := hstates (w, prog) hrun
  obtain rfl := namespacedName_of_lookup hp
  exact hversions p (hinv.stored (Store.mem_of_lookup hp)) hnot hnew

end Runs

end NetworkEnforcer.Learner
