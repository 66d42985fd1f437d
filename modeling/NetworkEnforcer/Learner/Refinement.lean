import NetworkEnforcer.Learner.Delivery

/-!
# The learner as promotion sees it

The results on promotion assume of the learner that each of its writes is one of two steps of `Interference`: a
flow learned into the proposal that is stored at that moment, or into a new one.  Here the program of the learner
is shown to do nothing else: seen from one proposal (`View`), a step of the learner's system is a step of
`Interference` or none (`View.others`, `View.answers`), so every run of the one is a run of the other
(`learner_refines_interference`).
-/

namespace NetworkEnforcer.Learner

open NetworkEnforcer.Lib NetworkEnforcer.Api NetworkEnforcer.Reconcile
open NetworkEnforcer.Learning hiding World Request ask reconcile system

/-- What promotion sees of the world of the learner: one proposal with its versions, and the policies. -/
structure View (key : NamespacedName) (w : World) (v : Learning.World) : Prop where
  proposal : v.proposal = w.proposals.lookup key
  versions (p : WorkloadNetworkPolicyProposal) : p ∈ v.versions ↔ p ∈ w.versions ∧ p.namespacedName = key
  clock : v.clock = w.clock key
  policies : v.policies = w.policies

section View

variable {lib : Apimachinery} {key : NamespacedName} {w w' : World} {v : Learning.World}

lemma View.of_eq (h : View key w v) (hproposals : w'.proposals = w.proposals) (hversions : w'.versions = w.versions)
    (hclock : w'.clock = w.clock) (hpolicies : w'.policies = w.policies) : View key w' v where
  proposal := by rw [hproposals]; exact h.proposal
  versions := by rw [hversions]; exact h.versions
  clock := by rw [hclock]; exact h.clock
  policies := by rw [hpolicies]; exact h.policies

/-- A write of another proposal is not seen. -/
lemma View.write_ne (h : View key w v) {p : WorkloadNetworkPolicyProposal} (hp : p.namespacedName ≠ key) :
    View key (w.write p) v where
  proposal := by rw [lookup_write_ne w hp.symm]; exact h.proposal
  versions q := by
    rw [h.versions]
    constructor
    · exact fun ⟨hq, hk⟩ => ⟨List.mem_cons_of_mem _ hq, hk⟩
    · rintro ⟨hq, hk⟩
      rcases List.mem_cons.1 hq with rfl | hq
      · exact absurd hk hp
      · exact ⟨hq, hk⟩
  clock := by
    have hclock : (w.write p).clock key = w.clock key := Function.update_of_ne hp.symm ..
    rw [hclock]
    exact h.clock
  policies := h.policies

/-- A write of the proposal is a new version of it. -/
lemma View.write (h : View key w v) {p : WorkloadNetworkPolicyProposal} (hp : p.namespacedName = key)
    (learned : List (Nat × LearnerUpdate)) : View key (w.write p) { v.store p with learned := learned } := by
  have hstamp : v.stamp p = w.stamp p := by
    rw [Learning.World.stamp, World.stamp, h.clock, hp]
  refine ⟨?_, ?_, ?_, h.policies⟩
  · rw [← hp, lookup_write, ← hstamp]
    rfl
  · intro q
    have hcons : q ∈ (v.store p).versions ↔ q = w.stamp p ∨ q ∈ v.versions := by
      rw [← hstamp]
      exact List.mem_cons
    have hcons' : q ∈ (w.write p).versions ↔ q = w.stamp p ∨ q ∈ w.versions := List.mem_cons
    have hkey : q = w.stamp p → q.namespacedName = key := fun hq => hq ▸ hp
    rw [hcons', show q ∈ ({ v.store p with learned := learned } : Learning.World).versions ↔ _ from hcons, h.versions]
    tauto
  · have hclock : (w.write p).clock key = w.clock key + 1 := by
      rw [← hp]
      exact Function.update_self ..
    rw [hclock, ← h.clock]
    rfl

/-- The rewritten proposals stay rewritten. -/
lemma rewritten_subset_others (hstep : Others w w') : w.rewritten ⊆ w'.rewritten := by
  cases hstep with
  | send event =>
    unfold World.enqueueEvent
    split <;> exact List.Subset.refl _
  | deliver => exact List.Subset.refl _
  | editMetadata => exact List.Subset.refl _
  | rewrite => exact List.subset_cons_self ..
  | delete => exact List.Subset.refl _
  | editPolicies => exact List.Subset.refl _
  | useBuffer => exact List.Subset.refl _

lemma rewritten_of_answers {r : Request} {x : r.Resp} (hans : Answers lib r w x w') : w'.rewritten = w.rewritten := by
  cases r with
  | take =>
    obtain ⟨-, before, after, -, rfl⟩ := hans
    rfl
  | done => rw [show w' = _ from hans]
  | checkExistingPolicy => rw [hans.1]
  | get => rw [hans.1]
  | getOwner => rw [show w' = w from hans]
  | create =>
    rcases hans with ⟨rfl, -⟩ | ⟨-, rfl, -⟩
    · rfl
    · rfl
  | update =>
    rcases hans with ⟨rfl, -⟩ | ⟨-, rfl, -⟩
    · rfl
    · rfl
  | evaluate =>
    obtain ⟨now, -, rfl⟩ := hans
    rfl

/-- **What others do**, as promotion sees it. -/
theorem View.others (h : View key w v) (hstep : Others w w') (hkey : key ∉ w'.rewritten) :
    ∃ v', View key w' v' ∧ Relation.ReflTransGen (Interference lib key) v v' := by
  cases hstep with
  | send event =>
    refine ⟨v, ?_, .refl⟩
    unfold World.enqueueEvent
    split
    · exact h.of_eq rfl rfl rfl rfl
    · exact h
  | deliver => exact ⟨v, h.of_eq rfl rfl rfl rfl, .refl⟩
  | @editMetadata old new hold hspec =>
    by_cases hk : new.namespacedName = key
    · refine ⟨v.store new, h.write hk v.learned, .single (.editMetadata ?_ hspec ?_)⟩
      · rw [h.proposal, ← hk]
        exact hold
      · exact (namespacedName_of_lookup hold).symm
    · exact ⟨v, h.write_ne hk, .refl⟩
  | rewrite new =>
    have hk : new.namespacedName ≠ key := by
      rintro rfl
      exact hkey (List.mem_cons_self ..)
    exact ⟨v, (h.write_ne hk).of_eq rfl rfl rfl rfl, .refl⟩
  | delete k =>
    by_cases hk : key = k
    · subst hk
      refine ⟨{ v with proposal := none }, ⟨?_, h.versions, h.clock, h.policies⟩, .single .delete⟩
      exact (Store.lookup_remove ..).symm
    · refine ⟨v, ⟨?_, h.versions, h.clock, h.policies⟩, .refl⟩
      rw [h.proposal]
      exact (Store.lookup_remove_ne hk).symm
  | editPolicies policies =>
    exact ⟨{ v with policies := policies }, ⟨h.proposal, h.versions, h.clock, rfl⟩, .single .editPolicies⟩
  | useBuffer buffer => exact ⟨v, h.of_eq rfl rfl rfl rfl, .refl⟩

/-- **What the learner does**, as promotion sees it. -/
theorem View.answers {initial : Store fun p : WorkloadNetworkPolicyProposal => p.namespacedName}
    (h : View key w v) (hinv : Inv lib initial w) {r : Request} {x : r.Resp} (hreq : Requested lib r w)
    (hans : Answers lib r w x w') : ∃ v', View key w' v' ∧ Relation.ReflTransGen (Interference lib key) v v' := by
  cases r with
  | take =>
    obtain ⟨-, before, after, -, rfl⟩ := hans
    exact ⟨v, h.of_eq rfl rfl rfl rfl, .refl⟩
  | done event failure =>
    obtain rfl := hans
    exact ⟨v, h.of_eq rfl rfl rfl rfl, .refl⟩
  | checkExistingPolicy ns name =>
    obtain ⟨rfl, -⟩ := hans
    exact ⟨v, h.of_eq rfl rfl rfl rfl, .refl⟩
  | get k =>
    obtain ⟨rfl, -⟩ := hans
    exact ⟨v, h, .refl⟩
  | getOwner wk =>
    obtain rfl := hans
    exact ⟨v, h, .refl⟩
  | evaluate policy workload direction flow =>
    obtain ⟨now, -, rfl⟩ := hans
    exact ⟨v, h.of_eq rfl rfl rfl rfl, .refl⟩
  | create p =>
    rcases hans with ⟨rfl, -⟩ | ⟨hnone, rfl, -⟩
    · exact ⟨v, h, .refl⟩
    · by_cases hk : p.namespacedName = key
      · obtain ⟨event, u, -, -, happly, hp⟩ := hreq
        have hstep : Interference lib key v { v.store p with learned := (v.clock + 1, u) :: v.learned } := by
          rw [hp]
          refine .learnFirst ?_ ?_ happly
          · rw [h.proposal, ← hk]
            exact hnone
          · rw [← hk, hp]
        exact ⟨_, h.write hk _, .single hstep⟩
      · exact ⟨v, h.write_ne hk, .refl⟩
  | update p =>
    rcases hans with ⟨rfl, -⟩ | ⟨⟨stored, hstored, hlock⟩, rfl, -⟩
    · exact ⟨v, h, .refl⟩
    · by_cases hk : p.namespacedName = key
      · obtain ⟨event, u, old, -, -, hold, hkey, happly, hne, hp⟩ := hreq
        have hlook := hinv.lookup_of_update hold hp hstored hlock
        have hstep : Interference lib key v { v.store p with learned := (v.clock + 1, u) :: v.learned } := by
          have hpkey : p.namespacedName = old.namespacedName := by rw [hp]
          rw [hp]
          refine .learn ?_ ?_ happly hne
          · rw [h.proposal, ← hk]
            exact hlook
          · exact hkey.symm.trans (hpkey.symm.trans hk)
        exact ⟨_, h.write hk _, .single hstep⟩
      · exact ⟨v, h.write_ne hk, .refl⟩

lemma view_start (initial : Store fun p : WorkloadNetworkPolicyProposal => p.namespacedName)
    (policies : Store WorkloadNetworkPolicy.key) (buffer : Ringbuf.Buffer Observation) (key : NamespacedName) :
    View key (World.start initial policies buffer) (Learning.World.start (initial.lookup key) policies) where
  proposal := rfl
  versions p := by
    simp only [Learning.World.start, World.start, Option.mem_toList]
    constructor
    · exact fun h => ⟨Store.mem_of_lookup h, namespacedName_of_lookup h⟩
    · rintro ⟨hp, rfl⟩
      exact Store.mem_values.1 hp
  clock := rfl
  policies := rfl

end View

/-- **The learner does what promotion assumes.**  Take any run of the learner, among everything else that happens
to proposals, policies and events, and one proposal whose specification nobody else has written.  What happened to
that proposal is a run of the interference under which the results on promotion hold: each write of the learner has
learned one flow into the version that was stored just then. -/
theorem learner_refines_interference {lib : Apimachinery} {ctrl : ControllerLib}
    {initial : Store fun p : WorkloadNetworkPolicyProposal => p.namespacedName}
    {policies : Store WorkloadNetworkPolicy.key} {buffer : Ringbuf.Buffer Observation} {w : World} {p : LearnerM Unit}
    (hrun : (system lib).Runs (worker lib ctrl) (World.start initial policies buffer, worker lib ctrl) (w, p))
    {key : NamespacedName} (hkey : key ∉ w.rewritten) :
    ∃ v, View key w v ∧
      Relation.ReflTransGen (Interference lib key) (Learning.World.start (initial.lookup key) policies) v := by
  -- along the run, with what the proof rule says of each of its states
  have key_run : ∀ c : World × LearnerM Unit,
      (system lib).Runs (worker lib ctrl) (World.start initial policies buffer, worker lib ctrl) c →
      key ∉ c.1.rewritten → ∃ v, View key c.1 v ∧
        Relation.ReflTransGen (Interference lib key) (Learning.World.start (initial.lookup key) policies) v := by
    intro c hc
    induction hc with
    | refl => exact fun _ => ⟨_, view_start initial policies buffer key, .refl⟩
    | @tail b c hb hstep ih =>
      intro hc
      have hsafe := Safe.reachable (fun _ _ h => worker_safe h) (worker_safe (idle_start policies buffer)) hb
      cases hstep with
      | env hother =>
        obtain ⟨v, hv, hsteps⟩ := ih fun hmem => hc (rewritten_subset_others hother hmem)
        obtain ⟨v', hv', hmore⟩ := hv.others hother hc
        exact ⟨v', hv', hsteps.trans hmore⟩
      | call hans =>
        rw [show _ = _ from rewritten_of_answers hans] at hc
        obtain ⟨v, hv, hsteps⟩ := ih hc
        obtain ⟨v', hv', hmore⟩ := hv.answers hsafe.inv_holds hsafe.request hans
        exact ⟨v', hv', hsteps.trans hmore⟩
      | restart => exact ih hc
  exact key_run (w, p) hrun hkey

/-- The proposal of `db` in the run where a connection is learned. -/
theorem learner_refines_interference_sample : ∃ w policies v,
    Reachable .documented (.direct 0) (.ofList []) w ∧ LearnedAtRest w ∧ View ⟨"shop", "deployment-db-ingress"⟩ w v ∧
      Relation.ReflTransGen (Interference .documented ⟨"shop", "deployment-db-ingress"⟩)
        (Learning.World.start none policies) v := by
  obtain ⟨w, ⟨policies, buffer, p, hrun⟩, hrest⟩ := learned_run
  have hkey : (⟨"shop", "deployment-db-ingress"⟩ : NamespacedName) ∉ w.rewritten := by
    rw [hrest.2.2.2.2.2.1]
    exact List.not_mem_nil
  obtain ⟨v, hview, hsteps⟩ := learner_refines_interference hrun hkey
  exact ⟨w, policies, v, ⟨policies, buffer, p, hrun⟩, hrest, hview, hsteps⟩

end NetworkEnforcer.Learner
