import NetworkEnforcer.Learner.Accounting

/-!
# The learner loses nothing and invents nothing

The program of the worker keeps the invariant of `Learner.Accounting`, whatever happens between two of its
requests (`worker_safe`).  Of every run of it:

* `accepted_accounted` — no accepted event is lost;
* `learned_iff_accepted` — at rest the rules of a proposal are those of the accepted events;
* `emitted_justified` — every violation that was reported has an event and a policy without its rule.
-/

namespace NetworkEnforcer.Learner

open NetworkEnforcer.Lib NetworkEnforcer.Api NetworkEnforcer.Reconcile
open NetworkEnforcer.Learning hiding World Request ask reconcile system

/-! ## The program -/

/-- The worker is on the event. -/
def Busy (lib : Apimachinery) (initial : Store fun p : WorkloadNetworkPolicyProposal => p.namespacedName)
    (event : LearningEvent) (w : World) : Prop :=
  Inv lib initial w ∧ w.processing = some event

/-- The worker is waiting. -/
def Idle (lib : Apimachinery) (initial : Store fun p : WorkloadNetworkPolicyProposal => p.namespacedName)
    (w : World) : Prop :=
  Inv lib initial w ∧ w.processing = none

/-- A request in the middle of a call. -/
def Request.midCall : Request → Bool
  | take | done .. => false
  | checkExistingPolicy .. | get _ | create _ | update _ | getOwner _ | evaluate .. => true

/-- A fact that no step takes away. -/
def Lasting (lib : Apimachinery) (F : World → Prop) : Prop := ∀ {w w'}, Grows lib w w' → F w → F w'

lemma lasting_true {lib : Apimachinery} : Lasting lib fun _ => True := fun _ h => h

lemma processing_of_others {w w' : World} (h : Others w w') : w'.processing = w.processing := by
  cases h with
  | send event =>
    unfold World.enqueueEvent
    split <;> rfl
  | deliver => rfl
  | editMetadata => rfl
  | rewrite => rfl
  | delete => rfl
  | editPolicies => rfl
  | useBuffer => rfl

lemma processing_of_answers {lib : Apimachinery} {r : Request} (hr : r.midCall = true) {w w' : World} {x : r.Resp}
    (h : Answers lib r w x w') : w'.processing = w.processing := by
  cases r with
  | take => cases hr
  | done => cases hr
  | checkExistingPolicy => rw [h.1]
  | get => rw [h.1]
  | getOwner => rw [show w' = w from h]
  | create =>
    rcases h with ⟨rfl, -⟩ | ⟨-, rfl, -⟩
    · rfl
    · rfl
  | update =>
    rcases h with ⟨rfl, -⟩ | ⟨-, rfl, -⟩
    · rfl
    · rfl
  | evaluate =>
    obtain ⟨now, -, rfl⟩ := h
    rfl

section Program

variable {lib : Apimachinery} {ctrl : ControllerLib}
  {initial : Store fun p : WorkloadNetworkPolicyProposal => p.namespacedName} {event : LearningEvent}
  {F : World → Prop}

lemma stable_busy (hF : Lasting lib F) : (system lib).Stable fun w => Busy lib initial event w ∧ F w := by
  intro w w' h hstep
  exact ⟨⟨h.1.1.others hstep, (processing_of_others hstep).trans h.1.2⟩, hF (.others hstep) h.2⟩

lemma stable_idle : (system lib).Stable (Idle lib initial) :=
  fun _ _ h hstep => ⟨h.1.others hstep, (processing_of_others hstep).trans h.2⟩

/-- A request in the middle of a call, with what is known then. -/
lemma safe_ask {α : Type} {Q : α → World → Prop} (hF : Lasting lib F) {r : Request} (hr : r.midCall = true)
    {f : r.Resp → LearnerM α} {w : World} (hw : Busy lib initial event w ∧ F w)
    (hreq : ∀ w, Busy lib initial event w → F w → Requested lib r w)
    (h : ∀ w x w', Busy lib initial event w' → F w' → Grows lib w w' → Answers lib r w x w' →
      Safe (system lib) (Inv lib initial) (Requested lib) Q (f x) w') :
    Safe (system lib) (Inv lib initial) (Requested lib) Q (ask r >>= f) w := by
  refine Safe.ask_bind (stable_busy hF) hw (fun w h => ⟨h.1.1, hreq w h.1 h.2⟩) ?_
  intro w x w' hw hans
  obtain ⟨hgrows, hinv⟩ := hw.1.1.answers (hreq w hw.1 hw.2) hans
  exact h w x w' ⟨hinv, (processing_of_answers hr hans).trans hw.1.2⟩ (hF hgrows hw.2) hgrows hans

/-- The end of a part of a call. -/
lemma safe_end {α : Type} (hF : Lasting lib F) {G : α → World → Prop} (hG : ∀ a, Lasting lib (G a)) {w : World} (a : α)
    (hw : Busy lib initial event w ∧ F w) (ha : G a w) :
    Safe (system lib) (Inv lib initial) (Requested lib) (fun a w => (Busy lib initial event w ∧ F w) ∧ G a w)
      (.ret a) w := by
  have hboth : Lasting lib fun w => F w ∧ G a w := fun hg h => ⟨hF hg h.1, hG a hg h.2⟩
  refine Safe.ret (stable_busy hboth) ⟨hw.1, hw.2, ha⟩ fun w h => ?_
  exact ⟨h.1.1, ⟨h.1, h.2.1⟩, h.2.2⟩

/-- The update is one of the event, where the mutation succeeds. -/
def MutatesAs (lib : Apimachinery) (event : LearningEvent) (u : LearnerUpdate)
    (mutate : WorkloadNetworkPolicyProposalSpec → Except Failure WorkloadNetworkPolicyProposalSpec) : Prop :=
  ∀ {spec spec'}, mutate spec = .ok spec' → u ∈ updates event ∧ u.apply lib spec = .ok spec'

/-- The end of `CreateOrUpdate`, with what was known before. -/
def Upserted (lib : Apimachinery) (initial : Store fun p : WorkloadNetworkPolicyProposal => p.namespacedName)
    (event : LearningEvent) (F : World → Prop) (u : LearnerUpdate) (res : Except Failure WorkloadNetworkPolicyProposal)
    (w : World) : Prop :=
  (Busy lib initial event w ∧ F w) ∧ (res.isOk = true → Kept lib w (proposalOf u) u.rule)

/-- **After `CreateOrUpdate` the rule is there.**  The version it was made from may be an old one: then the rule
is in a newer one, or the write was refused. -/
lemma createOrUpdate_safe (hF : Lasting lib F) {u : LearnerUpdate}
    {mutate : WorkloadNetworkPolicyProposalSpec → Except Failure WorkloadNetworkPolicyProposalSpec}
    (hmutate : MutatesAs lib event u mutate) {w : World} (hw : Busy lib initial event w ∧ F w) :
    Safe (system lib) (Inv lib initial) (Requested lib) (Upserted lib initial event F u)
      (createOrUpdate u.metadata mutate) w := by
  have hlasting : ∀ res : Except Failure WorkloadNetworkPolicyProposal,
      Lasting lib fun w => res.isOk = true → Kept lib w (proposalOf u) u.rule := by
    intro res w w' hg h hok
    exact hg.kept (h hok)
  have hend : ∀ (res : Except Failure WorkloadNetworkPolicyProposal) {w}, Busy lib initial event w → F w →
      (res.isOk = true → Kept lib w (proposalOf u) u.rule) →
      Safe (system lib) (Inv lib initial) (Requested lib) (Upserted lib initial event F u) (.ret res) w :=
    fun res w hb hf hk => safe_end hF hlasting res ⟨hb, hf⟩ hk
  have hfail : ∀ (failure : Failure) {w}, Busy lib initial event w → F w → Safe (system lib) (Inv lib initial)
      (Requested lib) (Upserted lib initial event F u) (.ret (.error failure)) w :=
    fun failure w hb hf => hend _ hb hf fun h => absurd h Bool.false_ne_true
  -- a write that succeeds leaves the rule in the stored proposal
  have hwritten : ∀ {p : WorkloadNetworkPolicyProposal} {w w' : World}, w' = w.write p →
      p.namespacedName = proposalOf u → Contains lib p.spec.toPolicyBackendSpec u.rule →
      Kept lib w' (proposalOf u) u.rule := by
    rintro p w w' rfl hkey hrule
    rw [← hkey]
    exact .inr (.inr ⟨w.stamp p, lookup_write w p, hrule⟩)
  unfold createOrUpdate
  refine safe_ask hF rfl hw (fun _ _ _ => trivial) ?_
  intro w x w' hb hf _ hans
  obtain ⟨rfl, hread⟩ := hans
  cases x with
  | error err =>
    dsimp only
    split
    · exact hfail _ hb hf
    · cases hm : mutate u.metadata.spec with
      | error failure => exact hfail _ hb hf
      | ok spec =>
        obtain ⟨hu, happly⟩ := hmutate hm
        refine safe_ask hF rfl ⟨hb, hf⟩ (fun w hb _ => ⟨event, u, hb.2, hu, happly, rfl⟩) ?_
        intro w x w' hb hf _ hans
        cases x with
        | error err => exact hfail _ hb hf
        | ok stored =>
          rcases hans with ⟨-, err, herr⟩ | ⟨-, hwrite, -⟩
          · cases herr
          · exact hend _ hb hf fun _ => hwritten hwrite rfl (contains_apply_self happly)
  | ok existing =>
    obtain ⟨hversion, hkey⟩ := hread existing rfl
    dsimp only
    cases hm : mutate existing.spec with
    | error failure => exact hfail _ hb hf
    | ok spec =>
      obtain ⟨hu, happly⟩ := hmutate hm
      dsimp only
      split
      · rename_i hsame
        refine hend _ hb hf fun _ => ?_
        have hrule : Contains lib existing.spec.toPolicyBackendSpec u.rule := by
          have hself := contains_apply_self happly
          rwa [hsame] at hself
        have hkept := hb.1.versionKept hversion hrule
        rwa [hkey] at hkept
      · rename_i hne
        have hF' : Lasting lib fun w => F w ∧ existing ∈ w.versions := fun hg h => ⟨hF hg h.1, hg.versions h.2⟩
        refine safe_ask hF' rfl ⟨hb, hf, hversion⟩
          (fun w hb hf => ⟨event, u, existing, hb.2, hu, hf.2, hkey, happly, hne, rfl⟩) ?_
        intro w x w' hb hf _ hans
        cases x with
        | error err => exact hfail _ hb hf.1
        | ok stored =>
          rcases hans with ⟨-, err, herr⟩ | ⟨-, hwrite, -⟩
          · cases herr
          · exact hend _ hb hf.1 fun _ => hwritten hwrite hkey (contains_apply_self happly)

/-- A part of a call whose end needs nothing of the world. -/
lemma setOwnerReference_safe (hF : Lasting lib F) {proposal : WorkloadNetworkPolicyProposal} {wk : WorkloadRef}
    {w : World} (hw : Busy lib initial event w ∧ F w) :
    Safe (system lib) (Inv lib initial) (Requested lib) (fun _ w => (Busy lib initial event w ∧ F w) ∧ True)
      (setOwnerReference ctrl proposal wk) w := by
  have hend : ∀ (err : Option Err) {w}, Busy lib initial event w ∧ F w → Safe (system lib) (Inv lib initial)
      (Requested lib) (fun _ w => (Busy lib initial event w ∧ F w) ∧ True) (.ret err) w :=
    fun err w h => safe_end hF (fun _ _ _ _ h => h) err h trivial
  unfold setOwnerReference
  split
  · exact hend _ hw
  split
  · exact hend _ hw
  refine safe_ask hF rfl hw (fun _ _ _ => trivial) ?_
  intro w x w' hb hf _ _
  cases x with
  | error err =>
    dsimp only
    split <;> exact hend _ ⟨hb, hf⟩
  | ok owner =>
    dsimp only
    split <;> exact hend _ ⟨hb, hf⟩

lemma lasting_accounted (u : LearnerUpdate) (failure : Option Failure) :
    Lasting lib fun w => failure = none → Accounted lib w event u :=
  fun hg h hf => (h hf).mono hg

/-- The end of a part of a call that is about one update. -/
lemma safe_end_update (hF : Lasting lib F) {u : LearnerUpdate} (failure : Option Failure) {w : World}
    (hb : Busy lib initial event w) (hf : F w) (h : failure = none → Accounted lib w event u) :
    Safe (system lib) (Inv lib initial) (Requested lib)
      (fun failure w => (Busy lib initial event w ∧ F w) ∧ (failure = none → Accounted lib w event u)) (.ret failure) w :=
  safe_end hF (lasting_accounted u) failure ⟨hb, hf⟩ h

lemma maintainProposal_safe (hF : Lasting lib F) {wk : WorkloadRef} {u : LearnerUpdate}
    {mutate : WorkloadNetworkPolicyProposalSpec → Except Failure WorkloadNetworkPolicyProposalSpec}
    (hmutate : MutatesAs lib event u mutate) {w : World} (hw : Busy lib initial event w ∧ F w) :
    Safe (system lib) (Inv lib initial) (Requested lib)
      (fun failure w => (Busy lib initial event w ∧ F w) ∧ (failure = none → Accounted lib w event u))
      (maintainProposal ctrl wk u.metadata mutate) w := by
  unfold maintainProposal
  refine Safe.bind (createOrUpdate_safe hF hmutate hw) ?_
  rintro res w ⟨⟨hb, hf⟩, hkept⟩
  cases res with
  | error failure => exact safe_end_update hF _ hb hf fun h => absurd h (Option.some_ne_none _)
  | ok stored =>
    have hF' : Lasting lib fun w => F w ∧ Kept lib w (proposalOf u) u.rule := fun hg h => ⟨hF hg h.1, hg.kept h.2⟩
    refine Safe.bind (setOwnerReference_safe hF' ⟨hb, hf, hkept rfl⟩) ?_
    rintro err w ⟨⟨hb, hf, hkept⟩, -⟩
    cases err with
    | some err => exact safe_end_update hF _ hb hf fun h => absurd h (Option.some_ne_none _)
    | none => exact safe_end_update hF _ hb hf fun _ => .inl hkept

/-- The policy of a list with one policy was shown. -/
lemma shown_of_answers {w w' : World} {ns name : String} {policy : WorkloadNetworkPolicy}
    (hans : Answers lib (.checkExistingPolicy ns name) w (.ok [policy]) w') (hb : Busy lib initial event w') :
    Shown w' event ⟨ns, name⟩ policy := by
  obtain ⟨rfl, hlisted⟩ := hans
  obtain ⟨hpolicy, hfrom⟩ := hlisted [policy] rfl policy (List.mem_singleton_self _)
  have hprocessing : w.processing = some event := hb.2
  refine ⟨hpolicy, hfrom, List.mem_append_left _ ?_⟩
  rw [hprocessing]
  exact List.mem_singleton_self _

lemma lasting_shown {key : NamespacedName} (policy : WorkloadNetworkPolicy) (hF : Lasting lib F) :
    Lasting lib fun w => F w ∧ Shown w event key policy :=
  fun hg h => ⟨hF hg h.1, h.2.mono hg⟩

lemma reconcileKubernetesProposal_safe (hF : Lasting lib F) {workload : WorkloadRef} {direction : PolicyType}
    {flow : LearnedFlow} (hu : .kubernetes workload direction flow ∈ updates event) {w : World}
    (hw : Busy lib initial event w ∧ F w) :
    Safe (system lib) (Inv lib initial) (Requested lib)
      (fun failure w => (Busy lib initial event w ∧ F w) ∧
        (failure = none → Accounted lib w event (.kubernetes workload direction flow)))
      (reconcileKubernetesProposal lib ctrl workload direction flow) w := by
  unfold reconcileKubernetesProposal
  refine safe_ask hF rfl hw (fun _ _ _ => trivial) ?_
  intro w x w' hb hf _ hans
  cases x with
  | error err => exact safe_end_update hF _ hb hf fun h => absurd h (Option.some_ne_none _)
  | ok policies =>
    rcases policies with _ | ⟨policy, _ | ⟨second, rest⟩⟩
    · have hmutate : MutatesAs lib event (.kubernetes workload direction flow) fun spec =>
          orError (mutateKubernetesProposal lib workload flow.peer direction flow.protocol flow.dstPort spec) := by
        intro spec spec' h
        exact ⟨hu, eq_ok_of_orError h⟩
      exact maintainProposal_safe hF hmutate ⟨hb, hf⟩
    · have hshown := shown_of_answers hans hb
      dsimp only
      split
      · rename_i hmode
        exact safe_end_update hF _ hb hf fun _ => .inr ⟨policy, hshown, fun _ => .inl hmode⟩
      · rename_i hmode
        refine safe_ask (lasting_shown policy hF) rfl ⟨hb, hf, hshown⟩
          (fun w hb hf => ⟨event, hb.2, hu, hf.2.version, hf.2.promoted, hmode⟩) ?_
        intro w x w' hb hf _ hans
        have hend : ∀ failure : Option Failure,
            (failure = none → Accounted lib w' event (.kubernetes workload direction flow)) →
            Safe (system lib) (Inv lib initial) (Requested lib)
              (fun failure w => (Busy lib initial event w ∧ F w) ∧
                (failure = none → Accounted lib w event (.kubernetes workload direction flow))) (.ret failure) w' :=
          fun failure h => safe_end_update hF failure hb hf.1 h
        obtain ⟨now, rfl, rfl⟩ := hans
        split
        · exact hend _ fun h => absurd h (Option.some_ne_none _)
        · rename_i hother
          refine hend _ fun _ => .inr ⟨policy, hf.2, fun h => ?_⟩
          cases h
          rcases evaluateMonitorViolation_cases lib w.monitor policy workload flow now (direction_of_mem_updates hu) with
            ⟨-, hnil | hhas⟩ | ⟨-, -, hemitted⟩
          · exact absurd hnil hother
          · exact .inr (.inl hhas)
          · refine .inr (.inr ⟨now, ?_⟩)
            show _ ∈ (evaluateMonitorViolation lib w.monitor policy workload flow.peer flow.protocol direction
              flow.dstPort now).2.emitted
            rw [hemitted]
            exact List.mem_append_right _ (List.mem_singleton_self _)
    · exact safe_end_update hF _ hb hf fun h => absurd h (Option.some_ne_none _)

/-- A call that has ended: without a failure, the event is accounted for. -/
def Finished (lib : Apimachinery) (initial : Store fun p : WorkloadNetworkPolicyProposal => p.namespacedName)
    (event : LearningEvent) (failure : Option Failure) (w : World) : Prop :=
  (Busy lib initial event w ∧ True) ∧ (failure = none → ∀ u ∈ updates event, Accounted lib w event u)

lemma safe_finish {w : World} (failure : Option Failure) (hb : Busy lib initial event w)
    (h : failure = none → ∀ u ∈ updates event, Accounted lib w event u) :
    Safe (system lib) (Inv lib initial) (Requested lib) (Finished lib initial event) (.ret failure) w := by
  have hlasting : ∀ failure : Option Failure,
      Lasting lib fun w => failure = none → ∀ u ∈ updates event, Accounted lib w event u := by
    intro failure w w' hg h hf u hu
    exact (h hf u hu).mono hg
  exact safe_end lasting_true hlasting failure ⟨hb, trivial⟩ h

lemma safe_failed {w : World} (failure : Failure) (hb : Busy lib initial event w) :
    Safe (system lib) (Inv lib initial) (Requested lib) (Finished lib initial event) (.ret (some failure)) w :=
  safe_finish _ hb fun h => absurd h (Option.some_ne_none _)

lemma processKubernetesLearningEvent_safe (hbackend : event.backend ≠ .istio) {w : World}
    (hb : Busy lib initial event w) :
    Safe (system lib) (Inv lib initial) (Requested lib) (Finished lib initial event)
      (processKubernetesLearningEvent lib ctrl event) w := by
  unfold processKubernetesLearningEvent
  split
  · rename_i source dest hsource hdest
    have hupdates : updates event = [.kubernetes source .egress ⟨dest, event.protocol, event.dstPort⟩,
        .kubernetes dest .ingress ⟨source, event.protocol, event.dstPort⟩] := by
      simp only [updates, hsource, hdest, if_neg hbackend]
    refine Safe.bind (reconcileKubernetesProposal_safe lasting_true ?_ ⟨hb, trivial⟩) ?_
    · rw [hupdates]
      exact List.mem_cons_self ..
    rintro failure w ⟨⟨hb, -⟩, hegress⟩
    cases failure with
    | some failure => exact safe_failed _ hb
    | none =>
      have hF : Lasting lib fun w =>
          Accounted lib w event (.kubernetes source .egress ⟨dest, event.protocol, event.dstPort⟩) :=
        fun hg h => h.mono hg
      refine Safe.bind (reconcileKubernetesProposal_safe hF ?_ ⟨hb, hegress rfl⟩) ?_
      · rw [hupdates]
        exact List.mem_cons_of_mem _ (List.mem_singleton_self _)
      rintro failure w ⟨⟨hb, hegress⟩, hingress⟩
      cases failure with
      | some failure => exact safe_failed _ hb
      | none =>
        refine safe_finish _ hb fun _ u hu => ?_
        rw [hupdates] at hu
        rcases List.mem_pair.1 hu with rfl | rfl
        · exact hegress
        · exact hingress rfl
  · exact safe_failed _ hb

lemma updateProposal_safe (hbackend : event.backend = .istio) {dest : WorkloadRef} (hdest : event.dest = some dest)
    {w : World} (hb : Busy lib initial event w) :
    Safe (system lib) (Inv lib initial) (Requested lib) (Finished lib initial event) (updateProposal ctrl event dest) w := by
  unfold updateProposal
  -- without a source the mutation never succeeds, so any update will do
  have hmutate : MutatesAs lib event (.istio dest ((event.source.map (·.identity)).getD "") event.dstPort)
      (mutateIstio event dest) := by
    intro spec spec' h
    unfold mutateIstio at h
    cases hsource : event.source with
    | none =>
      rw [hsource] at h
      cases h
    | some source =>
      rw [hsource] at h
      refine ⟨?_, congrArg Except.ok (Except.ok.inj h)⟩
      simp only [updates, hsource, hdest, if_pos hbackend]
      exact List.mem_singleton_self _
  refine Safe.mono (maintainProposal_safe lasting_true hmutate ⟨hb, trivial⟩) ?_
  rintro failure w ⟨hb, haccounted⟩
  refine ⟨hb, fun hnone u hu => ?_⟩
  cases hsource : event.source with
  | none =>
    simp only [updates, hsource] at hu
    cases hu
  | some source =>
    simp only [updates, hsource, hdest, if_pos hbackend] at hu
    obtain rfl := List.mem_singleton.1 hu
    have h := haccounted hnone
    rw [hsource] at h
    exact h

lemma processIstioLearningEvent_safe (hbackend : event.backend = .istio) {w : World} (hb : Busy lib initial event w) :
    Safe (system lib) (Inv lib initial) (Requested lib) (Finished lib initial event)
      (processIstioLearningEvent ctrl event) w := by
  unfold processIstioLearningEvent
  split
  · exact safe_failed _ hb
  rename_i dest hdest
  refine safe_ask lasting_true rfl ⟨hb, trivial⟩ (fun _ _ _ => trivial) ?_
  intro w x w' hb _ _ hans
  cases x with
  | error err => exact safe_failed _ hb
  | ok policies =>
    rcases policies with _ | ⟨policy, _ | ⟨second, rest⟩⟩
    · exact updateProposal_safe hbackend hdest hb
    · have hshown := shown_of_answers hans hb
      refine safe_finish _ hb fun _ u hu => ?_
      cases hsource : event.source with
      | none =>
        simp only [updates, hsource] at hu
        cases hu
      | some source =>
        simp only [updates, hsource, hdest, if_pos hbackend] at hu
        obtain rfl := List.mem_singleton.1 hu
        exact .inr ⟨policy, hshown, fun h => by cases h⟩
    · exact safe_failed _ hb

lemma reconcile_safe {w : World} (hb : Busy lib initial event w) :
    Safe (system lib) (Inv lib initial) (Requested lib) (Finished lib initial event) (reconcile lib ctrl event) w := by
  unfold reconcile
  split
  · exact processIstioLearningEvent_safe ‹_› hb
  · exact processKubernetesLearningEvent_safe ‹_› hb

end Program

section Runs

variable {lib : Apimachinery} {ctrl : ControllerLib}
  {initial : Store fun p : WorkloadNetworkPolicyProposal => p.namespacedName}

/-- **A turn of the worker.** -/
theorem worker_safe {w : World} (hw : Idle lib initial w) :
    Safe (system lib) (Inv lib initial) (Requested lib) (fun _ => Idle lib initial) (worker lib ctrl) w := by
  unfold worker
  refine Safe.ask_bind stable_idle hw (fun w h => ⟨h.1, trivial⟩) ?_
  intro w event w' hw hans
  have hinv := (hw.1.answers (r := .take) trivial hans).2
  obtain ⟨-, before, after, -, rfl⟩ := hans
  refine Safe.bind (reconcile_safe ⟨hinv, rfl⟩) ?_
  rintro failure w ⟨⟨hb, -⟩, hdone⟩
  have hlasting : Lasting lib fun w => failure = none → ∀ u ∈ updates event, Accounted lib w event u := by
    intro w w' hg h hf u hu
    exact (h hf u hu).mono hg
  refine Safe.call (stable_busy hlasting) ⟨hb, hdone⟩ (fun w h => ⟨h.1.1, h.1.2, h.2⟩) ?_
  intro w x w' hw hans
  have hinv := (hw.1.1.answers (r := .done event failure) (x := x) ⟨hw.1.2, hw.2⟩ hans).2
  obtain rfl := hans
  exact Safe.ret stable_idle ⟨hinv, rfl⟩ fun w h => ⟨h.1, h⟩

lemma idle_start (policies : Store WorkloadNetworkPolicy.key) (buffer : Ringbuf.Buffer Observation) :
    Idle lib initial (World.start initial policies buffer) := by
  have hlookup : ∀ {v}, v ∈ initial.values → initial.lookup v.namespacedName = some v := fun hv => Store.mem_values.1 hv
  refine ⟨⟨?_, ?_, fun h => h, ?_, ?_, ?_, ?_, ?_, ?_⟩, rfl⟩
  · intro v hv
    simp only [World.start] at hv ⊢
    rw [hlookup hv]
    exact Nat.le_refl _
  · intro v v' hv hv' hk _
    exact Store.eq_of_key_eq hv hv' hk
  · exact fun hv hrule => .inr (.inr ⟨_, hlookup hv, hrule⟩)
  · rintro event (h | h | h)
    · cases h
    · cases h
    · cases h
  · exact fun hp _ hrule => .inl ⟨_, hp, hrule⟩
  · exact fun hp hrule => .inr (.inr ⟨_, hp, hrule⟩)
  · exact fun h => absurd h List.not_mem_nil
  · exact fun h => absurd h List.not_mem_nil

/-- A state of a run of the learner. -/
def Reachable (lib : Apimachinery) (ctrl : ControllerLib)
    (initial : Store fun p : WorkloadNetworkPolicyProposal => p.namespacedName) (w : World) : Prop :=
  ∃ policies buffer p, (system lib).Runs (worker lib ctrl)
    (World.start initial policies buffer, worker lib ctrl) (w, p)

lemma Reachable.inv {w : World} (h : Reachable lib ctrl initial w) : Inv lib initial w := by
  obtain ⟨policies, buffer, p, hrun⟩ := h
  exact (Safe.reachable (fun _ _ h => worker_safe h) (worker_safe (idle_start policies buffer)) hrun).inv_holds

end Runs

/-! ### Two runs -/

section Sample

variable {lib : Apimachinery} {ctrl : ControllerLib}

/-- A run from here comes to a world with the property. -/
def Leads (lib : Apimachinery) (ctrl : ControllerLib) (w : World) (p : LearnerM Unit) (P : World → Prop) : Prop :=
  ∃ w' p', (system lib).Runs (worker lib ctrl) (w, p) (w', p') ∧ P w'

variable {P : World → Prop} {w w' : World}

lemma Leads.refl {p : LearnerM Unit} (h : P w) : Leads lib ctrl w p P := ⟨w, p, .refl, h⟩

lemma Leads.env {p : LearnerM Unit} (hstep : Others w w') (h : Leads lib ctrl w' p P) : Leads lib ctrl w p P := by
  obtain ⟨c, p', hrun, hc⟩ := h
  exact ⟨c, p', hrun.head (.env hstep), hc⟩

lemma Leads.call {r : Request} {k : r.Resp → LearnerM Unit} (x : r.Resp) (hans : Answers lib r w x w')
    (h : Leads lib ctrl w' (k x) P) : Leads lib ctrl w (.call r k) P := by
  obtain ⟨c, p', hrun, hc⟩ := h
  exact ⟨c, p', hrun.head (.call hans), hc⟩

/-- An event is sent to a new process and reaches the worker. -/
lemma Leads.take {initial : Store fun p : WorkloadNetworkPolicyProposal => p.namespacedName}
    {policies : Store WorkloadNetworkPolicy.key} {buffer : Ringbuf.Buffer Observation} (event : LearningEvent)
    (h : Leads lib ctrl { World.start initial policies buffer with accepted := [event], processing := some event }
      (reconcile lib ctrl event >>= fun failure => ask (.done event failure)) P) :
    Leads lib ctrl (World.start initial policies buffer) (worker lib ctrl) P := by
  refine Leads.env (.send event) (Leads.env (.deliver rfl) ?_)
  exact Leads.call event ⟨rfl, [], [], rfl, rfl⟩ h

lemma Leads.reachable {initial : Store fun p : WorkloadNetworkPolicyProposal => p.namespacedName}
    {policies : Store WorkloadNetworkPolicy.key} {buffer : Ringbuf.Buffer Observation}
    (h : Leads lib ctrl (World.start initial policies buffer) (worker lib ctrl) P) :
    ∃ w, Reachable lib ctrl initial w ∧ P w := by
  obtain ⟨w, p, hrun, hw⟩ := h
  exact ⟨w, ⟨policies, buffer, p, hrun⟩, hw⟩

/-- A connection of `web` to `db`, seen by istio. -/
def istioEvent : LearningEvent where
  source := some { sampleWorkload "web" with identity := "td/ns/shop/sa/web" }
  dest := some (sampleWorkload "db")
  dstPort := 5432
  protocol := "TCP"
  backend := .istio

/-- A connection to the pods of a Deployment. -/
def deploymentEvent (source : WorkloadRef) (dest : NamespacedName) (selector : LabelSelector) (dstPort : Int) :
    LearningEvent where
  source := some source
  dest := some { ns := dest.ns, ownerKind := workloadKindDeployment, ownerName := dest.name, selector := selector }
  dstPort := dstPort
  protocol := "TCP"
  backend := .istio

def smallBuffer : Ringbuf.Buffer Observation :=
  ⟨1, fun _ => { provider := .kubernetes, direction := .egress }, 0, by decide⟩

/-- The one event was learned, and the worker is at rest. -/
def RestsAfter (event : LearningEvent) (w : World) : Prop :=
  w.accepted = [event] ∧ w.channel = [] ∧ w.pending = [] ∧ w.processing = none ∧ w.deleted = [] ∧
    w.rewritten = [] ∧ w.policyVersions = [] ∧ w.policies = .ofList [] ∧ w.shown = []

/-- A connection to a Deployment, as istio sees it, is learned. -/
lemma exists_learned_run (source : WorkloadRef) (dest : NamespacedName) (selector : LabelSelector) (dstPort : Int) :
    ∃ w, Reachable .documented (.direct 0) (.ofList []) w ∧
      RestsAfter (deploymentEvent source dest selector dstPort) w := by
  have hstart : Leads .documented (.direct 0) (World.start (.ofList []) (.ofList []) smallBuffer)
      (worker .documented (.direct 0)) (RestsAfter (deploymentEvent source dest selector dstPort)) := by
    refine Leads.take (deploymentEvent source dest selector dstPort) ?_
    refine Leads.call (.ok []) ⟨rfl, ?_⟩ ?_
    · intro policies h policy hpolicy
      obtain rfl := Except.ok.inj h
      cases hpolicy
    refine Leads.call (.error (.notFound "not found")) ⟨rfl, fun p h => by cases h⟩ ?_
    refine Leads.call (.ok _) (.inr ⟨rfl, rfl, fun stored h => (Except.ok.inj h).symm⟩) ?_
    refine Leads.call (.ok {}) rfl ?_
    refine Leads.call () rfl ?_
    exact Leads.refl ⟨rfl, rfl, rfl, rfl, rfl, rfl, rfl, rfl, rfl⟩
  exact hstart.reachable

/-- The event was learned, and the worker is at rest. -/
def LearnedAtRest (w : World) : Prop := RestsAfter istioEvent w

lemma learned_run : ∃ w, Reachable .documented (.direct 0) (.ofList []) w ∧ LearnedAtRest w :=
  exists_learned_run { sampleWorkload "web" with identity := "td/ns/shop/sa/web" } ⟨"shop", "db"⟩
    (sampleWorkload "db").selector 5432

/-- The same connection, seen on the network. -/
def flowEvent : LearningEvent where
  source := some (sampleWorkload "web")
  dest := some (sampleWorkload "db")
  dstPort := 5432
  protocol := "TCP"
  backend := .kubernetes

/-- A policy without rules, promoted from the egress proposal of `web`. -/
def monitorPolicy : WorkloadNetworkPolicy where
  ns := "shop"
  name := "web-egress"
  labels := AList.singleton policyPromotedFromLabelKey "deployment-web-egress"
  spec := { mode := .monitor, backend := .kubernetes
            kubernetes := some { podSelector := (sampleWorkload "web").selector, policyTypes := [.egress] }
            targetRef := ⟨workloadKindDeployment, "web"⟩, direction := .egress }

/-- The monitor reports the flow; then a list fails, and the event goes back into the queue. -/
lemma reported_run : ∃ w, Reachable .documented (.direct 0) (.ofList []) w ∧ w.accepted = [flowEvent] ∧
    w.monitor.emitted = [generateViolationObservation "web-egress" (sampleWorkload "web") (sampleWorkload "db") "TCP"
      .egress 5432 7] := by
  have hstart : Leads .documented (.direct 0) (World.start (.ofList []) (.ofList [monitorPolicy]) smallBuffer)
      (worker .documented (.direct 0)) fun w => w.accepted = [flowEvent] ∧
        w.monitor.emitted = [generateViolationObservation "web-egress" (sampleWorkload "web") (sampleWorkload "db")
          "TCP" .egress 5432 7] := by
    refine Leads.take flowEvent ?_
    refine Leads.call (.ok [monitorPolicy]) ⟨rfl, ?_⟩ ?_
    · intro policies h policy hpolicy
      obtain rfl := Except.ok.inj h
      obtain rfl := List.mem_singleton.1 hpolicy
      exact ⟨List.mem_singleton_self _, by decide⟩
    refine Leads.call none ⟨7, rfl, rfl⟩ ?_
    refine Leads.call (.error (.other "timeout")) ⟨rfl, fun policies h => by cases h⟩ ?_
    refine Leads.call () rfl ?_
    exact Leads.refl ⟨rfl, rfl⟩
  exact hstart.reachable

end Sample

/-! ## Results -/

section Results

variable {lib : Apimachinery} {ctrl : ControllerLib}
  {initial : Store fun p : WorkloadNetworkPolicyProposal => p.namespacedName} {w : World}

/-- **No accepted event is lost.**  With reads from an old cache, failing calls, writes that were made although
an error came back, and others at work on the same objects: an event that was accepted is still under way, or each
rule it asks for is in the stored proposal, or the worker was shown a policy promoted from that proposal and left the
flow to it, or somebody else has deleted or rewritten the proposal. -/
theorem accepted_accounted (h : Reachable lib ctrl initial w) {event : LearningEvent} (he : event ∈ w.accepted) :
    event ∈ w.channel ∨ event ∈ w.pending ∨ w.processing = some event ∨
      ∀ u ∈ updates event, Accounted lib w event u :=
  h.inv.accounted he

/-- The event of the first run is not under way any more and was not left to a policy: its rule was learned. -/
theorem accepted_accounted_sample : ∃ w, Reachable .documented (.direct 0) (.ofList []) w ∧
    istioEvent ∈ w.accepted ∧ ∃ p, w.proposals.lookup ⟨"shop", "deployment-db-ingress"⟩ = some p ∧
      Contains .documented p.spec.toPolicyBackendSpec (.istio "td/ns/shop/sa/web" "5432") := by
  obtain ⟨w, hw, haccepted, hchannel, hpending, hprocessing, hdeleted, hrewritten, -, -, hshown⟩ := learned_run
  have hmem : istioEvent ∈ w.accepted := by
    rw [haccepted]
    exact List.mem_singleton_self _
  have h := accepted_accounted hw hmem
  rw [hchannel, hpending, hprocessing] at h
  simp only [List.not_mem_nil, false_or, reduceCtorEq] at h
  refine ⟨w, hw, hmem, ?_⟩
  rcases h _ (List.mem_singleton_self _) with (h | h | h) | ⟨policy, hleft⟩
  · rw [hdeleted] at h
    cases h
  · rw [hrewritten] at h
    cases h
  · exact h
  · have hshow := hleft.shown
    rw [hshown] at hshow
    cases hshow

/-- The worker is at rest, and the proposal is the learner's alone: no policy was promoted from it, and nobody else has
deleted or rewritten it. -/
structure AtRest (w : World) (key : NamespacedName) : Prop where
  channel : w.channel = []
  pending : w.pending = []
  processing : w.processing = none
  deleted : key ∉ w.deleted
  rewritten : key ∉ w.rewritten
  unpromoted : ∀ policy ∈ w.policyVersions, promotedFrom key.ns key.name policy = false

/-- In the sample runs nobody else has touched a proposal. -/
lemma RestsAfter.atRest {event : LearningEvent} (h : RestsAfter event w) (key : NamespacedName) : AtRest w key := by
  obtain ⟨-, hchannel, hpending, hprocessing, hdeleted, hrewritten, hpolicies, -⟩ := h
  refine ⟨hchannel, hpending, hprocessing, ?_, ?_, ?_⟩
  · rw [hdeleted]
    exact List.not_mem_nil
  · rw [hrewritten]
    exact List.not_mem_nil
  · rw [hpolicies]
    exact fun _ h => absurd h List.not_mem_nil

lemma AtRest.contains_of_kept {key : NamespacedName} (hrest : AtRest w key) {rule : LearnedRule}
    (h : Kept lib w key rule) : ∃ p, w.proposals.lookup key = some p ∧ Contains lib p.spec.toPolicyBackendSpec rule :=
  (h.resolve_left hrest.deleted).resolve_left hrest.rewritten

/-- At rest the rules of the accepted events are there. -/
lemma Inv.contains_of_accepted (h : Inv lib initial w) {key : NamespacedName} (hrest : AtRest w key)
    {event : LearningEvent} (he : event ∈ w.accepted) {u : LearnerUpdate} (hu : u ∈ updates event)
    (hkey : proposalOf u = key) :
    ∃ p, w.proposals.lookup key = some p ∧ Contains lib p.spec.toPolicyBackendSpec u.rule := by
  rcases h.accounted he with hin | hin | hin | haccounted
  · rw [hrest.channel] at hin
    cases hin
  · rw [hrest.pending] at hin
    cases hin
  · rw [hrest.processing] at hin
    cases hin
  · rcases haccounted u hu with hk | ⟨policy, hleft⟩
    · rw [hkey] at hk
      exact hrest.contains_of_kept hk
    · have hfrom := hleft.promoted
      rw [hkey, hrest.unpromoted policy hleft.version] at hfrom
      cases hfrom

/-- **At rest the rules of a proposal are those of the accepted events**, and those it had at the start; as long
as no policy was promoted from it and nobody else has deleted or rewritten it. -/
theorem learned_iff_accepted (h : Reachable lib ctrl initial w) (hchannel : w.channel = []) (hpending : w.pending = [])
    (hprocessing : w.processing = none) {key : NamespacedName} (hdeleted : key ∉ w.deleted)
    (hrewritten : key ∉ w.rewritten)
    (hpolicies : ∀ policy ∈ w.policyVersions, promotedFrom key.ns key.name policy = false) (rule : LearnedRule) :
    (∃ p, w.proposals.lookup key = some p ∧ Contains lib p.spec.toPolicyBackendSpec rule) ↔
      (∃ p, initial.lookup key = some p ∧ Contains lib p.spec.toPolicyBackendSpec rule) ∨
        ∃ event ∈ w.accepted, ∃ u ∈ updates event, proposalOf u = key ∧ SameLearnedRule lib u.rule rule := by
  have hrest : AtRest w key := ⟨hchannel, hpending, hprocessing, hdeleted, hrewritten, hpolicies⟩
  constructor
  · rintro ⟨p, hp, hrule⟩
    exact h.inv.origin hp hrewritten hrule
  · rintro (⟨p, hp, hrule⟩ | ⟨event, he, u, hu, hkey, hsame⟩)
    · exact hrest.contains_of_kept (h.inv.initial hp hrule)
    · obtain ⟨p, hp, hrule⟩ := h.inv.contains_of_accepted hrest he hu hkey
      exact ⟨p, hp, hrule.congr hsame⟩

/-- The proposal of `db` has the rule of the event. -/
theorem learned_iff_accepted_sample : ∃ w, Reachable .documented (.direct 0) (.ofList []) w ∧
    ∃ p, w.proposals.lookup ⟨"shop", "deployment-db-ingress"⟩ = some p ∧
      Contains .documented p.spec.toPolicyBackendSpec (.istio "td/ns/shop/sa/web" "5432") := by
  obtain ⟨w, hw, hrested⟩ := learned_run
  have hrest := RestsAfter.atRest hrested ⟨"shop", "deployment-db-ingress"⟩
  refine ⟨w, hw, (learned_iff_accepted hw hrest.channel hrest.pending hrest.processing hrest.deleted hrest.rewritten
    hrest.unpromoted _).2 (.inr ⟨istioEvent, ?_, ?_⟩)⟩
  · rw [hrested.1]
    exact List.mem_singleton_self _
  · exact ⟨_, List.mem_singleton_self _, by decide, rfl, by decide⟩

/-- **Every reported violation is justified**: it is that of an accepted event, on a policy in monitor mode that
was promoted from the proposal of its workload and does not have its rule. -/
theorem emitted_justified (h : Reachable lib ctrl initial w) {obs : Observation} (hobs : obs ∈ w.monitor.emitted) :
    Justified lib w obs :=
  h.inv.justified hobs

/-- The violation of the second run. -/
theorem emitted_justified_sample : ∃ w, Reachable .documented (.direct 0) (.ofList []) w ∧
    Justified .documented w (generateViolationObservation "web-egress" (sampleWorkload "web") (sampleWorkload "db") "TCP"
      .egress 5432 7) := by
  obtain ⟨w, hw, -, hemitted⟩ := reported_run
  refine ⟨w, hw, emitted_justified hw ?_⟩
  rw [hemitted]
  exact List.mem_singleton_self _

end Results

end NetworkEnforcer.Learner
