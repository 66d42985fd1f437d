import NetworkEnforcer.Reconcile.Outcome
import NetworkEnforcer.Reconcile.Queue

/-!
# What the worker writes

A part of a call writes the status of its policy or the object of its policy, and nothing else (`advance_written`).
What it stores as an object carries a controller reference to the policy (`advance_signed`).  So references that
tell the truth stay truthful under the writes of the worker (`Truthful.advance`): of the others that has to be
assumed, of the controller it follows.
-/

namespace NetworkEnforcer.Reconcile

open NetworkEnforcer.Lib NetworkEnforcer.Api NetworkEnforcer.Workload

/-! ## Where the worker writes -/

/-- What a status patch keeps of a policy. -/
def keptByPatch (w : WorkloadNetworkPolicy) : String × Int × Time × WorkloadNetworkPolicySpec :=
  (w.uid, w.generation, w.creationTimestamp, w.spec)

/-- Only objects under the key were written, and of the policy only its status. -/
structure Written (key : NamespacedName) (cl cl' : Cluster) : Prop where
  wnps {k : NamespacedName} : k ≠ key → cl'.wnps.lookup k = cl.wnps.lookup k
  kept : (cl'.wnps.lookup key).map keptByPatch = (cl.wnps.lookup key).map keptByPatch
  networkPolicies {k : NamespacedName} : k ≠ key → cl'.networkPolicies.lookup k = cl.networkPolicies.lookup k
  authorizationPolicies {k : NamespacedName} :
    k ≠ key → cl'.authorizationPolicies.lookup k = cl.authorizationPolicies.lookup k
  rest : cl' = { cl with wnps := cl'.wnps, networkPolicies := cl'.networkPolicies
                         authorizationPolicies := cl'.authorizationPolicies }

lemma Written.refl (key : NamespacedName) (cl : Cluster) : Written key cl cl :=
  ⟨fun _ => rfl, rfl, fun _ => rfl, fun _ => rfl, rfl⟩

lemma Written.sameBy {cl cl' : Cluster} {key : NamespacedName} (h : Written key cl cl') :
    Store.SameBy keptByPatch cl.wnps cl'.wnps := by
  intro k
  by_cases hk : k = key
  · rw [hk, h.kept]
  · rw [h.wnps hk]

lemma renderPolicy_written {cl : Cluster} (env : Env cl) (wnp : WorkloadNetworkPolicy) :
    Written wnp.key cl (renderPolicy env wnp).2 := by
  unfold renderPolicy
  split
  · rcases reconcileK8sPolicy_cases env wnp with ⟨e, he⟩ | ⟨-, -, he⟩ | ⟨honly, -⟩
    · rw [he]; exact .refl _ _
    · rw [he]; exact .refl _ _
    · exact ⟨fun _ => rfl, rfl, honly.others, fun _ => rfl, rfl⟩
  · rcases reconcileIstioPolicy_cases env wnp with ⟨e, he⟩ | ⟨honly, -⟩
    · rw [he]; exact .refl _ _
    · exact ⟨fun _ => rfl, rfl, fun _ => rfl, honly.others, rfl⟩

lemma updateReadyCondition_written {cl : Cluster} {env : Env cl} (hkeeps : env.KeepsConditions)
    (wnp : WorkloadNetworkPolicy) (c : Condition) (w : World) :
    Written wnp.key w.toCluster (updateReadyCondition env wnp c w).2.toCluster := by
  unfold updateReadyCondition
  simp only
  split
  · exact .refl _ _
  · rename_i conditions _
    have hframe : ∀ {k}, k ≠ wnp.key → (env.status.patch w.wnps wnp { wnp with status := { wnp.status with
        conditions := conditions } }).2.lookup k = w.wnps.lookup k := fun hk => hkeeps.patch_frame hk
    have hkept : ((env.status.patch w.wnps wnp { wnp with status := { wnp.status with
        conditions := conditions } }).2.lookup wnp.key).map keptByPatch = (w.wnps.lookup wnp.key).map keptByPatch :=
      hkeeps.patch_keeps
    split
    · rename_i hpatch
      rw [hpatch] at hframe hkept
      exact ⟨hframe, hkept, fun _ => rfl, fun _ => rfl, rfl⟩
    · rename_i hpatch
      rw [hpatch] at hframe hkept
      exact ⟨hframe, hkept, fun _ => rfl, fun _ => rfl, rfl⟩

/-- The policy that a job works on, once it is read. -/
def Job.policy : Job → Option WorkloadNetworkPolicy
  | .start _ => none
  | .fetched wnp | .elected wnp _ | .checked wnp _ _ | .decided wnp _ _ => some wnp

/-- A part of a call writes nothing, or the object of the policy it has read, or the condition. -/
lemma advance_cases {w w' : World} {env : Env w.toCluster} {job : Job} {progress : Progress}
    (h : advance w env job = (w', progress)) :
    w' = w ∨ ∃ wnp, job.policy = some wnp ∧ job.key = wnp.key ∧
      (w' = { w with toCluster := (renderPolicy env wnp).2 } ∨
        ∃ condition, w' = (updateReadyCondition env wnp condition w).2) := by
  have hw' : w' = (advance w env job).1 := by rw [h]
  subst hw'
  cases job with
  | start req =>
    simp only [advance]
    split <;> exact .inl rfl
  | fetched wnp =>
    simp only [advance]
    split
    · exact .inl rfl
    · split <;> exact .inl rfl
    · exact .inl rfl
  | elected wnp conflict =>
    simp only [advance]
    split <;> exact .inl rfl
  | checked wnp conflict condition =>
    simp only [advance]
    split
    · split <;> exact .inl rfl
    · refine .inr ⟨wnp, rfl, rfl, .inl ?_⟩
      split <;> simp only [*]
  | decided wnp condition err => exact .inr ⟨wnp, rfl, rfl, .inr ⟨condition, rfl⟩⟩

lemma advance_written {w w' : World} {env : Env w.toCluster} (hkeeps : env.KeepsConditions) {job : Job}
    {progress : Progress} (h : advance w env job = (w', progress)) :
    Written job.key w.toCluster w'.toCluster := by
  rcases advance_cases h with rfl | ⟨wnp, -, hkey, rfl | ⟨condition, rfl⟩⟩
  · exact .refl _ _
  · rw [hkey]
    exact renderPolicy_written env wnp
  · rw [hkey]
    exact updateReadyCondition_written hkeeps wnp condition w

/-! ## What the worker signs -/

/-- The object of the policy was left alone, or what is there now refers to the policy. -/
def SignedIn {V : Type} {key : V → NamespacedName} (refs : V → List OwnerReference) (wnp : WorkloadNetworkPolicy)
    (s s' : Store key) : Prop :=
  s'.lookup wnp.key = s.lookup wnp.key ∨ ∀ o, s'.lookup wnp.key = some o → NamesOwner wnp.toObjectMeta (refs o)

/-- What was written under the key of the policy refers to the policy. -/
structure Signed (wnp : WorkloadNetworkPolicy) (cl cl' : Cluster) : Prop where
  networkPolicies : SignedIn (·.ownerReferences) wnp cl.networkPolicies cl'.networkPolicies
  authorizationPolicies : SignedIn (·.ownerReferences) wnp cl.authorizationPolicies cl'.authorizationPolicies

lemma Signed.refl (wnp : WorkloadNetworkPolicy) (cl : Cluster) : Signed wnp cl cl := ⟨.inl rfl, .inl rfl⟩

section Whole

variable {V C : Type} {key : V → NamespacedName} {content : V → C} {writer : ObjectWriter key content}
  {refs : V → List OwnerReference} {wnp : WorkloadNetworkPolicy} {s : Store key}

lemma ObjectWriter.Whole.delete_signed (h : writer.Whole) : SignedIn refs wnp s (writer.delete s wnp.key).2 := by
  rcases h.delete s wnp.key with hsame | hnone
  · exact .inl hsame
  · refine .inr fun o ho => ?_
    rw [hnone] at ho
    cases ho

/-- What is stored has the references of the mutation. -/
lemma ObjectWriter.Whole.createOrUpdate_signed (h : writer.Whole) {obj : V} {mutate : V → Except Err V}
    {context : String} (hk : key obj = wnp.key)
    (hmutate : ∀ old new stored, mutate old = .ok new → content stored = content new →
      NamesOwner wnp.toObjectMeta (refs stored)) :
    SignedIn refs wnp s (wrapped context (writer.createOrUpdate s obj mutate)).2 := by
  rcases h.createOrUpdate s obj mutate with hsame | ⟨new, stored, hnew, hstored, hcontent⟩
  · rw [hk] at hsame
    exact .inl hsame
  · rw [hk] at hstored
    refine .inr fun o ho => ?_
    obtain rfl := Option.some.inj (hstored.symm.trans ho)
    exact hmutate _ new stored hnew hcontent

end Whole

section Render

variable {cl : Cluster} {env : Env cl} (hnames : env.NamesOwners) (wnp : WorkloadNetworkPolicy)
include hnames

lemma reconcileProtect_signed {np : NetworkPolicy} (hk : np.key = wnp.key) :
    SignedIn (·.ownerReferences) wnp cl.networkPolicies (reconcileProtect env wnp np).2 := by
  unfold reconcileProtect
  split
  · exact .inl rfl
  · refine hnames.networkPolicies.createOrUpdate_signed hk fun old new stored hmut hcontent => ?_
    unfold mutateNetworkPolicy at hmut
    split at hmut
    · cases hmut
    · rename_i refs hrefs
      obtain rfl := Except.ok.inj hmut
      simp only [networkPolicyContent, metaContent, Prod.mk.injEq] at hcontent
      rw [hcontent.2.2.2]
      exact hnames.setControllerReference hrefs

lemma reconcileK8sPolicy_signed :
    SignedIn (·.ownerReferences) wnp cl.networkPolicies (reconcileK8sPolicy env wnp).2 := by
  unfold reconcileK8sPolicy
  split
  · split
    · exact .inl rfl
    · split
      · exact .inl rfl
      · exact reconcileProtect_signed hnames wnp rfl
  · rename_i np hget
    have hkey : np.key = wnp.key := Store.key_of_lookup ((env.reads .render).getNetworkPolicy_gets.ok hget)
    split
    · exact .inl rfl
    · split
      · rw [hkey]
        exact hnames.networkPolicies.delete_signed
      · exact reconcileProtect_signed hnames wnp hkey

lemma renderAuthorizationPolicy_signed {ap : AuthorizationPolicy} (hk : ap.key = wnp.key) :
    SignedIn (·.ownerReferences) wnp cl.authorizationPolicies (renderAuthorizationPolicy env wnp ap).2 := by
  unfold renderAuthorizationPolicy
  split
  · exact .inl rfl
  · refine hnames.authorizationPolicies.createOrUpdate_signed hk fun old new stored hmut hcontent => ?_
    unfold mutateAuthorizationPolicy at hmut
    simp only at hmut
    split at hmut
    · cases hmut
    · rename_i refs hrefs
      obtain rfl := Except.ok.inj hmut
      simp only [authorizationPolicyContent, metaContent, Prod.mk.injEq] at hcontent
      rw [hcontent.2.2.2]
      exact hnames.setControllerReference hrefs

lemma reconcileIstioPolicy_signed :
    SignedIn (·.ownerReferences) wnp cl.authorizationPolicies (reconcileIstioPolicy env wnp).2 := by
  unfold reconcileIstioPolicy
  split
  · split
    · exact .inl rfl
    · exact renderAuthorizationPolicy_signed hnames wnp rfl
  · rename_i ap hget
    have hkey : ap.key = wnp.key := Store.key_of_lookup ((env.reads .render).getAuthorizationPolicy_gets.ok hget)
    split
    · exact .inl rfl
    · exact renderAuthorizationPolicy_signed hnames wnp hkey

lemma renderPolicy_signed : Signed wnp cl (renderPolicy env wnp).2 := by
  unfold renderPolicy
  split
  · exact ⟨reconcileK8sPolicy_signed hnames wnp, .inl rfl⟩
  · exact ⟨.inl rfl, reconcileIstioPolicy_signed hnames wnp⟩

end Render

section Advance

variable {w w' : World} {env : Env w.toCluster} {job : Job} {progress : Progress}

/-- Before a policy is read nothing is written, and after that what is written refers to it. -/
lemma advance_signed (hnames : env.NamesOwners) (h : advance w env job = (w', progress)) :
    w' = w ∨ ∃ wnp, job.policy = some wnp ∧ job.key = wnp.key ∧ Signed wnp w.toCluster w'.toCluster := by
  rcases advance_cases h with hsame | ⟨wnp, hpolicy, hkey, rfl | ⟨condition, rfl⟩⟩
  · exact .inl hsame
  · exact .inr ⟨wnp, hpolicy, hkey, renderPolicy_signed hnames wnp⟩
  · obtain ⟨hnp, hap⟩ := updateReadyCondition_frame env wnp condition w
    refine .inr ⟨wnp, hpolicy, hkey, .inl ?_, .inl ?_⟩
    · exact congrArg (Store.lookup · wnp.key) hnp
    · exact congrArg (Store.lookup · wnp.key) hap

/-- A job goes on with the policy it has read. -/
lemma advance_policy {job' : Job} (h : advance w env job = (w', .next job')) {wnp : WorkloadNetworkPolicy}
    (hwnp : job'.policy = some wnp) : job.policy = some wnp ∨ wnp ∈ w.wnps.values := by
  have hafter : ∀ {v conflict condition err}, afterPolicy v conflict condition err = .next job' → v = wnp := by
    intro v conflict condition err h
    unfold afterPolicy at h
    split at h
    · cases h
    · cases h
      exact Option.some.inj hwnp
  cases job with
  | start req =>
    simp only [advance] at h
    split at h <;> cases h
    rename_i v hget
    obtain rfl := Option.some.inj hwnp
    exact .inr (Store.mem_of_lookup ((env.reads .fetch).getWNP_gets.ok hget))
  | fetched v =>
    simp only [advance] at h
    split at h
    · cases h
    · split at h <;> cases h <;> exact .inl hwnp
    · cases h
      exact .inl hwnp
  | elected v conflict =>
    simp only [advance] at h
    split at h
    · exact .inl (congrArg some (hafter (Prod.mk.inj h).2))
    · cases h
      exact .inl hwnp
  | checked v conflict condition =>
    refine .inl (congrArg some ?_)
    simp only [advance] at h
    split at h
    · split at h <;> exact hafter (Prod.mk.inj h).2
    · split at h <;> exact hafter (Prod.mk.inj h).2
  | decided v condition err => cases h

end Advance

/-! ## References stay truthful -/

section Truthful

variable {policyOf : String → Option NamespacedName} {cl cl' : Cluster} {wnp : WorkloadNetworkPolicy}

/-- A reference to the policy, on an object in its namespace, leads to its request. -/
lemma NamesOwner.requested {obj : ObjectMeta} (h : NamesOwner wnp.toObjectMeta obj.ownerReferences)
    (hns : obj.ns = wnp.ns) : ownerRequests obj = [wnp.key] := by
  obtain ⟨ref, href, hversion, hkind, hname, -⟩ := h
  simp only [ownerRequests, href, hkind, hversion, decide_true, Bool.and_self, if_true, hns, hname]
  rfl

/-- Objects of one kind stay truthful: the old ones are, and a new one refers to the policy. -/
lemma SignedIn.truthful {V : Type} {key : V → NamespacedName} {s s' : Store key} {f : V → ObjectMeta}
    (h : SignedIn (fun o => (f o).ownerReferences) wnp s s') (hkey : ∀ o, key o = ⟨(f o).ns, (f o).name⟩)
    (hframe : ∀ {k}, k ≠ wnp.key → s'.lookup k = s.lookup k) (huid : policyOf wnp.uid = some wnp.key)
    (ht : ∀ {o ref k}, o ∈ s.values → getControllerOf (f o).ownerReferences = some ref →
      policyOf ref.uid = some k → k ∈ ownerRequests (f o))
    {o : V} {ref : OwnerReference} {k : NamespacedName} (ho : o ∈ s'.values)
    (href : getControllerOf (f o).ownerReferences = some ref) (hk : policyOf ref.uid = some k) :
    k ∈ ownerRequests (f o) := by
  have hlookup : s'.lookup (key o) = some o := Store.mem_values.1 ho
  have hold : s'.lookup (key o) = s.lookup (key o) → k ∈ ownerRequests (f o) := by
    intro hsame
    rw [hsame] at hlookup
    exact ht (Store.mem_of_lookup hlookup) href hk
  by_cases hown : key o = wnp.key
  · rcases h with hsame | hnames
    · exact hold (hown ▸ hsame)
    · have hmine : NamesOwner wnp.toObjectMeta (f o).ownerReferences := hnames o (hown ▸ hlookup)
      have hns : (f o).ns = wnp.ns := congrArg NamespacedName.ns ((hkey o).symm.trans hown)
      obtain ⟨ref', href', -, -, -, huid'⟩ := id hmine
      obtain rfl := Option.some.inj (href'.symm.trans href)
      obtain rfl : wnp.key = k := by
        rw [huid'] at hk
        exact Option.some.inj (huid.symm.trans hk)
      rw [hmine.requested hns]
      exact List.mem_singleton_self _
  · exact hold (hframe hown)

lemma Truthful.of_signed (ht : Truthful policyOf cl) (hwritten : Written wnp.key cl cl') (hs : Signed wnp cl cl')
    (huid : policyOf wnp.uid = some wnp.key) : Truthful policyOf cl' where
  policies {v} hv := by
    obtain ⟨v', hv', hkey, hkept⟩ := hwritten.sameBy.symm.exists_like hv
    simp only [keptByPatch, Prod.mk.injEq] at hkept
    rw [← hkept.1, ← hkey]
    exact ht.policies hv'
  networkPolicies := hs.networkPolicies.truthful (fun _ => rfl) hwritten.networkPolicies huid ht.networkPolicies
  authorizationPolicies :=
    hs.authorizationPolicies.truthful (fun _ => rfl) hwritten.authorizationPolicies huid ht.authorizationPolicies

/-- The UID of the policy a job has read belongs to the policy; the policy itself may be gone. -/
def Job.Truthful (policyOf : String → Option NamespacedName) (job : Job) : Prop :=
  ∀ wnp, job.policy = some wnp → policyOf wnp.uid = some wnp.key

variable {w w' : World} {env : Env w.toCluster} {job : Job} {progress : Progress}

/-- **The worker keeps references truthful.** -/
theorem Truthful.advance (ht : Truthful policyOf w.toCluster) (hjob : job.Truthful policyOf)
    (hkeeps : env.KeepsConditions) (hnames : env.NamesOwners) (h : advance w env job = (w', progress)) :
    Truthful policyOf w'.toCluster := by
  rcases advance_signed hnames h with rfl | ⟨wnp, hpolicy, hkey, hs⟩
  · exact ht
  · have hwritten := advance_written hkeeps h
    rw [hkey] at hwritten
    exact ht.of_signed hwritten hs (hjob wnp hpolicy)

lemma Job.Truthful.advance (hjob : job.Truthful policyOf) (ht : Reconcile.Truthful policyOf w.toCluster)
    {job' : Job} (h : advance w env job = (w', .next job')) : job'.Truthful policyOf := by
  intro wnp hwnp
  rcases advance_policy h hwnp with hsame | hread
  · exact hjob wnp hsame
  · exact ht.policies hread

end Truthful

end NetworkEnforcer.Reconcile
