import NetworkEnforcer.Attribution.Attribute
import NetworkEnforcer.Workload.Extract

/-!
# Parsed flows and their resolution (`internal/scraper/flow_parser_helpers.go`)

A scraper parses each flow into a `FlowResult` and then resolves the workloads in it, with a resolver of its
own.  A nil pointer that is dereferenced ends in `Panic`.

What a sound resolver makes of a parsed flow is `Recordable`: a violation has a subject that the controller
accepts, a learning event has two workloads (`resolveParsedFlow_recordable`).
-/

namespace NetworkEnforcer.Scraper

open NetworkEnforcer.Lib NetworkEnforcer.Api NetworkEnforcer.Workload
open NetworkEnforcer.Attribution (violationSubject)

/-! ## Results -/

inductive Panic where
  | nilDereference
  deriving DecidableEq, Repr

/-- `*p`. -/
def deref {α : Type} : Option α → Except Panic α
  | some a => .ok a
  | none => .error .nilDereference

/-- `processFlowResult`, by its outcome. -/
inductive FlowResult where
  | skip
  | enqueue (event : LearningEvent)
  | violation (observation : Observation)
  | error (err : Err)
  deriving DecidableEq

/-! ## Ports -/

def minValidPort : Int := 1
def maxValidPort : Int := 65535

def protocolTCP : String := "TCP"
def protocolUDP : String := "UDP"

/-- The errors of the functions that extract a port; only `errUnsupportedProtocol` is told apart. -/
inductive PortError where
  | unsupportedProtocol (detail : String)
  | failed (err : Err)
  deriving DecidableEq, Repr

/-- `portToInt32`; port 0 stands for an unknown port. -/
def portToInt32 (port : Int) : Except PortError Int :=
  if port < 0 ∨ port > maxValidPort then
    .error (.failed (.wrap "port is out of range" (.other (formatInt port))))
  else .ok port

/-- `parsePort`; its caller does not tell the errors apart. -/
def parsePort (port : String) : Option Int :=
  match parseInt 32 port with
  | none => none
  | some parsed =>
    if parsed < minValidPort ∨ parsed > maxValidPort then none else (portToInt32 parsed).toOption

/-- A port that was read is in range, whichever protocol it comes with. -/
lemma portToInt32_map_ok {raw port : Int} {name proto : String}
    (h : (portToInt32 raw).map (·, name) = .ok (port, proto)) : 0 ≤ port ∧ port ≤ maxValidPort := by
  unfold portToInt32 at h
  split at h
  · cases h
  · rename_i hrange
    cases h
    omega

/-! ## Resolution -/

/-- The errors of a resolver; `errSkipWorkload` is told apart. -/
inductive ResolveError where
  | skipWorkload
  | failed (err : Err)
  deriving DecidableEq, Repr

/-- A resolver gives the reference as it is after the call; one that fails leaves it alone. -/
abbrev Resolver : Type := WorkloadRef → Except ResolveError WorkloadRef

def resolveOutcome (role : String) : ResolveError → FlowResult
  | .skipWorkload => .skip
  | .failed err => .error (.wrap ("cannot resolve " ++ role ++ " workload") err)

/-- `resolveViolationDenyingPolicy`: filled in if the provider reported none and one can be found. -/
def resolveViolationDenyingPolicy (c : TargetReader) (observation : Observation) : Observation :=
  if observation.denyingPolicyName ≠ "" then observation
  else
    let ref := if observation.direction = .ingress then observation.dest else observation.source
    match resolveDenyingPolicy c ref observation.direction with
    | .error _ => observation
    | .ok policy =>
      { observation with denyingPolicyName := policy.name, denyingPolicyNamespace := policy.ns }

/-- The reference after a call whose error is ignored. -/
def resolveBestEffort (resolve : Resolver) (ref : WorkloadRef) : WorkloadRef :=
  match resolve ref with
  | .error _ => ref
  | .ok ref => ref

/-- The two cases of `resolveParsedFlow` that resolve. -/
def resolveEvent (resolve : Resolver) (event : LearningEvent) : Except Panic FlowResult := do
  let source ← deref event.source
  match resolve source with
  | .error err => return resolveOutcome "source" err
  | .ok source =>
    let dest ← deref event.dest
    match resolve dest with
    | .error err => return resolveOutcome "destination" err
    | .ok dest => return .enqueue { event with source := some source, dest := some dest }

@[inherit_doc resolveEvent]
def resolveViolation (resolve : Resolver) (c : TargetReader) (observation : Observation) : FlowResult :=
  -- the subject must resolve, the peer keeps its raw value if it does not
  if observation.direction = .ingress then
    match resolve observation.dest with
    | .error err => resolveOutcome "destination" err
    | .ok dest =>
      .violation (resolveViolationDenyingPolicy c
        { observation with dest := dest, source := resolveBestEffort resolve observation.source })
  else
    match resolve observation.source with
    | .error err => resolveOutcome "source" err
    | .ok source =>
      .violation (resolveViolationDenyingPolicy c
        { observation with source := source, dest := resolveBestEffort resolve observation.dest })

def resolveParsedFlow (resolve : Resolver) (c : TargetReader) (parsed : FlowResult) : Except Panic FlowResult :=
  match parsed with
  | .enqueue event => resolveEvent resolve event
  | .violation observation => .ok (resolveViolation resolve c observation)
  | .error err => .ok (.error err)
  | .skip => .ok .skip

def completeSelector (lib : Apimachinery) (c : WorkloadClient) (ref : WorkloadRef) :
    Except ResolveError WorkloadRef :=
  match lookupPodSelectorForWorkload lib c ref with
  | .error err =>
    .error (.failed (.wrap ("failed to lookup pod selector for workload \"" ++ ref.ownerName ++ "\"") err))
  | .ok ref => .ok ref

/-! ## What is recorded -/

/-- What a parser must deliver for resolution not to dereference nil. -/
def Pointed : FlowResult → Prop
  | .enqueue event => event.source.isSome = true ∧ event.dest.isSome = true
  | _ => True

/-- A violation has a direction, and a port in range. -/
def Directed : FlowResult → Prop
  | .violation observation =>
    observation.direction ≠ .unset ∧ 0 ≤ observation.dstPort ∧ observation.dstPort ≤ maxValidPort
  | _ => True

/-- What may be recorded or enqueued. -/
def Recordable (lib : Apimachinery) : FlowResult → Prop
  | .violation observation =>
    (∃ subject, violationSubject observation = some subject ∧ Resolved lib subject) ∧
      0 ≤ observation.dstPort ∧ observation.dstPort ≤ 65535
  | .enqueue event =>
    ∃ source dest, event.source = some source ∧ event.dest = some dest ∧ Resolved lib source ∧
      Resolved lib dest
  | .skip | .error _ => True

/-- The resolver succeeds on workloads that are fully known only. -/
def Sound (lib : Apimachinery) (resolve : Resolver) : Prop :=
  ∀ {ref ref' : WorkloadRef}, resolve ref = .ok ref' → Resolved lib ref'

variable {lib : Apimachinery} {resolve : Resolver}

lemma recordable_resolveOutcome (role : String) (err : ResolveError) :
    Recordable lib (resolveOutcome role err) := by
  cases err <;> exact trivial

/-- The denying policy is all that changes. -/
lemma resolveViolationDenyingPolicy_frame (c : TargetReader) (observation : Observation) :
    (resolveViolationDenyingPolicy c observation).direction = observation.direction ∧
      (resolveViolationDenyingPolicy c observation).source = observation.source ∧
      (resolveViolationDenyingPolicy c observation).dest = observation.dest ∧
      (resolveViolationDenyingPolicy c observation).dstPort = observation.dstPort := by
  unfold resolveViolationDenyingPolicy
  split
  · exact ⟨rfl, rfl, rfl, rfl⟩
  simp only
  split <;> exact ⟨rfl, rfl, rfl, rfl⟩

lemma Resolved.violationSubject_eq {observation : Observation} {s : WorkloadRef} (h : Resolved lib s)
    (hside : (observation.direction = .egress ∧ s = observation.source) ∨
      (observation.direction = .ingress ∧ s = observation.dest)) :
    violationSubject observation = some s := by
  unfold violationSubject
  rcases hside with ⟨hd, rfl⟩ | ⟨hd, rfl⟩ <;> simp [hd, h.ns, h.name, h.supported]

lemma recordable_resolveViolation (hr : Sound lib resolve) (c : TargetReader) {observation : Observation}
    (h : Directed (.violation observation)) : Recordable lib (resolveViolation resolve c observation) := by
  obtain ⟨hdir, hlow, hhigh⟩ := h
  unfold resolveViolation
  split
  · rename_i hin
    split
    · exact recordable_resolveOutcome _ _
    · rename_i dest hdest
      obtain ⟨hd, -, hdst, hport⟩ := resolveViolationDenyingPolicy_frame c
        { observation with dest := dest, source := resolveBestEffort resolve observation.source }
      refine ⟨⟨dest, ?_, hr hdest⟩, by rw [hport]; exact hlow, by rw [hport]; exact hhigh⟩
      exact Resolved.violationSubject_eq (hr hdest) (.inr ⟨hd.trans hin, hdst.symm⟩)
  · rename_i hin
    have hout : observation.direction = .egress := by
      cases hd : observation.direction
      · exact absurd hd hin
      · rfl
      · exact absurd hd hdir
    split
    · exact recordable_resolveOutcome _ _
    · rename_i source hsource
      obtain ⟨hd, hsrc, -, hport⟩ := resolveViolationDenyingPolicy_frame c
        { observation with source := source, dest := resolveBestEffort resolve observation.dest }
      refine ⟨⟨source, ?_, hr hsource⟩, by rw [hport]; exact hlow, by rw [hport]; exact hhigh⟩
      exact Resolved.violationSubject_eq (hr hsource) (.inl ⟨hd.trans hout, hsrc.symm⟩)

lemma resolveEvent_recordable (hr : Sound lib resolve) {event : LearningEvent} (h : Pointed (.enqueue event)) :
    ∃ r, resolveEvent resolve event = .ok r ∧ Recordable lib r := by
  obtain ⟨hs, hd⟩ := h
  obtain ⟨source, hsource⟩ := Option.isSome_iff_exists.1 hs
  obtain ⟨dest, hdest⟩ := Option.isSome_iff_exists.1 hd
  simp only [resolveEvent, hsource, hdest, deref, bind, Except.bind, pure, Except.pure]
  cases hrs : resolve source with
  | error err => exact ⟨_, rfl, recordable_resolveOutcome _ _⟩
  | ok source' =>
    cases hrd : resolve dest with
    | error err => exact ⟨_, rfl, recordable_resolveOutcome _ _⟩
    | ok dest' => exact ⟨_, rfl, source', dest', rfl, rfl, hr hrs, hr hrd⟩

/-- **Resolution dereferences no nil pointer, and makes a parsed flow recordable.** -/
theorem resolveParsedFlow_recordable (hr : Sound lib resolve) (c : TargetReader) {parsed : FlowResult}
    (hp : Pointed parsed) :
    ∃ r, resolveParsedFlow resolve c parsed = .ok r ∧ (Directed parsed → Recordable lib r) := by
  cases parsed with
  | skip => exact ⟨_, rfl, fun _ => trivial⟩
  | error err => exact ⟨_, rfl, fun _ => trivial⟩
  | enqueue event =>
    obtain ⟨r, hres, hrec⟩ := resolveEvent_recordable hr hp
    exact ⟨r, hres, fun _ => hrec⟩
  | violation observation => exact ⟨_, rfl, fun hd => recordable_resolveViolation hr c hd⟩

end NetworkEnforcer.Scraper
