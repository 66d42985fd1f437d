import NetworkEnforcer.Scraper.Flow

/-!
# The Cilium scraper (`internal/scraper/cilium_flow_parser.go`)

Hubble reports a flow with two endpoints, each with the workloads it belongs to.  The parser drops replies,
turns a flow that a policy dropped into a violation, and enqueues the others for learning.  Every field may
be missing: the getters of a nil message read its zero value, so a nil message is the empty one here, except
where the source compares with nil.

An endpoint without a workload has a nil reference, which is dereferenced when a violation is built.  It is
never nil there, since a nil reference is always skipped (`ciliumWorkloadRef_isSome`).
-/

namespace NetworkEnforcer.Scraper

open NetworkEnforcer.Lib NetworkEnforcer.Api NetworkEnforcer.Workload

/-! ## Hubble flows -/

structure HubbleWorkload where
  name : String := ""
  kind : String := ""
  deriving DecidableEq, Repr

/-- The text of the message, up to the spaces the library may add. -/
def HubbleWorkload.text (w : HubbleWorkload) : String :=
  "name:\"" ++ w.name ++ "\" kind:\"" ++ w.kind ++ "\""

structure HubbleEndpoint where
  ns : String := ""
  podName : String := ""
  workloads : List HubbleWorkload := []
  deriving DecidableEq, Repr

/-- `Layer4` with its destination port; `other` has the name of any other protocol type. -/
inductive Layer4 where
  | tcp (destinationPort : UInt32)
  | udp (destinationPort : UInt32)
  | other (type : String)
  deriving DecidableEq, Repr

/-- `Verdict`; `other` is every verdict but `DROPPED`. -/
inductive Verdict where
  | dropped | other
  deriving DecidableEq, Repr

/-- `DropReason`; `other` is every reason but the two of a policy. -/
inductive DropReason where
  | policyDenied | policyDeny | other
  deriving DecidableEq, Repr

/-- `TrafficDirection`; `undeclared` is a value that the enumeration does not declare. -/
inductive TrafficDirection where
  | unknown | ingress | egress
  | undeclared (value : Int)
  deriving DecidableEq, Repr

structure HubbleFlow where
  time : Option Time := none
  isReply : Option Bool := none
  verdict : Verdict := .other
  dropReasonDesc : DropReason := .other
  trafficDirection : TrafficDirection := .unknown
  ipSource : String := ""
  ipDestination : String := ""
  l4 : Option Layer4 := none
  source : Option HubbleEndpoint := none
  destination : Option HubbleEndpoint := none
  deriving DecidableEq, Repr

/-- `GetFlowsResponse`, by its response type; of the lost events only a nil message matters. -/
inductive GetFlowsResponse where
  | flow (flow : Option HubbleFlow)
  | lostEvents (isNil : Bool)
  | nodeStatus
  | other
  deriving DecidableEq, Repr

/-! ## Endpoints -/

/-- The errors of an endpoint; `errEndpointHasNoWorkload` is told apart. -/
inductive EndpointError where
  | hasNoWorkload
  | failed (err : Err)
  deriving DecidableEq, Repr

def handleNoWorkload (endpoint : HubbleEndpoint) : Except EndpointError WorkloadRef :=
  if endpoint.podName ≠ "" then
    .ok { ns := endpoint.ns, ownerName := endpoint.podName, ownerKind := workloadKindPod }
  else .error .hasNoWorkload

def fromEndpointToWorkloadRef (endpoint : Option HubbleEndpoint) : Except EndpointError WorkloadRef :=
  match endpoint with
  | none => .error (.failed (.other "endpoint is nil"))
  | some endpoint =>
    match endpoint.workloads with
    | [] => handleNoWorkload endpoint
    -- kinds are named as ours are
    | [parsedWorkload] =>
      .ok { ns := endpoint.ns, ownerName := parsedWorkload.name, ownerKind := parsedWorkload.kind }
    | workloads =>
      .error (.failed (.other ("endpoint should have only one workload, got " ++
        formatInt workloads.length ++ ". workloads: [" ++
        " ".intercalate (workloads.map HubbleWorkload.text) ++ "]")))

def shouldSkipWorkload (workload : WorkloadRef) : Bool :=
  !workload.isSupported && workload.ownerKind ≠ workloadKindPod

/-- `ciliumWorkloadRef`: a reference that may be nil, and whether to skip the endpoint. -/
def ciliumWorkloadRef (endpoint : Option HubbleEndpoint) : Except Err (Option WorkloadRef × Bool) :=
  match fromEndpointToWorkloadRef endpoint with
  | .error .hasNoWorkload => .ok (none, true)
  | .error (.failed err) => .error err
  | .ok ref => .ok (some ref, shouldSkipWorkload ref)

def ciliumViolationEndpoints (flow : HubbleFlow) (direction : PolicyType) (source : Option WorkloadRef)
    (skipSource : Bool) (dest : Option WorkloadRef) (skipDest : Bool) :
    Option WorkloadRef × Option WorkloadRef × Bool :=
  if direction = .egress then
    (source, some (dest.getD { ownerName := flow.ipDestination }), !skipSource)
  else (some (source.getD { ownerName := flow.ipSource }), dest, !skipDest)

/-! ## Parsing -/

def discardFlow (flowInfo : HubbleFlow) : Bool := flowInfo.isReply = some true

def violationTimestamp (now : Time) (flow : HubbleFlow) : Time := flow.time.getD now

def extractPortAndProtocol (flowInfo : HubbleFlow) : Except PortError (Int × String) :=
  match flowInfo.l4 with
  | none => .error (.failed (.other "found flow with nil layer4"))
  | some (.tcp rawPort) => (portToInt32 rawPort.toNat).map (·, protocolTCP)
  | some (.udp rawPort) => (portToInt32 rawPort.toNat).map (·, protocolUDP)
  | some (.other type) => .error (.unsupportedProtocol type)

/-- The direction of a policy; the switch leaves it empty for a value it does not list. -/
def policyTypeOf : TrafficDirection → PolicyType
  | .ingress => .ingress
  | .egress => .egress
  | .unknown | .undeclared _ => .unset

/-- The branch of `parseCiliumFlowResponse` for a dropped flow. -/
def parseCiliumDrop (now : Time) (flow : HubbleFlow) (dstPort : Int) (proto : String)
    (sourceWorkload : Option WorkloadRef) (skipSource : Bool) (destWorkload : Option WorkloadRef)
    (skipDest : Bool) : Except Panic FlowResult :=
  if flow.dropReasonDesc ≠ .policyDenied ∧ flow.dropReasonDesc ≠ .policyDeny then .ok .skip
  else if flow.trafficDirection = .unknown then
    .ok (.error (.other "found violation flow with unknown traffic direction"))
  else
    let direction := policyTypeOf flow.trafficDirection
    let (source, dest, ok) :=
      ciliumViolationEndpoints flow direction sourceWorkload skipSource destWorkload skipDest
    if !ok then .ok .skip
    else do
      let source ← deref source
      let dest ← deref dest
      return .violation
        { provider := .kubernetes, direction := direction, timestamp := violationTimestamp now flow,
          source := source, dest := dest, protocol := proto, dstPort := dstPort, action := .protect }

def parseCiliumFlowResponse (now : Time) (flow : HubbleFlow) : Except Panic FlowResult :=
  if discardFlow flow then .ok .skip
  else
    match extractPortAndProtocol flow with
    | .error (.unsupportedProtocol _) => .ok .skip
    | .error (.failed err) => .ok (.error err)
    | .ok (dstPort, proto) =>
      match ciliumWorkloadRef flow.source with
      | .error err => .ok (.error (.wrap "cannot get source workload" err))
      | .ok (sourceWorkload, skipSource) =>
        match ciliumWorkloadRef flow.destination with
        | .error err => .ok (.error (.wrap "cannot get destination workload" err))
        | .ok (destWorkload, skipDest) =>
          if flow.verdict = .dropped then
            parseCiliumDrop now flow dstPort proto sourceWorkload skipSource destWorkload skipDest
          else if skipSource || skipDest then .ok .skip
          else
            .ok (.enqueue
              { source := sourceWorkload, dest := destWorkload, dstPort := dstPort, protocol := proto,
                backend := .kubernetes })

/-! ## Resolution -/

namespace CiliumScraper

def resolvePod (lib : Apimachinery) (c : WorkloadClient) (ref : WorkloadRef) :
    Except ResolveError WorkloadRef :=
  match Workload.get lib c ⟨ref.ns, ref.ownerName⟩ with
  | .error err =>
    .error (.failed (.wrap ("failed to resolve pod \"" ++ ref.ownerName ++ "\" to workload") err))
  | .ok resolved => if !resolved.isSupported then .error .skipWorkload else .ok resolved

def resolve (lib : Apimachinery) (c : WorkloadClient) : Resolver := fun ref =>
  if ref.ownerKind = workloadKindPod then resolvePod lib c ref else completeSelector lib c ref

/-- `processFlow`; `none` is a nil response. -/
def processFlow (lib : Apimachinery) (c : WorkloadClient) (wnps : TargetReader) (now : Time)
    (response : Option GetFlowsResponse) : Except Panic FlowResult :=
  match response with
  | none => .ok (.error (.other "found nil flow"))
  | some (.flow none) => .ok (.error (.other "found nil response flow"))
  | some (.flow (some flow)) => do
    resolveParsedFlow (resolve lib c) wnps (← parseCiliumFlowResponse now flow)
  | some (.lostEvents true) => .ok (.error (.other "found nil flow lost event"))
  | some (.lostEvents false) => .ok .skip
  | some .nodeStatus => .ok .skip
  | some .other => .ok .skip

end CiliumScraper

/-! ## What the parser delivers -/

lemma ciliumWorkloadRef_isSome {endpoint : Option HubbleEndpoint} {ref : Option WorkloadRef} {skip : Bool}
    (h : ciliumWorkloadRef endpoint = .ok (ref, skip)) (hskip : skip = false) : ref.isSome = true := by
  unfold ciliumWorkloadRef at h
  split at h
  · cases h
    cases hskip
  · cases h
  · cases h
    rfl

/-- The subject is there because it is not skipped, the peer because it is substituted. -/
lemma ciliumViolationEndpoints_isSome (flow : HubbleFlow) (direction : PolicyType)
    {source dest : Option WorkloadRef} {skipSource skipDest : Bool}
    (hs : skipSource = false → source.isSome = true) (hd : skipDest = false → dest.isSome = true)
    (h : (ciliumViolationEndpoints flow direction source skipSource dest skipDest).2.2 = true) :
    (ciliumViolationEndpoints flow direction source skipSource dest skipDest).1.isSome = true ∧
      (ciliumViolationEndpoints flow direction source skipSource dest skipDest).2.1.isSome = true := by
  unfold ciliumViolationEndpoints at h ⊢
  split
  · rename_i hout
    rw [if_pos hout] at h
    exact ⟨hs (by simpa using h), rfl⟩
  · rename_i hin
    rw [if_neg hin] at h
    exact ⟨rfl, hd (by simpa using h)⟩

lemma extractPortAndProtocol_ok {flow : HubbleFlow} {port : Int} {proto : String}
    (h : extractPortAndProtocol flow = .ok (port, proto)) : 0 ≤ port ∧ port ≤ maxValidPort := by
  unfold extractPortAndProtocol at h
  split at h
  · cases h
  · exact portToInt32_map_ok h
  · exact portToInt32_map_ok h
  · cases h

lemma policyTypeOf_ne_unset {d : TrafficDirection} (hu : d ≠ .unknown) (hd : ∀ n, d ≠ .undeclared n) :
    policyTypeOf d ≠ .unset := by
  cases d with
  | unknown => exact absurd rfl hu
  | undeclared n => exact absurd rfl (hd n)
  | ingress => nofun
  | egress => nofun

/-- What every outcome of the parser satisfies. -/
def CiliumParsed (flow : HubbleFlow) (r : Except Panic FlowResult) : Prop :=
  ∃ parsed, r = .ok parsed ∧ Pointed parsed ∧
    ((∀ n, flow.trafficDirection ≠ .undeclared n) → Directed parsed)

lemma ciliumParsed_skip (flow : HubbleFlow) : CiliumParsed flow (.ok .skip) :=
  ⟨_, rfl, trivial, fun _ => trivial⟩

lemma ciliumParsed_error (flow : HubbleFlow) (err : Err) : CiliumParsed flow (.ok (.error err)) :=
  ⟨_, rfl, trivial, fun _ => trivial⟩

lemma parseCiliumDrop_parsed (now : Time) (flow : HubbleFlow) {port : Int} (proto : String)
    {source dest : Option WorkloadRef} {skipSource skipDest : Bool}
    (hport : 0 ≤ port ∧ port ≤ maxValidPort)
    (hs : skipSource = false → source.isSome = true) (hd : skipDest = false → dest.isSome = true) :
    CiliumParsed flow (parseCiliumDrop now flow port proto source skipSource dest skipDest) := by
  unfold parseCiliumDrop
  split
  · exact ciliumParsed_skip flow
  split
  · exact ciliumParsed_error flow _
  rename_i hunknown
  simp only
  split
  · exact ciliumParsed_skip flow
  rename_i hok
  obtain ⟨hsome, hsome'⟩ := ciliumViolationEndpoints_isSome flow (policyTypeOf flow.trafficDirection) hs hd
    (by simpa using hok)
  obtain ⟨s, hsource⟩ := Option.isSome_iff_exists.1 hsome
  obtain ⟨d, hdest⟩ := Option.isSome_iff_exists.1 hsome'
  rw [hsource, hdest]
  exact ⟨_, rfl, trivial, fun hdecl => ⟨policyTypeOf_ne_unset hunknown hdecl, hport⟩⟩

/-- **The parser dereferences no nil endpoint**, and gives every violation a direction if the flow's is
declared. -/
theorem parseCiliumFlowResponse_parsed (now : Time) (flow : HubbleFlow) :
    CiliumParsed flow (parseCiliumFlowResponse now flow) := by
  unfold parseCiliumFlowResponse
  split
  · exact ciliumParsed_skip flow
  split
  · exact ciliumParsed_skip flow
  · exact ciliumParsed_error flow _
  rename_i port proto hport
  split
  · exact ciliumParsed_error flow _
  rename_i source skipSource hsource
  split
  · exact ciliumParsed_error flow _
  rename_i dest skipDest hdest
  split
  · exact parseCiliumDrop_parsed now flow proto (extractPortAndProtocol_ok hport)
      (ciliumWorkloadRef_isSome hsource) (ciliumWorkloadRef_isSome hdest)
  split
  · exact ciliumParsed_skip flow
  · rename_i hskip
    simp only [Bool.or_eq_true, not_or, Bool.not_eq_true] at hskip
    exact ⟨_, rfl, ⟨ciliumWorkloadRef_isSome hsource hskip.1, ciliumWorkloadRef_isSome hdest hskip.2⟩,
      fun _ => trivial⟩

/-! ## What the resolver delivers -/

lemma completeSelector_sound (lib : Apimachinery) (c : WorkloadClient) : Sound lib (completeSelector lib c) := by
  intro ref ref' h
  unfold completeSelector at h
  split at h
  · cases h
  · rename_i r hlookup
    obtain rfl := Except.ok.inj h
    exact lookupPodSelectorForWorkload_resolved hlookup

lemma CiliumScraper.resolve_sound (lib : Apimachinery) (c : WorkloadClient) :
    Sound lib (CiliumScraper.resolve lib c) := by
  intro ref ref' h
  unfold CiliumScraper.resolve at h
  split at h
  · unfold CiliumScraper.resolvePod at h
    split at h
    · cases h
    · rename_i resolved hget
      split at h
      · cases h
      · rename_i hs
        obtain rfl := Except.ok.inj h
        exact get_resolved hget (by simpa using hs)
  · exact completeSelector_sound lib c h

end NetworkEnforcer.Scraper
