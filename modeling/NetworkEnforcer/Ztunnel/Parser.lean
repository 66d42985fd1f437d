import NetworkEnforcer.Lib.Bytes
import NetworkEnforcer.Lib.GoMap

/-!
# The parser of ztunnel logs (`internal/ztunnel/parser.go`)

`parse` takes a line of a container log: a timestamp, a stream and a tag, and then a JSON record.  The
decoder of JSON texts is a parameter; what `json.Unmarshal` does with a decoded value is `unmarshalRecord`:
a field that is absent or null keeps its zero value, a field of another type is an error, and unknown
fields are ignored.
-/

namespace NetworkEnforcer.Ztunnel

open NetworkEnforcer.Lib

/-! ## Records -/

/-- A decoded JSON value.  A number is kept as its text. -/
inductive Json where
  | null
  | bool (b : Bool)
  | number (text : Bytes)
  | string (s : Bytes)
  | array (items : List Json)
  | object (fields : List (Bytes × Json))

/-- The fields of an object; names are compared byte by byte. -/
abbrev Fields : Type := List (Bytes × Json)

inductive JsonError where
  | invalid (message : String)
  /-- The value of the field has a type the field cannot hold. -/
  | wrongType (field : Bytes)
  deriving DecidableEq, Repr

def messageKey : Bytes := ascii "message"
def directionKey : Bytes := ascii "direction"
def srcIdentityKey : Bytes := ascii "src.identity"
def dstIdentityKey : Bytes := ascii "dst.identity"
def dstWorkloadKey : Bytes := ascii "dst.workload"
def dstNamespaceKey : Bytes := ascii "dst.namespace"
def dstHboneAddrKey : Bytes := ascii "dst.hbone_addr"
def policyKey : Bytes := ascii "policy"
def proxyKey : Bytes := ascii "proxy"
def wlKey : Bytes := ascii "wl"
def inboundKey : Bytes := ascii "inbound"
def peerKey : Bytes := ascii "peer"

/-- A field of type `*string`. -/
def pointerField (fields : Fields) (key : Bytes) : Except JsonError (Option Bytes) :=
  match fields.lookup key with
  | none | some .null => .ok none
  | some (.string s) => .ok (some s)
  | some _ => .error (.wrongType key)

/-- A field of type `string`. -/
def stringField (fields : Fields) (key : Bytes) : Except JsonError Bytes :=
  (pointerField fields key).map (·.getD [])

/-- A field of a struct type, as the fields of the object. -/
def structField (fields : Fields) (key : Bytes) : Except JsonError Fields :=
  match fields.lookup key with
  | none | some .null => .ok []
  | some (.object inner) => .ok inner
  | some _ => .error (.wrongType key)

structure Record where
  message : Bytes := []
  direction : Bytes := []
  sourceIdentity : Bytes := []
  destinationIdentity : Bytes := []
  destinationName : Option Bytes := none
  destinationNamespace : Option Bytes := none
  destinationHBONEAddr : Bytes := []
  policy : Bytes := []
  /-- `Proxy.Workload`. -/
  proxyWorkload : Bytes := []
  /-- `Inbound.Peer`. -/
  inboundPeer : Bytes := []
  deriving DecidableEq, Repr

/-- `json.Unmarshal` into a record, after the text has been decoded. -/
def unmarshalRecord : Json → Except JsonError Record
  | .null => .ok {}
  | .object fields => do
    let message ← stringField fields messageKey
    let direction ← stringField fields directionKey
    let sourceIdentity ← stringField fields srcIdentityKey
    let destinationIdentity ← stringField fields dstIdentityKey
    let destinationName ← pointerField fields dstWorkloadKey
    let destinationNamespace ← pointerField fields dstNamespaceKey
    let destinationHBONEAddr ← stringField fields dstHboneAddrKey
    let policy ← stringField fields policyKey
    let proxy ← structField fields proxyKey
    let proxyWorkload ← stringField proxy wlKey
    let inbound ← structField fields inboundKey
    let inboundPeer ← stringField inbound peerKey
    return { message, direction, sourceIdentity, destinationIdentity, destinationName, destinationNamespace,
             destinationHBONEAddr, policy, proxyWorkload, inboundPeer }
  | _ => .error (.wrongType [])

/-! ## Events -/

/-- `types.EventType`. -/
inductive EventType where
  | learn
  | monitor
  | protect
  deriving DecidableEq, Repr

def EventType.text : EventType → Bytes
  | learn => ascii "learn"
  | monitor => ascii "monitor"
  | protect => ascii "protect"

structure Event where
  type : EventType
  timestamp : Bytes
  message : Bytes
  destinationName : Option Bytes := none
  destinationNamespace : Option Bytes := none
  destinationPort : Bytes := []
  sourceIdentity : Bytes := []
  destinationNamespacedName : Bytes := []
  policy : Bytes := []
  sourceAddress : Bytes := []
  deriving DecidableEq, Repr

def colon : UInt8 := 0x3a

/-- `'0' <= digit && digit <= '9'`. -/
def isDigitRune (r : Nat) : Bool := 0x30 ≤ r && r ≤ 0x39

/-- `extractPort`: what follows the last colon, if it is a number. -/
def extractPort (d : RuneDecoder) (address : Bytes) : Bytes :=
  match afterLast colon address with
  | none => []
  | some port =>
    if port = [] then []
    else if (runes d port).all isDigitRune then port
    else []

def msgMonitorDeny : Bytes := ascii "dry-run: deny policy match"
def msgMonitorAllowMiss : Bytes := ascii "dry-run: no allow policies match"
def msgViolationDeny : Bytes := ascii "deny policy match"
def msgViolationAllowMiss : Bytes := ascii "no allow policies matched"
def msgLearn : Bytes := ascii "connection complete"
def directionInbound : Bytes := ascii "inbound"

/-- The end of `Parse` for a message about a policy. -/
def policyEvent (timestamp : Bytes) (rec : Record) (type : EventType) : Event :=
  { type, timestamp, message := rec.message, destinationNamespacedName := rec.proxyWorkload,
    policy := rec.policy, sourceAddress := rec.inboundPeer }

/-- The case of a completed connection; `none` unless it is inbound and both identities are known. -/
def learnEvent (d : RuneDecoder) (timestamp : Bytes) (rec : Record) : Option Event :=
  if rec.direction ≠ directionInbound ∨ rec.sourceIdentity = [] ∨ rec.destinationIdentity = [] then none
  else
    some { type := .learn, timestamp, message := rec.message, destinationName := rec.destinationName,
           destinationNamespace := rec.destinationNamespace,
           destinationPort := extractPort d rec.destinationHBONEAddr, sourceIdentity := rec.sourceIdentity }

/-- The switch of `Parse`; `none` when the record is no event. -/
def recordEvent (d : RuneDecoder) (timestamp : Bytes) (rec : Record) : Option Event :=
  if rec.message = msgMonitorDeny ∨ rec.message = msgMonitorAllowMiss then
    some (policyEvent timestamp rec .monitor)
  else if rec.message = msgViolationDeny ∨ rec.message = msgViolationAllowMiss then
    some (policyEvent timestamp rec .protect)
  else if rec.message = msgLearn then learnEvent d timestamp rec
  else none

/-! ## Lines -/

def space : UInt8 := 0x20
def streamStdout : Bytes := ascii "stdout"
def streamStderr : Bytes := ascii "stderr"

inductive ParseError where
  | invalidCRI
  | decode (cause : JsonError)
  deriving DecidableEq, Repr

/-- `Parse`; `none` for a valid record that is no event. -/
def parse (d : RuneDecoder) (decode : Bytes → Except String Json) (line : Bytes) :
    Except ParseError (Option Event) :=
  match cut space line with
  | none | some ([], _) => .error .invalidCRI
  | some (timestamp, line) =>
    match cut space line with
    | none => .error .invalidCRI
    | some (stream, line) =>
      if stream ≠ streamStdout ∧ stream ≠ streamStderr then .error .invalidCRI
      else
        match cut space line with
        | none => .error .invalidCRI
        | some (_, body) =>
          match decode body with
          | .error message => .error (.decode (.invalid message))
          | .ok value =>
            match unmarshalRecord value with
            | .error err => .error (.decode err)
            | .ok rec => .ok (recordEvent d timestamp rec)

/-- What stands before the record in a line of a container log. -/
structure CriHeader (timestamp stream tag : Bytes) : Prop where
  timestamp_ne : timestamp ≠ []
  timestamp_word : space ∉ timestamp
  stream : stream = streamStdout ∨ stream = streamStderr
  tag_word : space ∉ tag

def criLine (timestamp stream tag body : Bytes) : Bytes :=
  timestamp ++ space :: (stream ++ space :: (tag ++ space :: body))

/-- **A line with a header is parsed by its record.** -/
theorem parse_criLine (d : RuneDecoder) {decode : Bytes → Except String Json} {timestamp stream tag body : Bytes}
    (h : CriHeader timestamp stream tag) {value : Json} (hbody : decode body = .ok value) {rec : Record}
    (hrec : unmarshalRecord value = .ok rec) :
    parse d decode (criLine timestamp stream tag body) = .ok (recordEvent d timestamp rec) := by
  obtain ⟨b, bs, rfl⟩ := List.exists_cons_of_ne_nil h.timestamp_ne
  have hstream : space ∉ stream := by
    rcases h.stream with rfl | rfl <;> decide
  have hkind : ¬ (stream ≠ streamStdout ∧ stream ≠ streamStderr) := by
    rintro ⟨hout, herr⟩
    exact h.stream.elim hout herr
  unfold parse criLine
  rw [cut_append h.timestamp_word]
  simp only [cut_append hstream, if_neg hkind, cut_append h.tag_word, hbody, hrec]

/-! ## Attributes -/

def evtTypeKey : Bytes := ascii "evt.type"
def dstNameKey : Bytes := ascii "dst.name"
def dstPortKey : Bytes := ascii "dst.port"
def dstNamespacedNameKey : Bytes := ascii "dst.namespaced_name"
def srcAddrKey : Bytes := ascii "src.addr"

/-- `m[key] = *value` when there is a value. -/
def insertPointer (m : GoMap Bytes Bytes) (key : Bytes) (value : Option Bytes) : GoMap Bytes Bytes :=
  match value with
  | some s => m.insert key s
  | none => m

/-- `eventAttributes`: the attributes an event is exported with. -/
def eventAttributes (event : Event) : GoMap Bytes Bytes :=
  let attrs := ((∅ : GoMap Bytes Bytes).insert evtTypeKey event.type.text).insert messageKey event.message
  if event.type = .learn then
    ((insertPointer (insertPointer attrs dstNameKey event.destinationName) dstNamespaceKey
      event.destinationNamespace).insert dstPortKey event.destinationPort).insert srcIdentityKey
      event.sourceIdentity
  else
    ((attrs.insert dstNamespacedNameKey event.destinationNamespacedName).insert policyKey event.policy).insert
      srcAddrKey event.sourceAddress

end NetworkEnforcer.Ztunnel
