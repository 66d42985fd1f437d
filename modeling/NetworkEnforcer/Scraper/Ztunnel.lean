import NetworkEnforcer.Scraper.Istio
import NetworkEnforcer.Ztunnel.LuaFilter

/-!
# From the log of ztunnel to the scraper

Fluent Bit reads the log of ztunnel, runs each record through the Lua filter and sends what the filter lets pass to
the scraper (`templates/istio-fluent-bit/configmap.yaml`).  The filter and the scraper agree by the names of the
attributes: `message` becomes the body of the log record, every other entry of the table an attribute.

* `OtelOutput` — what Fluent Bit is relied on for;
* `Exports.get_attrs` — the scraper finds under a name what the filter has put there;
* `scraped_violation_iff` — the observations are those of the rejected connections;
* `scraped_event_iff` — the events are those of the completed connections between known workloads.
-/

namespace NetworkEnforcer.Scraper

open NetworkEnforcer.Lib NetworkEnforcer.Api NetworkEnforcer.Workload NetworkEnforcer.Istio
open NetworkEnforcer.Ztunnel (Json Fields Record LuaError Known knownRecord toOtel eventAttributes extractPort asLua)

/-! ## The output of Fluent Bit -/

/-- Every character is one byte. -/
def IsAscii (s : String) : Prop := ∀ c ∈ s.toList, c.toNat < 128

instance (s : String) : Decidable (IsAscii s) := List.decidableBAll (fun c : Char => c.toNat < 128) s.toList

/-- A table whose keys are names of attributes, each of them once and with a value. -/
structure Exportable (out : Fields) : Prop where
  nodup : (out.map Prod.fst).Nodup
  named : ∀ e ∈ out, ∃ s, IsAscii s ∧ e.1 = ascii s
  present : ∀ e ∈ out, e.2 ≠ .null

/-- The attributes carry a table: under a name, that of the body apart, there is the text which the table has there,
and no attribute where it has nothing. -/
structure Exports (text : Bytes → String) (out : Fields) (attributes : List (String × AnyValue)) : Prop where
  nodup : (attributes.map Prod.fst).Nodup
  string : ∀ key, IsAscii key → key ≠ "message" → ∀ s, out.lookup (ascii key) = some (.string s) →
    attributes.lookup key = some (.string (text s))
  missing : ∀ key, IsAscii key → key ≠ "message" → out.lookup (ascii key) = none → attributes.lookup key = none

/-- Fluent Bit behind the filter: the plugin `opentelemetry` with `Logs_Body_Key $message` and
`Logs_Body_Key_Attributes true`, as far as its documentation goes. -/
structure OtelOutput where
  /-- The text of a string of bytes. -/
  text : Bytes → String
  /-- The time of a record. -/
  unixNano : Nat → Nat
  /-- What is sent for an answer of the filter. -/
  send : Int → Nat → Fields → Option LogRecord
  text_ascii : ∀ s, IsAscii s → text (ascii s) = s
  /-- With the code -1 the record is dropped. -/
  send_dropped : ∀ timestamp out, send (-1) timestamp out = none
  /-- With the code 1 the table is sent in the place of the record. -/
  send_modified : ∀ timestamp out, Exportable out → ∃ record, send 1 timestamp out = some record ∧
    record.timeUnixNano = unixNano timestamp ∧ Exports text out record.attributes

/-- A record after the filter and the output; `none` when the filter drops it. -/
def OtelOutput.logRecord (o : OtelOutput) (tag : Bytes) (timestamp : Nat) (record : Fields) :
    Except LuaError (Option LogRecord) :=
  (toOtel tag timestamp record).map fun (code, timestamp, out) => o.send code timestamp out

/-! ## Attributes by name -/

lemma get_attrMap (formatFloat : UInt64 → String) (l : List (String × AnyValue)) (hl : (l.map Prod.fst).Nodup)
    (key : String) :
    (attrMap formatFloat l).get key = anyValueToString formatFloat ((l.lookup key).getD .other) := by
  induction l using List.reverseRecOn with
  | nil => rfl
  | append_singleton l kv ih =>
    obtain ⟨k, v⟩ := kv
    rw [List.map_append, List.nodup_append] at hl
    have ih := ih hl.1
    rw [attrMap, List.foldl_append, List.foldl_cons, List.foldl_nil, List.lookup_append]
    change Attrs.get (if anyValueToString formatFloat v = "" then attrMap formatFloat l
      else (attrMap formatFloat l).insert k (anyValueToString formatFloat v)) key = _
    by_cases hk : key = k
    · subst hk
      have hnone : l.lookup key = none := by
        rw [List.lookup_eq_none_iff]
        intro e he
        have hne := hl.2.2 e.1 (List.mem_map_of_mem he) key (List.mem_singleton_self key)
        simpa using hne.symm
      rw [hnone] at ih ⊢
      rw [List.lookup_cons_self]
      split
      next hempty =>
        rw [ih, Option.none_or, Option.getD_some, hempty]
        rfl
      next =>
        rw [Attrs.get, AList.lookup_insert]
        rfl
    · have hlast : List.lookup key [(k, v)] = none := by
        rw [List.lookup_cons, beq_false_of_ne hk]
        rfl
      rw [hlast, Option.or_none, ← ih]
      split
      next => rfl
      next => rw [Attrs.get, AList.lookup_insert_ne hk, Attrs.get]

lemma get_mergeAttrMaps {base : Attrs} (override : Attrs) {key : String} (h : base.lookup key = none) :
    (mergeAttrMaps base override).get key = override.get key := by
  unfold mergeAttrMaps Attrs.get
  rw [GoMap.lookup_foldl_entries override.nodupKeys, h, Option.or_none]
  rfl

lemma exportable_nil : Exportable [] where
  nodup := List.nodup_nil
  named _ he := absurd he List.not_mem_nil
  present _ he := absurd he List.not_mem_nil

lemma Exportable.filter {out : Fields} (h : Exportable out) (p : Bytes × Json → Bool) : Exportable (out.filter p) where
  nodup := h.nodup.sublist (List.filter_sublist.map _)
  named e he := h.named e (List.mem_of_mem_filter he)
  present e he := h.present e (List.mem_of_mem_filter he)

lemma Exportable.set {out : Fields} (h : Exportable out) {key : String} (hkey : IsAscii key) (v : Json) :
    Exportable (Ztunnel.set out (ascii key) v) := by
  have hrest : Exportable (out.filter fun e => e.1 ≠ ascii key) := h.filter _
  have hnew : v ≠ .null → Exportable ((ascii key, v) :: out.filter fun e => e.1 ≠ ascii key) := by
    intro hv
    refine ⟨List.nodup_cons.2 ⟨?_, hrest.nodup⟩, List.forall_mem_cons.2 ⟨⟨key, hkey, rfl⟩, hrest.named⟩,
      List.forall_mem_cons.2 ⟨hv, hrest.present⟩⟩
    intro hmem
    obtain ⟨e, he, heq⟩ := List.mem_map.1 hmem
    exact of_decide_eq_true (List.mem_filter.1 he).2 heq
  cases v with
  | null => exact hrest
  | _ => exact hnew (by intro heq; cases heq)

/-- A text of the table, as the scraper reads it. -/
def luaText (text : Bytes → String) : Json → String
  | .string s => text s
  | _ => ""

/-- **The scraper finds under a name what the filter has put there.** -/
lemma Exports.get_attrs {text : Bytes → String} {out : Fields} {attributes : List (String × AnyValue)}
    (h : Exports text out attributes) (hout : Exportable out) (formatFloat : UInt64 → String) {base : Attrs}
    {key : String} (hkey : IsAscii key) (hbody : key ≠ "message") (hbase : base.lookup key = none) {o : Option Bytes}
    (ho : Ztunnel.get out (ascii key) = asLua o) :
    (mergeAttrMaps base (attrMap formatFloat attributes)).get key = luaText text (asLua o) := by
  rw [get_mergeAttrMaps _ hbase, get_attrMap formatFloat _ h.nodup]
  unfold Ztunnel.get at ho
  cases hlookup : out.lookup (ascii key) with
  | none =>
    rw [h.missing key hkey hbody hlookup]
    rw [hlookup] at ho
    cases o with
    | none => rfl
    | some s => cases ho
  | some v =>
    rw [hlookup, Option.getD_some] at ho
    cases o with
    | none =>
      obtain ⟨before, after, rfl, -⟩ := List.lookup_eq_some_iff.1 hlookup
      exact absurd ho (hout.present (ascii key, v) (List.mem_append_right _ (List.mem_cons_self ..)))
    | some s =>
      rw [ho] at hlookup
      rw [h.string key hkey hbody s hlookup]
      rfl

/-! ## What passes the filter -/

lemma exportable_toPolicyEvent {timestamp timestamp' : Nat} {record out : Fields} {type : Ztunnel.EventType}
    {code : Int} (h : Ztunnel.toPolicyEvent timestamp record type = .ok (code, timestamp', out)) :
    Exportable out := by
  unfold Ztunnel.toPolicyEvent at h
  simp only [bind, Except.bind] at h
  split at h
  · cases h
  split at h
  · cases h
  cases h
  exact ((((exportable_nil.set (by decide) _).set (by decide) _).set (by decide) _).set (by decide) _).set
    (by decide) _

lemma exportable_toLearnEvent {timestamp timestamp' : Nat} {record out : Fields}
    (h : Ztunnel.toLearnEvent timestamp record = (1, timestamp', out)) : Exportable out := by
  unfold Ztunnel.toLearnEvent at h
  split at h
  · cases h
  split at h
  · cases h
  · cases h
    exact (((((exportable_nil.set (by decide) _).set (by decide) _).set (by decide) _).set (by decide) _).set
      (by decide) _).set (by decide) _

lemma code_toLearnEvent {timestamp timestamp' : Nat} {record out : Fields} {code : Int}
    (h : Ztunnel.toLearnEvent timestamp record = (code, timestamp', out)) : code = -1 ∨ code = 1 := by
  unfold Ztunnel.toLearnEvent at h
  repeat' split at h
  all_goals cases h
  · exact .inl rfl
  · exact .inl rfl
  · exact .inr rfl

/-- A rejected connection, by the message of the log: in a dry run or for good. -/
def rejected (message : Bytes) : Option WorkloadNetworkPolicyMode :=
  if message = Ztunnel.msgMonitorDeny ∨ message = Ztunnel.msgMonitorAllowMiss then some .monitor
  else if message = Ztunnel.msgViolationDeny ∨ message = Ztunnel.msgViolationAllowMiss then some .protect
  else none

/-- The names that the scraper looks up. -/
def attributeKeys : List String :=
  [eventTypeKey, srcIdentityKey, dstNamespaceKey, dstNameKey, dstPortKey, policyKey, dstNamespacedNameKey, srcAddrKey]

/-- The surroundings of the scraper. -/
structure Ingest where
  lib : Apimachinery
  output : OtelOutput
  runes : RuneDecoder
  formatFloat : UInt64 → String
  enricher : Enricher
  /-- The attributes of the resource, none of which is one of the scraper's. -/
  resource : Attrs
  resource_foreign : ∀ key ∈ attributeKeys, resource.lookup key = none

namespace Ingest

variable (g : Ingest)

/-- What becomes of a record of the log. -/
def scraped (now : Time) (tag : Bytes) (timestamp : Nat) (record : Fields) : Except LuaError (Option FlowResult) :=
  (g.output.logRecord tag timestamp record).map fun passed =>
    passed.map (exportRecord g.lib g.formatFloat now g.enricher g.resource)

/-- The pod of the server. -/
def server (rec : Record) : NamespacedName :=
  let name := splitNamespacedName (g.output.text rec.proxyWorkload)
  ⟨name.1, name.2⟩

/-- A rejected connection, as the log has it: the client by its address, the server by the name of its pod, and no
port. -/
def denied (now : Time) (timestamp : Nat) (rec : Record) (action : WorkloadNetworkPolicyMode) : Observation :=
  let policy := splitNamespacedName (g.output.text rec.policy)
  { provider := .istio, direction := .ingress,
    timestamp := timestampFromRecord now { timeUnixNano := g.output.unixNano timestamp },
    source := { ownerName := g.output.text rec.inboundPeer },
    dest := { ns := (g.server rec).ns, ownerName := (g.server rec).name }, protocol := protocolTCP, action := action,
    denyingPolicyNamespace := policy.1, denyingPolicyName := policy.2 }

/-- A completed connection of `principal` to a pod of `dest`, as the log of the server has it. -/
structure Completed (rec : Record) (dest : WorkloadRef) (principal : String) (port : Int) : Prop where
  message : rec.message = Ztunnel.msgLearn
  direction : rec.direction = Ztunnel.directionInbound
  meshed : rec.destinationIdentity ≠ []
  identity : g.output.text rec.sourceIdentity = "spiffe://" ++ principal
  principal_ne : principal ≠ ""
  pod : ∃ c ns name, g.enricher = some c ∧ ns ≠ "" ∧ name ≠ "" ∧
    (rec.destinationNamespace.map g.output.text).getD "" = ns ∧
    (rec.destinationName.map g.output.text).getD "" = name ∧ getWorkloadRef g.lib c ⟨ns, name⟩ = .ok dest
  supported : dest.isSupported = true
  port : parsePort (g.output.text (extractPort g.runes rec.destinationHBONEAddr)) = some port

/-- The event of such a connection. -/
def connectionEvent (dest : WorkloadRef) (principal : String) (port : Int) : LearningEvent where
  source := some { identity := principal }
  dest := some dest
  dstPort := port
  protocol := protocolTCP
  backend := .istio

variable {g} {fields proxy inbound : Fields} {out : Fields} {event : Ztunnel.Event}

/-- The attributes of a record that passed the filter. -/
lemma get_passed (hout : Exportable out) {attributes : List (String × AnyValue)}
    (hexports : Exports g.output.text out attributes)
    (hattrs : ∀ k, Ztunnel.get out k = asLua ((eventAttributes event).lookup k)) {key : String}
    (hkey : key ∈ attributeKeys) : (mergeAttrMaps g.resource (attrMap g.formatFloat attributes)).get key =
      luaText g.output.text (asLua ((eventAttributes event).lookup (ascii key))) := by
  have hnames : ∀ key ∈ attributeKeys, IsAscii key ∧ key ≠ "message" := by decide
  obtain ⟨hascii, hbody⟩ := hnames key hkey
  exact hexports.get_attrs hout g.formatFloat hascii hbody (g.resource_foreign key hkey) (hattrs _)

/-- A rejected connection passes the filter. -/
lemma toOtel_rejected (h : Known fields proxy inbound) {action : WorkloadNetworkPolicyMode}
    (hrej : rejected (knownRecord fields proxy inbound).message = some action) (tag : Bytes) (timestamp : Nat) :
    ∃ type out, toOtel tag timestamp fields = .ok (1, timestamp, out) ∧ Exportable out ∧ type ≠ .learn ∧
      (type = .monitor ↔ action = .monitor) ∧ ∀ k, Ztunnel.get out k =
        asLua ((eventAttributes (Ztunnel.policyEvent [] (knownRecord fields proxy inbound) type)).lookup k) := by
  have hmd := h.equalsText_message Ztunnel.msgMonitorDeny (by decide)
  have hma := h.equalsText_message Ztunnel.msgMonitorAllowMiss (by decide)
  have hvd := h.equalsText_message Ztunnel.msgViolationDeny (by decide)
  have hva := h.equalsText_message Ztunnel.msgViolationAllowMiss (by decide)
  unfold rejected at hrej
  simp only [toOtel, Bool.or_eq_true, hmd, hma, hvd, hva]
  split at hrej
  next hmessage =>
    obtain rfl := Option.some.inj hrej
    obtain ⟨out, hout, hattrs⟩ := h.toPolicyEvent timestamp [] .monitor (by decide)
    rw [if_pos hmessage]
    exact ⟨.monitor, out, hout, exportable_toPolicyEvent hout, by decide, by decide, hattrs⟩
  next hmonitor =>
    split at hrej
    next hmessage =>
      obtain rfl := Option.some.inj hrej
      obtain ⟨out, hout, hattrs⟩ := h.toPolicyEvent timestamp [] .protect (by decide)
      rw [if_neg hmonitor, if_pos hmessage]
      exact ⟨.protect, out, hout, exportable_toPolicyEvent hout, by decide, by decide, hattrs⟩
    next => cases hrej

/-- **A rejected connection is recorded as the log has it.** -/
lemma scraped_denied (h : Known fields proxy inbound) {action : WorkloadNetworkPolicyMode}
    (hrej : rejected (knownRecord fields proxy inbound).message = some action) (now : Time) (tag : Bytes)
    (timestamp : Nat) : g.scraped now tag timestamp fields = .ok (some (.violation
      (enrich g.enricher (g.denied now timestamp (knownRecord fields proxy inbound) action)))) := by
  obtain ⟨type, out, hout, hexportable, htype, haction, hattrs⟩ := toOtel_rejected h hrej tag timestamp
  obtain ⟨record, hsend, htime, hexports⟩ := g.output.send_modified timestamp out hexportable
  -- the attributes, one by one
  obtain ⟨attrs, hdef⟩ : ∃ attrs, attrs = mergeAttrMaps g.resource (attrMap g.formatFloat record.attributes) :=
    ⟨_, rfl⟩
  have hget : ∀ key ∈ attributeKeys, attrs.get key = luaText g.output.text
      (asLua ((eventAttributes (Ztunnel.policyEvent [] (knownRecord fields proxy inbound) type)).lookup (ascii key))) :=
    fun key hkey => by rw [hdef]; exact get_passed hexportable hexports hattrs hkey
  have hkind : (Ztunnel.policyEvent [] (knownRecord fields proxy inbound) type).type ≠ .learn := htype
  simp only [Ztunnel.asLua_policyAttributes hkind] at hget
  have haddr : attrs.get srcAddrKey = g.output.text (knownRecord fields proxy inbound).inboundPeer := by
    rw [hget _ (by decide), if_pos (by decide)]
    rfl
  have hpolicy : attrs.get policyKey = g.output.text (knownRecord fields proxy inbound).policy := by
    rw [hget _ (by decide), if_neg (by decide), if_pos (by decide)]
    rfl
  have hdest : attrs.get dstNamespacedNameKey = g.output.text (knownRecord fields proxy inbound).proxyWorkload := by
    rw [hget _ (by decide), if_neg (by decide), if_neg (by decide), if_pos (by decide)]
    rfl
  have htypeText : attrs.get eventTypeKey = g.output.text type.text := by
    rw [hget _ (by decide), if_neg (by decide), if_neg (by decide), if_neg (by decide), if_neg (by decide),
      if_pos (by decide)]
    rfl
  have hmonitor : g.output.text (ascii "monitor") = eventTypeMonitor := g.output.text_ascii _ (by decide)
  have hprotect : g.output.text (ascii "protect") = eventTypeProtect := g.output.text_ascii _ (by decide)
  have hresult : exportRecord g.lib g.formatFloat now g.enricher g.resource record = .violation
      (enrich g.enricher (g.denied now timestamp (knownRecord fields proxy inbound) action)) := by
    unfold exportRecord recordPolicyEvent policyEventToObservation timestampFromRecord
    simp only [← hdef, haddr, hpolicy, hdest, htime]
    cases type with
    | learn => exact absurd rfl htype
    | monitor =>
      rw [haction.1 rfl, htypeText.trans hmonitor]
      rfl
    | protect =>
      have hnot : action = .protect := by
        cases action with
        | monitor => exact absurd (haction.2 rfl) (by decide)
        | protect => rfl
      rw [hnot, htypeText.trans hprotect]
      rfl
  unfold scraped OtelOutput.logRecord
  rw [hout]
  simp only [Except.map, hsend, Option.map_some, hresult]

/-- When a learning record becomes an event. -/
lemma enqueueLearningEvent_eq_iff {lib : Apimachinery} {e : Enricher} {attrs : Attrs} {event : LearningEvent} :
    enqueueLearningEvent lib e attrs = .enqueue event ↔ ∃ c dest principal port, e = some c ∧
      attrs.get srcIdentityKey = "spiffe://" ++ principal ∧ principal ≠ "" ∧ attrs.get dstNameKey ≠ "" ∧
      attrs.get dstNamespaceKey ≠ "" ∧ parsePort (attrs.get dstPortKey) = some port ∧
      getWorkloadRef lib c ⟨attrs.get dstNamespaceKey, attrs.get dstNameKey⟩ = .ok dest ∧
      dest.isSupported = true ∧ event = connectionEvent dest principal port := by
  have hempty : parsePort "" = none := by decide +kernel
  constructor
  · intro h
    simp only [enqueueLearningEvent] at h
    split at h
    · cases h
    rename_i principal hidentity
    split at h
    · cases h
    rename_i hfields
    simp only [Bool.or_eq_true, decide_eq_true_eq, not_or] at hfields
    split at h
    · rename_i port c hport
      split at h
      · cases h
      rename_i dest hdest
      split at h
      · cases h
      rename_i hsupported
      exact ⟨c, dest, principal, port, rfl, cutPrefix_eq_some.1 hidentity, hfields.2, hfields.1.1.1, hfields.1.1.2,
        hport, hdest, by simpa using hsupported, (FlowResult.enqueue.inj h).symm⟩
    · cases h
  · rintro ⟨c, dest, principal, port, rfl, hidentity, hprincipal, hname, hns, hport, hdest, hsupported, rfl⟩
    have hattr : attrs.get dstPortKey ≠ "" := by
      intro heq
      rw [heq, hempty] at hport
      cases hport
    simp only [enqueueLearningEvent, cutPrefix_eq_some.2 hidentity, hport, hdest, hsupported]
    simp [hname, hns, hattr, hprincipal, connectionEvent]

lemma not_violation_of_enqueueLearningEvent {lib : Apimachinery} {e : Enricher} {attrs : Attrs} {obs : Observation} :
    enqueueLearningEvent lib e attrs ≠ .violation obs := by
  intro h
  simp only [enqueueLearningEvent] at h
  repeat' split at h
  all_goals cases h

/-- A record that is no event does not pass the filter. -/
lemma scraped_other (h : Known fields proxy inbound)
    (hrej : rejected (knownRecord fields proxy inbound).message = none)
    (hlearn : (knownRecord fields proxy inbound).message ≠ Ztunnel.msgLearn) (now : Time) (tag : Bytes)
    (timestamp : Nat) : g.scraped now tag timestamp fields = .ok none := by
  have hmd := h.equalsText_message Ztunnel.msgMonitorDeny (by decide)
  have hma := h.equalsText_message Ztunnel.msgMonitorAllowMiss (by decide)
  have hvd := h.equalsText_message Ztunnel.msgViolationDeny (by decide)
  have hva := h.equalsText_message Ztunnel.msgViolationAllowMiss (by decide)
  have hl := h.equalsText_message Ztunnel.msgLearn (by decide)
  have hout : toOtel tag timestamp fields = .ok (-1, timestamp, fields) := by
    unfold rejected at hrej
    simp only [toOtel, Bool.or_eq_true, hmd, hma, hvd, hva, hl]
    split at hrej
    · cases hrej
    split at hrej
    · cases hrej
    rename_i hmonitor hprotect
    rw [if_neg hmonitor, if_neg hprotect, if_neg hlearn]
  unfold scraped OtelOutput.logRecord
  rw [hout]
  simp only [Except.map, g.output.send_dropped, Option.map_none]

/-- The attributes of a completed connection that passed the filter. -/
lemma attributes_completed {rec : Record} {attrs : Attrs} (hevent : Ztunnel.learnEvent g.runes [] rec = some event)
    (hget : ∀ key ∈ attributeKeys,
      attrs.get key = luaText g.output.text (asLua ((eventAttributes event).lookup (ascii key)))) :
    attrs.get eventTypeKey = eventTypeLearn ∧ attrs.get srcIdentityKey = g.output.text rec.sourceIdentity ∧
      attrs.get dstNameKey = (rec.destinationName.map g.output.text).getD "" ∧
      attrs.get dstNamespaceKey = (rec.destinationNamespace.map g.output.text).getD "" ∧
      attrs.get dstPortKey = g.output.text (extractPort g.runes rec.destinationHBONEAddr) := by
  unfold Ztunnel.learnEvent at hevent
  split at hevent
  · cases hevent
  obtain rfl := Option.some.inj hevent
  simp only [Ztunnel.asLua_learnAttributes] at hget
  refine ⟨?_, ?_, ?_, ?_, ?_⟩
  · rw [hget _ (by decide), if_neg (by decide), if_neg (by decide), if_neg (by decide), if_neg (by decide),
      if_neg (by decide), if_pos (by decide)]
    exact g.output.text_ascii "learn" (by decide)
  · rw [hget _ (by decide), if_pos (by decide)]
    rfl
  · rw [hget _ (by decide), if_neg (by decide), if_neg (by decide), if_neg (by decide), if_pos (by decide)]
    cases rec.destinationName <;> rfl
  · rw [hget _ (by decide), if_neg (by decide), if_neg (by decide), if_pos (by decide)]
    cases rec.destinationNamespace <;> rfl
  · rw [hget _ (by decide), if_neg (by decide), if_pos (by decide)]
    rfl

/-- A completed connection of the log passes the filter. -/
lemma Completed.isSome_learnEvent {rec : Record} {dest : WorkloadRef} {principal : String} {port : Int}
    (h : g.Completed rec dest principal port) : (Ztunnel.learnEvent g.runes [] rec).isSome = true := by
  have hsource : rec.sourceIdentity ≠ [] := by
    intro hnil
    have hidentity := h.identity
    have hempty : g.output.text [] = "" := g.output.text_ascii "" (by decide)
    rw [hnil, hempty] at hidentity
    have hlength := congrArg String.length hidentity
    have hscheme : "spiffe://".length = 9 := rfl
    rw [String.length_append, hscheme, String.length_empty] at hlength
    omega
  have hgo : ¬ (rec.direction ≠ Ztunnel.directionInbound ∨ rec.sourceIdentity = [] ∨ rec.destinationIdentity = []) := by
    rintro (hd | hs | hd)
    · exact hd h.direction
    · exact hsource hs
    · exact h.meshed hd
  unfold Ztunnel.learnEvent
  rw [if_neg hgo]
  rfl

/-- What becomes of a completed connection: the filter drops it, or its attributes go to the learner. -/
lemma scraped_learn (h : Known fields proxy inbound)
    (hlearn : (knownRecord fields proxy inbound).message = Ztunnel.msgLearn) (now : Time) (tag : Bytes)
    (timestamp : Nat) :
    (Ztunnel.learnEvent g.runes [] (knownRecord fields proxy inbound) = none ∧
      g.scraped now tag timestamp fields = .ok none) ∨
    ∃ event attrs, Ztunnel.learnEvent g.runes [] (knownRecord fields proxy inbound) = some event ∧
      (∀ key ∈ attributeKeys,
        attrs.get key = luaText g.output.text (asLua ((eventAttributes event).lookup (ascii key)))) ∧
      g.scraped now tag timestamp fields = .ok (some (enqueueLearningEvent g.lib g.enricher attrs)) := by
  have hmd := h.equalsText_message Ztunnel.msgMonitorDeny (by decide)
  have hma := h.equalsText_message Ztunnel.msgMonitorAllowMiss (by decide)
  have hvd := h.equalsText_message Ztunnel.msgViolationDeny (by decide)
  have hva := h.equalsText_message Ztunnel.msgViolationAllowMiss (by decide)
  have hl := h.equalsText_message Ztunnel.msgLearn (by decide)
  obtain ⟨code, out, hout, hcode, hattrs⟩ := h.toLearnEvent g.runes timestamp []
  have hotel : toOtel tag timestamp fields = .ok (code, timestamp, out) := by
    simp only [toOtel, Bool.or_eq_true, hmd, hma, hvd, hva, hl, hlearn]
    rw [if_neg (by decide), if_neg (by decide), if_pos trivial, hout]
  unfold scraped OtelOutput.logRecord
  rw [hotel]
  cases hevent : Ztunnel.learnEvent g.runes [] (knownRecord fields proxy inbound) with
  | none =>
    have hdropped : code ≠ 1 := by
      intro heq
      have hsome := hcode.2 heq
      rw [hevent] at hsome
      cases hsome
    obtain rfl := (code_toLearnEvent hout).resolve_right hdropped
    refine .inl ⟨rfl, ?_⟩
    simp only [Except.map, g.output.send_dropped, Option.map_none]
  | some event =>
    obtain rfl := hcode.1 (by rw [hevent]; rfl)
    have hexportable := exportable_toLearnEvent hout
    obtain ⟨record, hsend, -, hexports⟩ := g.output.send_modified timestamp out hexportable
    have hget : ∀ key ∈ attributeKeys,
        (mergeAttrMaps g.resource (attrMap g.formatFloat record.attributes)).get key =
          luaText g.output.text (asLua ((eventAttributes event).lookup (ascii key))) :=
      fun key hkey => get_passed hexportable hexports (hattrs event hevent) hkey
    obtain ⟨htype, -⟩ := attributes_completed hevent hget
    refine .inr ⟨event, _, rfl, hget, ?_⟩
    simp only [Except.map, hsend, Option.map_some, exportRecord, htype, if_true]

/-- **The events are those of the completed connections between known workloads.** -/
theorem scraped_event_iff (h : Known fields proxy inbound) (now : Time) (tag : Bytes) (timestamp : Nat)
    {event : LearningEvent} : g.scraped now tag timestamp fields = .ok (some (.enqueue event)) ↔
      ∃ dest principal port, g.Completed (knownRecord fields proxy inbound) dest principal port ∧
        event = connectionEvent dest principal port := by
  by_cases hlearn : (knownRecord fields proxy inbound).message = Ztunnel.msgLearn
  · rcases scraped_learn (g := g) h hlearn now tag timestamp with
      ⟨hnone, hscraped⟩ | ⟨ev, attrs, hsome, hget, hscraped⟩
    · rw [hscraped]
      refine iff_of_false (fun heq => by cases heq) ?_
      rintro ⟨dest, principal, port, hc, -⟩
      have hisSome := hc.isSome_learnEvent
      rw [hnone] at hisSome
      cases hisSome
    · obtain ⟨-, hidentity, hname, hns, hport⟩ := attributes_completed hsome hget
      have hread : (knownRecord fields proxy inbound).direction = Ztunnel.directionInbound ∧
          (knownRecord fields proxy inbound).destinationIdentity ≠ [] := by
        unfold Ztunnel.learnEvent at hsome
        split at hsome
        · cases hsome
        rename_i hgo
        push Not at hgo
        exact ⟨hgo.1, hgo.2.2⟩
      rw [hscraped]
      have hiff : (Except.ok (some (enqueueLearningEvent g.lib g.enricher attrs)) :
          Except LuaError (Option FlowResult)) = .ok (some (.enqueue event)) ↔ _ :=
        ⟨fun heq => enqueueLearningEvent_eq_iff.1 (Option.some.inj (Except.ok.inj heq)),
          fun hex => congrArg (fun r => Except.ok (some r)) (enqueueLearningEvent_eq_iff.2 hex)⟩
      rw [hiff, hidentity, hname, hns, hport]
      constructor
      · rintro ⟨c, dest, principal, port, hc, hid, hprincipal, hn, hs, hp, hdest, hsupported, rfl⟩
        exact ⟨dest, principal, port, ⟨hlearn, hread.1, hread.2, hid, hprincipal,
          ⟨c, _, _, hc, hs, hn, rfl, rfl, hdest⟩, hsupported, hp⟩, rfl⟩
      · rintro ⟨dest, principal, port, hc, rfl⟩
        obtain ⟨c, _, _, henricher, hs, hn, rfl, rfl, hdest⟩ := hc.pod
        exact ⟨c, dest, principal, port, henricher, hc.identity, hc.principal_ne, hn, hs, hc.port, hdest,
          hc.supported, rfl⟩
  · refine iff_of_false (fun heq => ?_) ?_
    · cases hrej : rejected (knownRecord fields proxy inbound).message with
      | none =>
        rw [scraped_other h hrej hlearn] at heq
        cases heq
      | some action =>
        rw [scraped_denied h hrej] at heq
        cases heq
    · rintro ⟨_, _, _, hc, -⟩
      exact hlearn hc.message

/-- **The observations are those of the rejected connections.** -/
theorem scraped_violation_iff (h : Known fields proxy inbound) (now : Time) (tag : Bytes) (timestamp : Nat)
    {obs : Observation} : g.scraped now tag timestamp fields = .ok (some (.violation obs)) ↔
      ∃ action, rejected (knownRecord fields proxy inbound).message = some action ∧
        obs = enrich g.enricher (g.denied now timestamp (knownRecord fields proxy inbound) action) := by
  cases hrej : rejected (knownRecord fields proxy inbound).message with
  | some action =>
    rw [scraped_denied h hrej]
    constructor
    · intro heq
      injection heq with heq
      exact ⟨action, rfl, (FlowResult.violation.inj (Option.some.inj heq)).symm⟩
    · rintro ⟨action', haction, rfl⟩
      rw [Option.some.inj haction]
  | none =>
    refine iff_of_false (fun heq => ?_) (by rintro ⟨_, hsome, -⟩; cases hsome)
    by_cases hlearn : (knownRecord fields proxy inbound).message = Ztunnel.msgLearn
    · rcases scraped_learn (g := g) h hlearn now tag timestamp with ⟨-, hscraped⟩ | ⟨_, _, -, -, hscraped⟩
      · rw [hscraped] at heq
        cases heq
      · rw [hscraped] at heq
        have hresult := Option.some.inj (Except.ok.inj heq)
        exact not_violation_of_enqueueLearningEvent hresult
    · rw [scraped_other h hrej hlearn] at heq
      cases heq

end Ingest

/-! ## An output -/

section Direct

/-- Bytes as characters. -/
def byteText (b : Bytes) : String := String.ofList (b.map fun x => Char.ofNat x.toNat)

lemma byteText_ascii {s : String} (hs : IsAscii s) : byteText (ascii s) = s := by
  have hbyte : ∀ c ∈ s.toList,
      ((fun x : UInt8 => Char.ofNat x.toNat) ∘ fun c : Char => UInt8.ofNat c.toNat) c = id c := by
    intro c hc
    have hlt : c.toNat < 128 := hs c hc
    rw [Function.comp_apply, UInt8.toNat_ofNat', Nat.mod_eq_of_lt (by omega), Char.ofNat_toNat, id]
  rw [byteText, ascii, List.map_map, List.map_congr_left hbyte, List.map_id, String.ofList_toList]

lemma byteText_eq_iff {k : Bytes} (hk : ∃ s, IsAscii s ∧ k = ascii s) {key : String} (hkey : IsAscii key) :
    byteText k = key ↔ k = ascii key := by
  obtain ⟨s, hs, rfl⟩ := hk
  rw [byteText_ascii hs]
  constructor
  · rintro rfl
    rfl
  · intro heq
    rw [← byteText_ascii hs, heq, byteText_ascii hkey]

/-- One attribute for every entry but the body; what is no text has no value. -/
def byteAttributes (out : Fields) : List (String × AnyValue) :=
  (out.filter fun e => e.1 ≠ Ztunnel.messageKey).map fun e => (byteText e.1, .string (luaText byteText e.2))

variable {out : Fields}

lemma nodup_byteAttributes (h : Exportable out) : ((byteAttributes out).map Prod.fst).Nodup := by
  have hsub : (((out.filter fun e => e.1 ≠ Ztunnel.messageKey).map Prod.fst).map byteText).Nodup := by
    refine List.Nodup.map_on ?_ (h.filter _).nodup
    intro k hk k' hk' heq
    obtain ⟨e, he, rfl⟩ := List.mem_map.1 hk
    obtain ⟨e', he', rfl⟩ := List.mem_map.1 hk'
    obtain ⟨s, hs, heq'⟩ := (h.filter _).named e' he'
    rw [heq'] at heq ⊢
    rw [byteText_ascii hs] at heq
    exact (byteText_eq_iff ((h.filter _).named e he) hs).1 heq
  rw [byteAttributes, List.map_map]
  rw [List.map_map] at hsub
  exact hsub

lemma lookup_byteAttributes (h : Exportable out) {key : String} (hkey : IsAscii key) (hbody : key ≠ "message") :
    (byteAttributes out).lookup key =
      (out.lookup (ascii key)).map fun v => AnyValue.string (luaText byteText v) := by
  have hnot : ascii key ≠ Ztunnel.messageKey := by
    intro heq
    have hmessage : IsAscii "message" := by decide
    exact hbody (by rw [← byteText_ascii hkey, heq]; exact byteText_ascii hmessage)
  have hnamed := h.named
  clear h
  induction out with
  | nil => rfl
  | cons e out ih =>
    obtain ⟨k, v⟩ := e
    obtain ⟨hk, hnamed⟩ := List.forall_mem_cons.1 hnamed
    have ih := ih hnamed
    rw [byteAttributes] at ih ⊢
    by_cases hkey' : k = ascii key
    · subst hkey'
      rw [List.filter_cons_of_pos (by simpa using hnot), List.map_cons, List.lookup_cons, List.lookup_cons_self,
        byteText_ascii hkey, beq_self_eq_true]
      rfl
    · rw [Ztunnel.lookup_cons_ne (Ne.symm hkey'), ← ih]
      by_cases hmessage : k = Ztunnel.messageKey
      · rw [List.filter_cons_of_neg (by simpa using hmessage)]
      · rw [List.filter_cons_of_pos (by simpa using hmessage), List.map_cons, List.lookup_cons]
        have hne : key ≠ byteText k := fun heq => hkey' ((byteText_eq_iff hk hkey).1 heq.symm)
        rw [beq_false_of_ne hne]

/-- An output that meets the laws. -/
def OtelOutput.direct : OtelOutput where
  text := byteText
  unixNano := id
  send code timestamp out :=
    if code = 1 then some { timeUnixNano := timestamp, attributes := byteAttributes out } else none
  text_ascii _ hs := byteText_ascii hs
  send_dropped _ _ := rfl
  send_modified _ out h := by
    refine ⟨_, rfl, rfl, nodup_byteAttributes h, fun key hkey hbody s hs => ?_, fun key hkey hbody hnone => ?_⟩
    · rw [lookup_byteAttributes h hkey hbody, hs]
      rfl
    · rw [lookup_byteAttributes h hkey hbody, hnone]
      rfl

end Direct

end NetworkEnforcer.Scraper
