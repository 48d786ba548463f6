import MatVerse.Core
import MatVerse.Lib.Fallible
import MatVerse.Lib.Text

/-! The causal envelope of the bridge: a frozen payload, a timestamp brought to UTC, an
expiry, and an identity that hashes all of them but the signature. -/
namespace MatVerse.Bridge

open Fallible

def protocolVersion : String := "matverse.bridge.v1.1"

inductive EpistemicNature where
  | artifact
  | runtime
  | inference
  | model
  deriving DecidableEq

def EpistemicNature.value : EpistemicNature → String
  | .artifact => "ARTEFATO"
  | .runtime => "RUNTIME"
  | .inference => "INFERENCIA"
  | .model => "MODELO"

inductive AnalyticStatus where
  | fact
  | citation
  | inference
  | hold
  | contradiction
  deriving DecidableEq

def AnalyticStatus.value : AnalyticStatus → String
  | .fact => "FATO"
  | .citation => "CITACAO"
  | .inference => "INFERENCIA"
  | .hold => "HOLD"
  | .contradiction => "CONTRADICAO"

def requireNonemptyString (name : String) : Json → Except PyError String
  | .str value =>
    if Text.strip value == "" then .error (.valueError (name ++ " must be a non-empty string"))
    else .ok (Text.strip value)
  | _ => .error (.valueError (name ++ " must be a non-empty string"))

/-! ## Payloads -/

/-- A value as a caller passes it. The key of an entry is `none` where it is no string. -/
inductive PyValue where
  | null
  | bool (value : Bool)
  | int (value : Int)
  | float (value : Binary64)
  | str (value : String)
  | list (items : List PyValue)
  | tuple (items : List PyValue)
  | mapping (entries : List (Option String × PyValue))
  | unsupported (typeName : String)

/-- An immutable snapshot: read-only mappings with string keys, and tuples. -/
inductive Frozen where
  | null
  | bool (value : Bool)
  | int (value : Int)
  | float (value : Binary64)
  | str (value : String)
  | tuple (items : List Frozen)
  | proxy (entries : List (String × Frozen))

mutual
def freezeJson : PyValue → Except PyError Frozen
  | .mapping entries => do
    let frozen ← freezeEntries entries
    return .proxy frozen
  | .list items => do
    let frozen ← freezeItems items
    return .tuple frozen
  | .tuple items => do
    let frozen ← freezeItems items
    return .tuple frozen
  | .null => .ok .null
  | .bool b => .ok (.bool b)
  | .int i => .ok (.int i)
  | .float x => .ok (.float x)
  | .str s => .ok (.str s)
  | .unsupported typeName => .error (.valueError ("payload contains unsupported JSON value: " ++ typeName))
def freezeItems : List PyValue → Except PyError (List Frozen)
  | [] => .ok []
  | item :: rest => do
    let frozen ← freezeJson item
    let others ← freezeItems rest
    return frozen :: others
def freezeEntries : List (Option String × PyValue) → Except PyError (List (String × Frozen))
  | [] => .ok []
  | (none, _) :: _ => .error (.valueError "payload mappings must use string keys")
  | (some key, item) :: rest => do
    let frozen ← freezeJson item
    let others ← freezeEntries rest
    return (key, frozen) :: others
end

mutual
/-- `_thaw_json` of a frozen value. -/
def thawJson : Frozen → Json
  | .proxy entries => .obj (thawEntries entries)
  | .tuple items => .arr (thawItems items)
  | .null => .null
  | .bool b => .bool b
  | .int i => .int i
  | .float x => .float x
  | .str s => .str s
def thawItems : List Frozen → List Json
  | [] => []
  | item :: rest => thawJson item :: thawItems rest
def thawEntries : List (String × Frozen) → List (String × Json)
  | [] => []
  | (key, item) :: rest => (key, thawJson item) :: thawEntries rest
end

/-! ## Times -/

/-- The last microsecond of the year 9999, counted from the first of the year 1. -/
def lastMicrosecond : Int := 315537897599999999

abbrev Utc := { t : Int // 0 ≤ t ∧ t ≤ lastMicrosecond }

/-- A `datetime`: what the wall clock shows and the offset from UTC, in microseconds; a
naive one has no offset. -/
structure DateTime where
  wall : Int
  offset : Option Int
  ranged : 0 ≤ wall ∧ wall ≤ lastMicrosecond

def DateTime.ofUtc (t : Utc) : DateTime := ⟨t.1, some 0, t.2⟩

/-- The instant that an aware `datetime` denotes, also where UTC has no `datetime` for it. -/
def DateTime.instant? (d : DateTime) : Option Int := d.offset.map (fun offset => d.wall - offset)

/-- The writer and the reader of ISO 8601 texts. -/
structure Calendar where
  /-- The date and time of day of a `datetime`, as `isoformat` writes them. -/
  wallText : Int → String
  /-- `datetime.fromisoformat`; `none` is a `ValueError`. -/
  fromisoformat : String → Option DateTime

/-- `isoformat` of a `datetime` in UTC. -/
def Calendar.isoformat (calendar : Calendar) (t : Utc) : String := calendar.wallText t.1 ++ "+00:00"

def utcOf (t : Int) : Except PyError Utc :=
  if ranged : 0 ≤ t ∧ t ≤ lastMicrosecond then .ok ⟨t, ranged⟩
  else .error (.overflowError "date value out of range")

/-- `t + timedelta(seconds=seconds)`. -/
def addSeconds (t : Utc) (seconds : Int) : Except PyError Utc := do
  if 999999999 < seconds / 86400 then throw (.overflowError "days must have magnitude <= 999999999")
  utcOf (t.1 + seconds * 1000000)

/-- A final `Z` written as an offset. -/
def expandZulu (raw : String) : String :=
  if raw.toList.getLast? = some 'Z' then String.ofList raw.toList.dropLast ++ "+00:00" else raw

section
variable (host : Host) (calendar : Calendar) (clock : Utc)

def canonicalizeTimestamp : Json → Except PyError (Utc × String)
  | .null => .ok (clock, calendar.isoformat clock)
  | value => do
    let raw ← requireNonemptyString "timestamp" value
    match calendar.fromisoformat (expandZulu raw) with
    | none => throw (.valueError "timestamp must be a timezone-aware ISO 8601 value")
    | some parsed =>
      match parsed.instant? with
      | none => throw (.valueError "timestamp must include a timezone")
      | some instant =>
        let parsed ← utcOf instant
        return (parsed, calendar.isoformat parsed)

/-! ## Envelopes -/

/-- The keyword arguments of `build_envelope`; those it does not check are any JSON values. -/
structure EnvelopeArguments where
  source : Json
  destination : Json
  actor : Json
  objectiveId : Json
  capability : Json
  payload : PyValue
  schema : Json
  authorityRef : Json
  policyRef : Json
  correlationId : Json
  epistemicNature : EpistemicNature
  analyticStatus : AnalyticStatus
  contextRefs : Json
  causationId : Json
  evidenceRefs : Json
  timestamp : Json
  ttlSeconds : Json
  signature : Json

structure CausalEnvelope where
  envelopeId : String
  source : String
  destination : String
  actor : String
  objectiveId : String
  capability : String
  payload : Frozen
  schema : String
  contextRefs : Json
  authorityRef : String
  policyRef : String
  correlationId : String
  causationId : Json
  timestamp : String
  ttlSeconds : Int
  expiresAt : String
  signature : Json
  evidenceRefs : Json
  epistemicNature : EpistemicNature
  analyticStatus : AnalyticStatus

def CausalEnvelope.asDict (e : CausalEnvelope) : List (String × Json) :=
  [("envelope_id", .str e.envelopeId), ("source", .str e.source), ("destination", .str e.destination),
    ("actor", .str e.actor), ("objective_id", .str e.objectiveId), ("capability", .str e.capability),
    ("payload", thawJson e.payload), ("schema", .str e.schema), ("context_refs", e.contextRefs),
    ("authority_ref", .str e.authorityRef), ("policy_ref", .str e.policyRef),
    ("correlation_id", .str e.correlationId), ("causation_id", e.causationId), ("timestamp", .str e.timestamp),
    ("ttl_seconds", .int e.ttlSeconds), ("expires_at", .str e.expiresAt), ("signature", e.signature),
    ("evidence_refs", e.evidenceRefs), ("epistemic_nature", .str e.epistemicNature.value),
    ("analytic_status", .str e.analyticStatus.value), ("protocol_version", .str protocolVersion)]

def ttlMessage : PyError := .valueError "ttl_seconds must be a positive integer"

def requireTtl : Json → Except PyError Int
  | .int ttl => if ttl ≤ 0 then .error ttlMessage else .ok ttl
  | _ => .error ttlMessage

def buildEnvelope (a : EnvelopeArguments) : Except PyError CausalEnvelope := do
  let source ← requireNonemptyString "source" a.source
  let destination ← requireNonemptyString "destination" a.destination
  let actor ← requireNonemptyString "actor" a.actor
  let objectiveId ← requireNonemptyString "objective_id" a.objectiveId
  let capability ← requireNonemptyString "capability" a.capability
  let schema ← requireNonemptyString "schema" a.schema
  let authorityRef ← requireNonemptyString "authority_ref" a.authorityRef
  let policyRef ← requireNonemptyString "policy_ref" a.policyRef
  let correlationId ← requireNonemptyString "correlation_id" a.correlationId
  let ttlSeconds ← requireTtl a.ttlSeconds
  let (observedTime, observedAt) ← canonicalizeTimestamp calendar clock a.timestamp
  let expires ← addSeconds observedTime ttlSeconds
  let expiresAt := calendar.isoformat expires
  let frozenPayload ← freezeJson a.payload
  let canonicalPayload := thawJson frozenPayload
  let identity : List (String × Json) :=
    [("protocol_version", .str protocolVersion), ("source", .str source), ("destination", .str destination),
      ("actor", .str actor), ("objective_id", .str objectiveId), ("capability", .str capability),
      ("schema", .str schema), ("authority_ref", .str authorityRef), ("policy_ref", .str policyRef),
      ("correlation_id", .str correlationId), ("payload", canonicalPayload), ("context_refs", a.contextRefs),
      ("causation_id", a.causationId), ("timestamp", .str observedAt), ("ttl_seconds", .int ttlSeconds),
      ("expires_at", .str expiresAt), ("evidence_refs", a.evidenceRefs),
      ("epistemic_nature", .str a.epistemicNature.value), ("analytic_status", .str a.analyticStatus.value)]
  return {
    envelopeId := stableHash host (.obj identity)
    source, destination, actor, objectiveId, capability
    payload := frozenPayload
    schema
    contextRefs := a.contextRefs
    authorityRef, policyRef, correlationId
    causationId := a.causationId
    timestamp := observedAt
    ttlSeconds, expiresAt
    signature := a.signature
    evidenceRefs := a.evidenceRefs
    epistemicNature := a.epistemicNature
    analyticStatus := a.analyticStatus }

def assertEnvelopeFresh (envelope : CausalEnvelope) (now : Option DateTime) : Except PyError Bool := do
  let current := now.getD (.ofUtc clock)
  match current.instant? with
  | none => throw (.valueError "now must include a timezone")
  | some instant =>
    let current ← utcOf instant
    let (expiry, _) ← canonicalizeTimestamp calendar clock (.str envelope.expiresAt)
    if expiry.1 ≤ current.1 then throw (.valueError "envelope has expired")
    return true

end

end MatVerse.Bridge
