import MatVerse.Ledger

/-! The events that the application appends on its own: the bridge ingress, the
handoffs it rejects, the federation routes and the provider calls. -/
namespace MatVerse

/-! ## Bridge -/

structure Ingress where
  payload : Mapping
  action : String
  human : Option Json
  source : String
  requestId : String

inductive POState where
  | evaluating
  | pass
  | fail
  deriving DecidableEq

def POState.value : POState → String
  | .evaluating => "PO_EVALUATING"
  | .pass => "PO_PASS"
  | .fail => "PO_FAIL"

def poState : Decision → POState
  | .pass => .pass
  | .block => .fail
  | .hold => .evaluating

def verdictJson (decision : Decision) (reason : String) : Json :=
  .dict [("decision", .str decision.value), ("reason", .str reason)]

namespace Ingress

def hdb (req : Ingress) : HDBResult := evaluateHdb req.human

def gate (req : Ingress) : Decision × String := omegaGate req.hdb req.action true true true

def retainsPayload (req : Ingress) : Bool := req.gate.1 == .pass && req.human.isNone

def event (host : Host) (req : Ingress) (principalId : String) : Mapping :=
  [("request_id", .str req.requestId), ("principal_id", .str principalId), ("source", .str req.source),
    ("action", .str req.action), ("payload_hash", .str (stableHash host (.dict req.payload))),
    ("payload_retained", .bool req.retainsPayload), ("hdb", verdictJson req.hdb.decision req.hdb.reason),
    ("gate", verdictJson req.gate.1 req.gate.2), ("po_state", .str (poState req.gate.1).value)] ++
  if req.retainsPayload then [("payload", .dict req.payload)] else []

end Ingress

structure HandoffRequest where
  sessionId : String
  fromParticipant : String
  toParticipant : String
  payload : Mapping
  expectedContractHash : String
  human : Option Json

namespace HandoffRequest

def gate (req : HandoffRequest) : Decision × String :=
  omegaGate (evaluateHdb req.human) "PROVIDER_EXPOSURE" true true true

/-- The event of a handoff the gate did not pass. -/
def rejectedEvent (host : Host) (req : HandoffRequest) : Mapping :=
  [("event_type", .str "MODEL_BRIDGE_HANDOFF_REJECTED"), ("session_id", .str req.sessionId),
    ("from_participant", .str req.fromParticipant), ("to_participant", .str req.toParticipant),
    ("payload_hash", .str (stableHash host (.dict req.payload))),
    ("contract_hash", .str req.expectedContractHash), ("gate", verdictJson req.gate.1 req.gate.2)]

end HandoffRequest

def federationRouteEvent (principalId routeReceipt : String) (evidence : EvidenceReceipt) : Mapping :=
  [("event_type", .str "FEDERATION_ROUTE"), ("principal_id", .str principalId),
    ("route_receipt_sha256", .str routeReceipt), ("evidence_receipt", evidence.toJson)]

/-! ## Provider -/

def openaiRuntimeProtocol : String := "matverse.provider.openai.v1"

def configurationHoldEvent (principalId reason : String) : Mapping :=
  [("event_type", .str "OPENAI_PROVIDER_CONFIGURATION_HOLD"), ("principal_id", .str principalId),
    ("protocol", .str openaiRuntimeProtocol), ("credential_mode", .str "secret_plane"), ("reason", .str reason)]

/-- An `OpenAIProviderError`; what the provider left out is null. -/
structure ProviderFailure where
  statusCode : Json
  requestId : Json
  providerCode : Json

def ProviderFailure.event (failure : ProviderFailure) (principalId : String) : Mapping :=
  [("event_type", .str "OPENAI_PROVIDER_FAILURE"), ("principal_id", .str principalId),
    ("protocol", .str openaiRuntimeProtocol), ("provider", .str "openai"),
    ("credential_mode", .str "secret_plane"), ("status_code", failure.statusCode),
    ("provider_request_id", failure.requestId), ("provider_code", failure.providerCode)]

def secretPlaneHoldEvent (principalId errorType : String) : Mapping :=
  [("event_type", .str "OPENAI_SECRET_PLANE_HOLD"), ("principal_id", .str principalId),
    ("protocol", .str openaiRuntimeProtocol), ("provider", .str "openai"),
    ("credential_mode", .str "secret_plane"), ("error_type", .str errorType)]

/-- What the broker answers: its decision and the fields of its result. -/
structure BrokerResult where
  decision : Decision
  reason : String
  fields : Mapping

namespace BrokerResult

/-- `result.get(key, default)`. -/
def get (result : BrokerResult) (key : String) (default : Json) : Json :=
  ((Json.dict result.fields).get? key).getD default

def auditableInput (result : BrokerResult) (principalId : String) (humanDeclared : Bool) : Mapping :=
  [("protocol", .str openaiRuntimeProtocol), ("principal_id", .str principalId), ("provider", .str "openai"),
    ("credential_mode", .str "secret_plane"), ("secret_id", result.get "secret_id" .null),
    ("secret_version", result.get "secret_version" .null), ("model", result.get "model" .null),
    ("request_hash", result.get "request_hash" .null), ("human_boundary_declared", .bool humanDeclared)]

def auditableOutput (result : BrokerResult) : Mapping :=
  [("response_id", result.get "response_id" .null), ("model", result.get "model" .null),
    ("response_hash", result.get "response_hash" .null), ("usage", result.get "usage" (.obj [])),
    ("provider_request_id", result.get "provider_request_id" .null), ("lease_id", result.get "lease_id" .null)]

def exposureRejectedEvent (result : BrokerResult) (principalId : String) (humanDeclared : Bool) : Mapping :=
  [("event_type", .str "OPENAI_PROVIDER_EXPOSURE_REJECTED")] ++ result.auditableInput principalId humanDeclared ++
    [("gate", verdictJson result.decision result.reason),
      ("secret_disclosed", result.get "secret_disclosed" (.bool false))]

def responseEvent (host : Host) (result : BrokerResult) (principalId : String) (humanDeclared : Bool) : Mapping :=
  let input := result.auditableInput principalId humanDeclared
  [("event_type", .str "OPENAI_RESPONSE")] ++ input ++ result.auditableOutput ++
    [("evidence_receipt",
      (evidenceReceipt host "OPENAI_RESPONSE" (.dict input) (.dict result.auditableOutput)).toJson)]

/-- The event and the decision of a call the broker answered. -/
def record (host : Host) (result : BrokerResult) (principalId : String) (humanDeclared : Bool) : Mapping × Decision :=
  match result.decision with
  | .pass => (result.responseEvent host principalId humanDeclared, .pass)
  | decision => (result.exposureRejectedEvent principalId humanDeclared, decision)

end BrokerResult

/-! ## Callers of `append_event` -/

inductive AppEvent where
  | ingress (req : Ingress) (principalId : String)
  | handoffRejected (req : HandoffRequest) (rejected : req.gate.1 ≠ .pass)
  | federationRoute (principalId routeReceipt : String) (evidence : EvidenceReceipt)
  | configurationHold (principalId reason : String)
  | providerFailure (failure : ProviderFailure) (principalId : String)
  | secretPlaneHold (principalId errorType : String)
  | providerAnswer (result : BrokerResult) (principalId : String) (humanDeclared : Bool)

def AppEvent.record (host : Host) : AppEvent → Mapping × Decision
  | .ingress req principalId => (req.event host principalId, req.gate.1)
  | .handoffRejected req _ => (req.rejectedEvent host, req.gate.1)
  | .federationRoute principalId routeReceipt evidence =>
    (federationRouteEvent principalId routeReceipt evidence, .pass)
  | .configurationHold principalId reason => (configurationHoldEvent principalId reason, .hold)
  | .providerFailure failure principalId => (failure.event principalId, .hold)
  | .secretPlaneHold principalId errorType => (secretPlaneHoldEvent principalId errorType, .hold)
  | .providerAnswer result principalId humanDeclared => result.record host principalId humanDeclared

end MatVerse
