import MatVerse.Core

/-! The governed organism: an evaluation gate, constraints promoted from blocked
evaluations under a signed grant, and an authenticated external state. Every
operation returns its result and the organism after it, or its exception; an
exception leaves the organism as it was. -/
namespace MatVerse

def schemaVersion : String := "matverse.organism-loop.v1"
def bindingVersion : String := "matverse.constitutional-binding.v1"
def authCapability : String := "organism.constraint.authorize"

structure GuardBinding where
  guardId : String
  functionName : String
  functionFingerprint : String
  semantics : String
  deriving DecidableEq

structure ConstraintCandidate where
  candidateId : String
  sourceEventId : String
  sourceReceiptHash : String
  generatorId : String
  matchJson : String
  reason : String
  deriving DecidableEq

structure AuthorizationGrant where
  principalId : String
  capability : String
  candidateId : String
  signature : String
  deriving DecidableEq

structure InheritedConstraint where
  constraintId : String
  candidateId : String
  sourceEventId : String
  sourceReceiptHash : String
  generatorId : String
  authorizerId : String
  authorizationCapability : String
  authorizationSignature : String
  matchJson : String
  reason : String
  authorityReceipt : String
  deriving DecidableEq

structure LoopResult where
  eventId : String
  decision : Decision
  reason : String
  matchedConstraintId : Option String
  stateRoot : String
  evidence : EvidenceReceipt
  deriving DecidableEq

def optionStr : Option String → Json
  | some s => .str s
  | none => .null

/-- `type(value).__name__`. -/
def typeName : Json → String
  | .null => "NoneType"
  | .bool _ => "bool"
  | .int _ => "int"
  | .float _ => "float"
  | .str _ => "str"
  | .arr _ => "list"
  | .obj _ => "dict"

def pyStr (host : Host) : Json → String
  | .null => "None"
  | .bool true => "True"
  | .bool false => "False"
  | .int i => String.ofList (NumberText.intLiteral i).text
  | .float .nan => "nan"
  | .float (.inf false) => "inf"
  | .float (.inf true) => "-inf"
  | .float (.finite negative m e _) => String.ofList (NumberText.floatLiteral negative m e).text
  | .str s => s
  | v => host.containerText v

/-! ## Constitutional binding -/

section
variable (host : Host)

/-- `_function_fingerprint`, where the source of the function can be inspected. -/
def functionFingerprint (module qualname : String) : String :=
  stableHash host (.dict [("module", .str module), ("qualname", .str qualname),
    ("source", .str (host.source (module ++ "." ++ qualname)))])

def coreArtifactFingerprint : String :=
  stableHash host (.dict [("module", .str "app.core"), ("source", .str (host.source "app.core"))])

def guardFingerprint (function : String) : String :=
  stableHash host (.dict [("core_artifact", .str (coreArtifactFingerprint host)),
    ("function", .str (functionFingerprint host "app.core" function))])

def canonicalGuardBindings : List GuardBinding :=
  [⟨"HDB_BOUNDARY", "app.core.evaluate_hdb", guardFingerprint host "evaluate_hdb",
      "human-data boundary is evaluated before admissibility"⟩,
    ⟨"OMEGA_ADMISSIBILITY", "app.core.omega_gate", guardFingerprint host "omega_gate",
      "ontology, HDB, signature, and transition checks gate critical actions"⟩]

def GuardBinding.toJson (b : GuardBinding) : Json :=
  .dict [("guard_id", .str b.guardId), ("function_name", .str b.functionName),
    ("function_fingerprint", .str b.functionFingerprint), ("semantics", .str b.semantics)]

/-- `gate_fingerprint` over the canonical bindings, whose ids are distinct. -/
def gateFingerprint : String :=
  stableHash host (.dict [("binding_version", .str bindingVersion),
    ("guards", .arr ((canonicalGuardBindings host).map GuardBinding.toJson))])

def isHexChar (c : Char) : Bool :=
  c.isDigit || (97 ≤ c.toNat && c.toNat ≤ 102) || (65 ≤ c.toNat && c.toNat ≤ 70)

/-- `_SHA256_RE.fullmatch`. -/
def isSha256Hex (text : String) : Bool := text.length == 64 && text.toList.all isHexChar

def constitutionalContractHash (frozenContractHash : String) : Except PyError String :=
  if isSha256Hex frozenContractHash then
    .ok (stableHash host (.dict [("schema", .str bindingVersion),
      ("frozen_contract_hash", .str frozenContractHash.toLower),
      ("gate_fingerprint", .str (gateFingerprint host))]))
  else .error (.valueError "frozen_contract_hash must be exactly 64 hexadecimal characters")

end

/-- `key in proposal and proposal[key] == value`. -/
def hasPair (proposal : Json) (p : String × Json) : Bool :=
  match proposal.get? p.1 with
  | some w => w.pyEq p.2
  | none => false

/-- `_matches`: every pair of a nonempty match is in the proposal. -/
def matchesProposal (matchJson : String) (proposal : Json) : Except PyError Bool :=
  match JsonText.loads matchJson with
  | none => .error .jsonDecodeError
  | some v =>
    if !v.truthy then .ok false
    else
      match v with
      | .obj entries => .ok (entries.all (hasPair proposal))
      | v => .error (.attributeError ("'" ++ typeName v ++ "' object has no attribute 'items'"))

def grantPayload (principalId capability candidateId : String) : String :=
  principalId ++ "\n" ++ capability ++ "\n" ++ candidateId

def signAuthorizationGrant (host : Host) (secret principalId candidateId : String) :
    Except PyError AuthorizationGrant :=
  if secret == "" || principalId == "" || candidateId == "" then
    .error (.valueError "secret, principal_id, and candidate_id are required")
  else
    .ok ⟨principalId, authCapability, candidateId,
      hmacText host secret (grantPayload principalId authCapability candidateId)⟩

/-! ## The organism -/

/-- What an organism is constructed with; no operation changes it. -/
structure Identity where
  organismId : String
  runtimeId : String
  frozenContractHash : String
  stateSecret : String
  authoritySecrets : List (String × String)
  gateFingerprint : String
  constitutionalContractHash : String

structure GovernedOrganism where
  identity : Identity
  /-- Keyed by constraint id; the code reads them in key order only. -/
  constraints : List (String × InheritedConstraint)
  lineage : List Json
  stateGeneration : Nat
  cachedStateRoot : Option String
  cachedStateGeneration : Int

def InheritedConstraint.toJson (c : InheritedConstraint) : Json :=
  .dict [("constraint_id", .str c.constraintId), ("candidate_id", .str c.candidateId),
    ("source_event_id", .str c.sourceEventId), ("source_receipt_hash", .str c.sourceReceiptHash),
    ("generator_id", .str c.generatorId), ("authorizer_id", .str c.authorizerId),
    ("authorization_capability", .str c.authorizationCapability),
    ("authorization_signature", .str c.authorizationSignature),
    ("match_json", .str c.matchJson), ("reason", .str c.reason),
    ("authority_receipt", .str c.authorityReceipt)]

def constraintFields : List String :=
  ["constraint_id", "candidate_id", "source_event_id", "source_receipt_hash", "generator_id",
    "authorizer_id", "authorization_capability", "authorization_signature", "match_json", "reason",
    "authority_receipt"]

/-- A required keyword argument of a dataclass, typed as its annotation says. -/
def strField (v : Json) (key : String) : Except PyError String :=
  match v.get? key with
  | some (.str s) => .ok s
  | some w => .error (.typeError ("field " ++ key ++ " must be str, not " ++ typeName w))
  | none => .error (.typeError ("InheritedConstraint.__init__() missing argument: '" ++ key ++ "'"))

/-- `InheritedConstraint(**item_raw)`. -/
def InheritedConstraint.ofJson (v : Json) : Except PyError InheritedConstraint :=
  match v with
  | .obj entries =>
    match entries.find? (fun p => !constraintFields.contains p.1) with
    | some p => .error (.typeError
        ("InheritedConstraint.__init__() got an unexpected keyword argument '" ++ p.1 ++ "'"))
    | none => do
      let constraintId ← strField v "constraint_id"
      let candidateId ← strField v "candidate_id"
      let sourceEventId ← strField v "source_event_id"
      let sourceReceiptHash ← strField v "source_receipt_hash"
      let generatorId ← strField v "generator_id"
      let authorizerId ← strField v "authorizer_id"
      let capability ← strField v "authorization_capability"
      let signature ← strField v "authorization_signature"
      let matchJson ← strField v "match_json"
      let reason ← strField v "reason"
      let authorityReceipt ← strField v "authority_receipt"
      return ⟨constraintId, candidateId, sourceEventId, sourceReceiptHash, generatorId, authorizerId,
        capability, signature, matchJson, reason, authorityReceipt⟩
  | v => .error (.typeError
      ("app.organism_loop.InheritedConstraint() argument after ** must be a mapping, not " ++ typeName v))

namespace GovernedOrganism

section
variable (host : Host)

def markStateMutated (o : GovernedOrganism) : GovernedOrganism :=
  { o with stateGeneration := o.stateGeneration + 1, cachedStateRoot := none }

/-- `state_payload`, in the order of its keys in the source. -/
def statePayload (o : GovernedOrganism) : Mapping :=
  [("schema", .str schemaVersion),
    ("organism_id", .str o.identity.organismId),
    ("constitutional_contract_hash", .str o.identity.constitutionalContractHash),
    ("gate_fingerprint", .str o.identity.gateFingerprint),
    ("constraints", .arr (o.constraints.map (fun p => p.2.toJson))),
    ("lineage", jsonClone (.arr o.lineage))]

def stateMac (o : GovernedOrganism) (payload : Json) : String :=
  hmacText host o.identity.stateSecret (canonicalJson payload)

/-- `state_root`: recomputed only when the generation moved since it was cached. -/
def stateRoot (o : GovernedOrganism) : String × GovernedOrganism :=
  match o.cachedStateRoot with
  | some root =>
    if o.cachedStateGeneration = o.stateGeneration then (root, o)
    else
      let root := stableHash host (.dict o.statePayload)
      (root, { o with cachedStateRoot := some root, cachedStateGeneration := o.stateGeneration })
  | none =>
    let root := stableHash host (.dict o.statePayload)
    (root, { o with cachedStateRoot := some root, cachedStateGeneration := o.stateGeneration })

def exportState (o : GovernedOrganism) : Mapping × GovernedOrganism :=
  let payload := o.statePayload
  let (root, o) := o.stateRoot host
  (payload ++ [("state_root", .str root), ("state_mac", .str (o.stateMac host (.dict payload)))], o)

/-! ### Grants -/

def verifyGrant (o : GovernedOrganism) (grant : AuthorizationGrant) (candidateId : String) :
    Except PyError Unit :=
  if grant.capability != authCapability || grant.candidateId != candidateId then
    .error (.permissionError "authorization grant does not cover this candidate")
  else
    match Dict.get? grant.principalId o.identity.authoritySecrets with
    | none => .error (.permissionError "unknown authorization principal")
    | some secret => do
      let expected := hmacText host secret (grantPayload grant.principalId grant.capability candidateId)
      if ← compareDigest expected grant.signature then return ()
      else .error (.permissionError "invalid authorization grant signature")

/-- The fields a constraint's authority receipt commits to. -/
def constraintCore (contractHash : String) (c : InheritedConstraint) : Mapping :=
  [("candidate_id", .str c.candidateId), ("source_event_id", .str c.sourceEventId),
    ("source_receipt_hash", .str c.sourceReceiptHash), ("generator_id", .str c.generatorId),
    ("authorizer_id", .str c.authorizerId),
    ("authorization_capability", .str c.authorizationCapability),
    ("authorization_signature", .str c.authorizationSignature),
    ("match_json", .str c.matchJson), ("reason", .str c.reason),
    ("constitutional_contract_hash", .str contractHash)]

def authorityReceiptOf (core : Mapping) : String :=
  (evidenceReceipt host "CONSTRAINT_AUTHORIZATION" (.dict core)
    (.dict [("decision", .str "PROMOTE")])).receiptHash

def constraintIdOf (core : Mapping) (receipt : String) : String :=
  stableHash host (.dict (core ++ [("authority_receipt", .str receipt)]))

def validateConstraint (o : GovernedOrganism) (c : InheritedConstraint) : Except PyError Unit := do
  o.verifyGrant host
    ⟨c.authorizerId, c.authorizationCapability, c.candidateId, c.authorizationSignature⟩ c.candidateId
  let core := constraintCore o.identity.constitutionalContractHash c
  let expectedReceipt := authorityReceiptOf host core
  if c.authorityReceipt != expectedReceipt then
    .error (.valueError "constraint authority receipt mismatch")
  else if c.constraintId != constraintIdOf host core expectedReceipt then
    .error (.valueError "constraint id mismatch")
  else if c.authorizerId == c.generatorId then
    .error (.valueError "constraint violates generator/authorizer separation")
  else return ()

/-! ### Lineage -/

def isEvaluation (item : Json) : Bool := isStr (item.get? "type") "EVALUATION"

def isEvaluationOf (eventId : String) (item : Json) : Bool :=
  isEvaluation item && isStr (item.get? "event_id") eventId

/-- The decision of a lineage item, checked by membership in a set of texts. -/
def checkDecision (item : Json) : Except PyError Unit :=
  match item.get? "decision" with
  | some (.arr _) => .error (.typeError "unhashable type: 'list'")
  | some (.obj _) => .error (.typeError "unhashable type: 'dict'")
  | some (.str s) =>
    if decisionValues.contains s then .ok ()
    else .error (.valueError "invalid evaluation decision in lineage")
  | _ => .error (.valueError "invalid evaluation decision in lineage")

def isText : Option Json → Bool
  | some (.str _) => true
  | _ => false

def checkEvaluation (item : Json) : Except PyError Unit := do
  checkDecision item
  if !((item.get? "proposal").elim false Json.isObj) then
    throw (.valueError "evaluation proposal missing from lineage")
  if !isText (item.get? "receipt_hash") then
    throw (.valueError "evaluation receipt hash missing from lineage")

def validateLineage (seen : List String) : List Json → Except PyError Unit
  | [] => .ok ()
  | item :: rest =>
    if !item.isObj then
      .error (.attributeError ("'" ++ typeName item ++ "' object has no attribute 'get'"))
    else if !isEvaluation item then validateLineage seen rest
    else
      match item.get? "event_id" with
      | some (.str eventId) =>
        if eventId == "" then .error (.valueError "invalid evaluation event id in lineage")
        else if seen.contains eventId then
          .error (.valueError "duplicate evaluation event id in lineage")
        else do
          checkEvaluation item
          validateLineage (eventId :: seen) rest
      | _ => .error (.valueError "invalid evaluation event id in lineage")

/-! ### Construction and restoration -/

def restoreConstraints (o : GovernedOrganism) : List Json → Except PyError GovernedOrganism
  | [] => .ok o
  | raw :: rest => do
    let c ← InheritedConstraint.ofJson raw
    o.validateConstraint host c
    restoreConstraints { o with constraints := Dict.insert c.constraintId c o.constraints } rest

def listField (raw : Json) (key : String) : Except PyError (List Json) :=
  match raw.get? key with
  | none => .ok []
  | some (.arr items) => .ok items
  | some _ => .error (.valueError (key ++ " must be a list"))

/-- The supplied MAC is a text and equals the expected one. -/
def authenticates (expected : String) : Option Json → Except PyError Bool
  | some (.str mac) => compareDigest expected mac
  | _ => .ok false

/-- `_restore` of an exported state. -/
def restore (o : GovernedOrganism) (state : Mapping) : Except PyError GovernedOrganism := do
  let cloned := (jsonClone (.obj state)).entries
  let suppliedMac := Dict.get? "state_mac" cloned
  let suppliedRoot := Dict.get? "state_root" cloned
  let raw := Json.obj (Dict.erase "state_root" (Dict.erase "state_mac" cloned))
  if !(← authenticates (o.stateMac host raw) suppliedMac) then
    throw (.valueError "state authentication failed")
  if !isStr (raw.get? "schema") schemaVersion then
    throw (.valueError "unsupported organism state schema")
  if !isStr (raw.get? "organism_id") o.identity.organismId then
    throw (.valueError "organism identity mismatch")
  if !isStr (raw.get? "constitutional_contract_hash") o.identity.constitutionalContractHash then
    throw (.valueError "constitutional contract mismatch")
  let constraints ← listField raw "constraints"
  let o ← o.restoreConstraints host constraints
  let lineage ← listField raw "lineage"
  let o := { o with lineage := lineage.map jsonClone }
  validateLineage [] o.lineage
  let (root, o) := o.stateRoot host
  if !isStr suppliedRoot root then throw (.valueError "state root mismatch")
  return o

/-- The fields `__init__` sets before it restores a state. -/
def blank (identity : Identity) : GovernedOrganism where
  identity := identity
  constraints := []
  lineage := []
  stateGeneration := 0
  cachedStateRoot := none
  cachedStateGeneration := -1

/-- `GovernedOrganism(...)`. -/
def create (organismId frozenContractHash runtimeId stateSecret : String)
    (authoritySecrets : List (String × String)) (state : Option Mapping) :
    Except PyError GovernedOrganism := do
  if organismId == "" || runtimeId == "" || stateSecret == "" then
    throw (.valueError "organism_id, runtime_id, and state_secret are required")
  let secrets := Dict.ofPairs authoritySecrets
  if secrets.isEmpty || secrets.any (fun p => p.1 == "" || p.2 == "") then
    throw (.valueError "authority_secrets must contain non-empty principal secrets")
  let contractHash ← MatVerse.constitutionalContractHash host frozenContractHash
  let o := blank ⟨organismId, runtimeId, frozenContractHash, stateSecret, secrets,
    MatVerse.gateFingerprint host, contractHash⟩
  match state with
  | none => return o
  | some state => o.restore host state

/-! ### Operations -/

/-- `_evaluation`: the one lineage item of an event. -/
def evaluation (o : GovernedOrganism) (eventId : String) : Except PyError Json :=
  match o.lineage.filter (isEvaluationOf eventId) with
  | [item] => .ok (jsonClone item)
  | _ => .error (.valueError "source event must identify exactly one prior evaluation")

def getItem (v : Json) (key : String) : Except PyError Json :=
  match v.get? key with
  | some w => .ok w
  | none => .error (.keyError key)

def candidateIdOf (sourceEventId sourceReceiptHash generatorId matchJson reason : String) : String :=
  stableHash host (.dict [("schema", .str schemaVersion), ("source_event_id", .str sourceEventId),
    ("source_receipt_hash", .str sourceReceiptHash), ("generator_id", .str generatorId),
    ("match_json", .str matchJson), ("reason", .str reason)])

/-- `dict.get` gives `None`: the key is missing or holds it. -/
def isAbsent : Option Json → Bool
  | none => true
  | some .null => true
  | some _ => false

def matchOf (proposal : Json) (causalKeys : List String) : Mapping :=
  causalKeys.filterMap (fun key => (proposal.get? key).map (fun v => (key, v)))

def observeRejection (o : GovernedOrganism) (eventId generatorId : String) (causalKeys : List String) :
    Except PyError ConstraintCandidate := do
  if eventId == "" || generatorId == "" then
    throw (.valueError "event_id and generator_id are required")
  let source ← o.evaluation eventId
  let decision ← getItem source "decision"
  if !decision.pyEq (.str Decision.block.value) then
    throw (.valueError "source event is not a verified BLOCK rejection")
  if !isAbsent (source.get? "matched_constraint_id") then
    throw (.valueError "an inherited BLOCK cannot recursively seed another constraint")
  let proposal ← getItem source "proposal"
  let causal := matchOf proposal causalKeys
  if causal.isEmpty then throw (.valueError "causal attribution produced an empty match")
  let matchJson := canonicalJson (.dict causal)
  let reason ← getItem source "reason"
  let receipt ← getItem source "receipt_hash"
  let reason := pyStr host reason
  let receipt := pyStr host receipt
  return ⟨candidateIdOf host eventId receipt generatorId matchJson reason, eventId, receipt, generatorId,
    matchJson, reason⟩

def promote (o : GovernedOrganism) (candidate : ConstraintCandidate) (grant : AuthorizationGrant) :
    InheritedConstraint :=
  let unsealed : InheritedConstraint :=
    ⟨"", candidate.candidateId, candidate.sourceEventId, candidate.sourceReceiptHash,
      candidate.generatorId, grant.principalId, grant.capability, grant.signature, candidate.matchJson,
      candidate.reason, ""⟩
  let core := constraintCore o.identity.constitutionalContractHash unsealed
  let receipt := authorityReceiptOf host core
  { unsealed with constraintId := constraintIdOf host core receipt, authorityReceipt := receipt }

def promotedRecord (c : InheritedConstraint) : Json :=
  .dict [("type", .str "CONSTRAINT_PROMOTED"), ("source_event_id", .str c.sourceEventId),
    ("source_receipt_hash", .str c.sourceReceiptHash), ("constraint_id", .str c.constraintId),
    ("authorizer_id", .str c.authorizerId)]

/-- What `authorize_constraint` checks of a candidate and its grant. -/
def checkCandidate (o : GovernedOrganism) (candidate : ConstraintCandidate) (grant : AuthorizationGrant) :
    Except PyError Unit := do
  o.verifyGrant host grant candidate.candidateId
  if grant.principalId == candidate.generatorId then
    throw (.permissionError "generator cannot authorize its own inherited constraint")
  let source ← o.evaluation candidate.sourceEventId
  let decision ← getItem source "decision"
  if !decision.pyEq (.str Decision.block.value) then
    throw (.valueError "candidate is not bound to a verified local rejection")
  let receipt ← getItem source "receipt_hash"
  if !receipt.pyEq (.str candidate.sourceReceiptHash) then
    throw (.valueError "candidate is not bound to a verified local rejection")

def authorizeConstraint (o : GovernedOrganism) (candidate : ConstraintCandidate)
    (grant : AuthorizationGrant) : Except PyError (InheritedConstraint × GovernedOrganism) := do
  o.checkCandidate host candidate grant
  let c := o.promote host candidate grant
  return (c, markStateMutated { o with
    constraints := Dict.insert c.constraintId c o.constraints
    lineage := o.lineage ++ [promotedRecord c] })

structure EvaluateArgs where
  eventId : String
  proposal : Mapping
  human : Option Mapping
  ontologyOk : Bool
  signatureValid : Bool
  transitionValid : Bool

/-- The first constraint, in key order, whose match the proposal contains. -/
def firstMatch (proposal : Json) :
    List (String × InheritedConstraint) → Except PyError (Option InheritedConstraint)
  | [] => .ok none
  | (_, c) :: rest => do
    if ← matchesProposal c.matchJson proposal then return some c else firstMatch proposal rest

/-- The decision, its reason and the constraint that caused it. -/
def gateDecision (constraint : Option InheritedConstraint) (proposal : Json) (human : Option Json)
    (args : EvaluateArgs) : Decision × String × Option String :=
  match constraint with
  | some c => (.block, "inherited constraint: " ++ c.reason, some c.constraintId)
  | none =>
    let (decision, reason) := omegaGate (evaluateHdb human)
      (pyStr host ((proposal.get? "action").getD (.str "")))
      args.ontologyOk args.signatureValid args.transitionValid
    (decision, reason, none)

def gateInputs (human : Option Json) (args : EvaluateArgs) : Json :=
  .dict [("human", human.getD .null), ("ontology_ok", .bool args.ontologyOk),
    ("signature_valid", .bool args.signatureValid), ("transition_valid", .bool args.transitionValid)]

def eventCore (o : GovernedOrganism) (eventId : String) (proposal gateInputs : Json) (decision : Decision)
    (reason : String) (matchedId : Option String) (before : String) : Json :=
  .dict [("event_id", .str eventId), ("runtime_id", .str o.identity.runtimeId), ("proposal", proposal),
    ("gate_inputs", gateInputs), ("decision", .str decision.value), ("reason", .str reason),
    ("matched_constraint_id", optionStr matchedId), ("state_root_before", .str before),
    ("constitutional_contract_hash", .str o.identity.constitutionalContractHash)]

def evaluationRecord (runtimeId eventId : String) (proposal gateInputs : Json) (decision : Decision)
    (reason : String) (matchedId : Option String) (receiptHash : String) : Json :=
  .dict [("type", .str "EVALUATION"), ("event_id", .str eventId), ("runtime_id", .str runtimeId),
    ("proposal", proposal), ("gate_inputs", gateInputs), ("decision", .str decision.value),
    ("reason", .str reason), ("matched_constraint_id", optionStr matchedId),
    ("receipt_hash", .str receiptHash)]

/-- What follows the choice of a matching constraint in `evaluate`. -/
def recordEvaluation (o : GovernedOrganism) (args : EvaluateArgs) (proposal : Json) (human : Option Json)
    (matched : Option InheritedConstraint) : LoopResult × GovernedOrganism :=
  let (decision, reason, matchedId) := gateDecision host matched proposal human args
  let (before, o) := o.stateRoot host
  let inputs := gateInputs human args
  let receipt := evidenceReceipt host "ORGANISM_EVALUATION"
    (o.eventCore args.eventId proposal inputs decision reason matchedId before)
    (.dict [("decision", .str decision.value), ("reason", .str reason)])
  let o := markStateMutated { o with lineage := o.lineage ++
    [evaluationRecord o.identity.runtimeId args.eventId proposal inputs decision reason matchedId
      receipt.receiptHash] }
  let (root, o) := o.stateRoot host
  (⟨args.eventId, decision, reason, matchedId, root, receipt⟩, o)

def evaluate (o : GovernedOrganism) (args : EvaluateArgs) :
    Except PyError (LoopResult × GovernedOrganism) := do
  if args.eventId == "" then throw (.valueError "event_id is required")
  if o.lineage.any (isEvaluationOf args.eventId) then throw (.valueError "event_id must be unique")
  let proposal := jsonClone (.obj args.proposal)
  let human := args.human.map (fun h => jsonClone (.obj h))
  let matched ← firstMatch proposal o.constraints
  return o.recordEvaluation host args proposal human matched

/-! ### Runs -/

inductive Op where
  | evaluate (args : EvaluateArgs)
  | observe (eventId generatorId : String) (causalKeys : List String)
  | authorize (candidate : ConstraintCandidate) (grant : AuthorizationGrant)

inductive OpResult where
  | evaluated (result : LoopResult)
  | observed (candidate : ConstraintCandidate)
  | authorized (constraint : InheritedConstraint)
  | raised (error : PyError)
  deriving DecidableEq

/-- One call, succeeding or failing. -/
def apply (o : GovernedOrganism) : Op → OpResult × GovernedOrganism
  | .evaluate args =>
    match o.evaluate host args with
    | .ok (result, o') => (.evaluated result, o')
    | .error e => (.raised e, o)
  | .observe eventId generatorId causalKeys =>
    match o.observeRejection host eventId generatorId causalKeys with
    | .ok candidate => (.observed candidate, o)
    | .error e => (.raised e, o)
  | .authorize candidate grant =>
    match o.authorizeConstraint host candidate grant with
    | .ok (c, o') => (.authorized c, o')
    | .error e => (.raised e, o)

/-- The calls as a transition relation. -/
def Calls (o : GovernedOrganism) (op : Op) (o' : GovernedOrganism) : Prop := o' = (o.apply host op).2

end

end GovernedOrganism

end MatVerse
