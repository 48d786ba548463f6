import MatVerse.OrganismState
import MatVerse.Lib.Hoare
import MatVerse.Lib.JsonTexts

/-! The organism statement by statement: an exception leaves whatever the statements
before it have done. The exceptions of `json.dumps` on an argument, of its recursion into
a nested value and of the UTF-8 encoding before each hash are part of the run; a text may
hold characters, such as lone surrogates, that do not encode. -/
namespace MatVerse.GovernedOrganism.Statements

abbrev Call (α : Type) := EStateM PyError GovernedOrganism α

/-- A mapping argument, or what `json.dumps` raises on it. -/
abbrev Argument := Except PyError Mapping

/-- How deep `json.dumps` goes into a value. -/
def nested (v : Json) : Nat := v.norm.depth

section
variable (host : Host) (encodes : Char → Bool) (room : Nat)

def lift {α : Type} : Except PyError α → Call α
  | .ok a => pure a
  | .error e => throw e

/-- Irreducible, so that a proof about a call does not evaluate the text it encodes. -/
@[irreducible] def encodable (text : String) : Bool := text.toList.all encodes

/-- `text.encode("utf-8")`. -/
def encode (text : String) : Call Unit :=
  if encodable encodes text then pure () else throw (.valueError "surrogates not allowed")

def digest (text : String) : Call String := do
  encode encodes text
  return sha256Text host text

/-- `json.dumps` in a function `level` calls below the method. A method that calls it
itself has room for `room` levels of nesting; each call in between takes one of them. -/
def dumps (level : Nat) (v : Json) : Call String :=
  if level + nested v ≤ room then pure (canonicalJson v)
  else throw (.recursionError "maximum recursion depth exceeded while encoding a JSON object")

def stableHash (level : Nat) (v : Json) : Call String := do
  let text ← dumps room (level + 1) v
  digest host encodes text

def evidenceReceipt (level : Nat) (eventType : String) (inputs outputs : Json) : Call EvidenceReceipt := do
  let inputText ← dumps room (level + 2) inputs
  encode encodes inputText
  let outputText ← dumps room (level + 2) outputs
  encode encodes outputText
  return MatVerse.evidenceReceipt host eventType inputs outputs

/-- `_json_clone(value)`. `json.loads` reads whatever nesting `json.dumps` wrote. -/
def cloneJson (level : Nat) (v : Json) : Call Json := do
  let _ ← dumps room (level + 2) v
  return jsonClone v

/-- `_json_clone(dict(value))`. -/
def clone (level : Nat) (value : Argument) : Call Json := do
  let pairs ← lift value
  cloneJson room level (.obj pairs)

/-! ## The root -/

/-- `state_payload()`, called from `level`. -/
def statePayload (level : Nat) : Call Mapping := do
  let o ← get
  let _ ← cloneJson room (level + 1) (.arr o.lineage)
  return o.statePayload

def refreshRoot (level : Nat) : Call String := do
  let payload ← statePayload room level
  let root ← stableHash host encodes room level (.dict payload)
  modify fun o => { o with cachedStateRoot := some root, cachedStateGeneration := o.stateGeneration }
  return root

/-- `state_root()`, itself at `level`. -/
def stateRoot (level : Nat) : Call String := do
  let o ← get
  match o.cachedStateRoot with
  | some root =>
    if o.cachedStateGeneration = o.stateGeneration then return root else refreshRoot host encodes room level
  | none => refreshRoot host encodes room level

def stateMac (level : Nat) (payload : Json) : Call String := do
  let o ← get
  encode encodes o.identity.stateSecret
  let text ← dumps room (level + 2) payload
  encode encodes text
  return o.stateMac host payload

def exportState : Call Mapping := do
  let payload ← statePayload room 0
  let root ← stateRoot host encodes room 1
  let mac ← stateMac host encodes room 0 (.dict payload)
  return payload ++ [("state_root", .str root), ("state_mac", .str mac)]

/-! ## Grants and constraints -/

def verifyGrant (grant : AuthorizationGrant) (candidateId : String) : Call Unit := do
  if grant.capability != authCapability || grant.candidateId != candidateId then
    throw (.permissionError "authorization grant does not cover this candidate")
  let o ← get
  match Dict.get? grant.principalId o.identity.authoritySecrets with
  | none => throw (.permissionError "unknown authorization principal")
  | some secret =>
    let payload := grantPayload grant.principalId grant.capability candidateId
    encode encodes secret
    encode encodes payload
    let same ← lift (compareDigest (hmacText host secret payload) grant.signature)
    if !same then throw (.permissionError "invalid authorization grant signature")

/-- At level 2: the constructor restores. -/
def validateConstraint (c : InheritedConstraint) : Call Unit := do
  verifyGrant host encodes
    ⟨c.authorizerId, c.authorizationCapability, c.candidateId, c.authorizationSignature⟩ c.candidateId
  let o ← get
  let core := constraintCore o.identity.constitutionalContractHash c
  let expected ← evidenceReceipt host encodes room 2 "CONSTRAINT_AUTHORIZATION" (.dict core)
    (.dict [("decision", .str "PROMOTE")])
  if c.authorityReceipt != expected.receiptHash then
    throw (.valueError "constraint authority receipt mismatch")
  let expectedId ← stableHash host encodes room 2 (.dict (core ++ [("authority_receipt", .str expected.receiptHash)]))
  if c.constraintId != expectedId then throw (.valueError "constraint id mismatch")
  if c.authorizerId == c.generatorId then
    throw (.valueError "constraint violates generator/authorizer separation")

/-! ## Restoration -/

def restoreConstraints : List Json → Call Unit
  | [] => pure ()
  | raw :: rest => do
    let c ← lift (InheritedConstraint.ofJson raw)
    validateConstraint host encodes room c
    modify fun o => { o with constraints := Dict.insert c.constraintId c o.constraints }
    restoreConstraints rest

def authenticate (raw : Json) : Option Json → Call Bool
  | some (.str mac) => do
    let expected ← stateMac host encodes room 1 raw
    lift (compareDigest expected mac)
  | _ => return false

/-- `_restore`, on an organism under construction. -/
def restore (state : Argument) : Call Unit := do
  let cloned ← clone room 1 state
  let suppliedMac := Dict.get? "state_mac" cloned.entries
  let suppliedRoot := Dict.get? "state_root" cloned.entries
  let raw := Json.obj (Dict.erase "state_root" (Dict.erase "state_mac" cloned.entries))
  let authentic ← authenticate host encodes room raw suppliedMac
  if !authentic then throw (.valueError "state authentication failed")
  let o ← get
  if !isStr (raw.get? "schema") schemaVersion then throw (.valueError "unsupported organism state schema")
  if !isStr (raw.get? "organism_id") o.identity.organismId then
    throw (.valueError "organism identity mismatch")
  if !isStr (raw.get? "constitutional_contract_hash") o.identity.constitutionalContractHash then
    throw (.valueError "constitutional contract mismatch")
  let constraints ← lift (listField raw "constraints")
  restoreConstraints host encodes room constraints
  let lineage ← lift (listField raw "lineage")
  let _ ← cloneJson room 1 (.arr lineage)
  modify fun o => { o with lineage := lineage.map jsonClone }
  let o ← get
  lift (validateLineage [] o.lineage)
  let root ← stateRoot host encodes room 2
  if !isStr suppliedRoot root then throw (.valueError "state root mismatch")

/-! ## Operations -/

def candidateDocument (c : ConstraintCandidate) : Json :=
  .dict [("schema", .str schemaVersion), ("source_event_id", .str c.sourceEventId),
    ("source_receipt_hash", .str c.sourceReceiptHash), ("generator_id", .str c.generatorId),
    ("match_json", .str c.matchJson), ("reason", .str c.reason)]

def evaluation (eventId : String) : Call Json := do
  let o ← get
  let source ← lift (o.evaluation eventId)
  cloneJson room 1 source

/-- The candidate is hashed after every check. -/
def observeRejection (eventId generatorId : String) (causalKeys : List String) : Call ConstraintCandidate := do
  if eventId == "" || generatorId == "" then throw (.valueError "event_id and generator_id are required")
  let _ ← evaluation room eventId
  let o ← get
  let candidate ← lift (o.observeRejection host eventId generatorId causalKeys)
  let _ ← stableHash host encodes room 0 (candidateDocument candidate)
  return candidate

def authorizeConstraint (candidate : ConstraintCandidate) (grant : AuthorizationGrant) :
    Call InheritedConstraint := do
  verifyGrant host encodes grant candidate.candidateId
  if grant.principalId == candidate.generatorId then
    throw (.permissionError "generator cannot authorize its own inherited constraint")
  let source ← evaluation room candidate.sourceEventId
  let decision ← lift (getItem source "decision")
  if !decision.pyEq (.str Decision.block.value) then
    throw (.valueError "candidate is not bound to a verified local rejection")
  let receiptHash ← lift (getItem source "receipt_hash")
  if !receiptHash.pyEq (.str candidate.sourceReceiptHash) then
    throw (.valueError "candidate is not bound to a verified local rejection")
  let unsealed : InheritedConstraint :=
    ⟨"", candidate.candidateId, candidate.sourceEventId, candidate.sourceReceiptHash,
      candidate.generatorId, grant.principalId, grant.capability, grant.signature, candidate.matchJson,
      candidate.reason, ""⟩
  let o ← get
  let core := constraintCore o.identity.constitutionalContractHash unsealed
  let receipt ← evidenceReceipt host encodes room 0 "CONSTRAINT_AUTHORIZATION" (.dict core)
    (.dict [("decision", .str "PROMOTE")])
  let constraintId ← stableHash host encodes room 0
    (.dict (core ++ [("authority_receipt", .str receipt.receiptHash)]))
  let c := { unsealed with constraintId := constraintId, authorityReceipt := receipt.receiptHash }
  modify fun o => { o with constraints := Dict.insert c.constraintId c o.constraints }
  modify fun o => { o with lineage := o.lineage ++ [promotedRecord c] }
  modify markStateMutated
  return c

structure Evaluation where
  eventId : String
  proposal : Argument
  human : Option Argument
  ontologyOk : Bool
  signatureValid : Bool
  transitionValid : Bool

/-- The arguments that the gate reads as they are. -/
def Evaluation.flags (args : Evaluation) : EvaluateArgs :=
  ⟨args.eventId, [], none, args.ontologyOk, args.signatureValid, args.transitionValid⟩

def cloneHuman : Option Argument → Call (Option Json)
  | none => return none
  | some human => do
    let cloned ← clone room 0 human
    return some cloned

def evaluate (args : Evaluation) : Call LoopResult := do
  if args.eventId == "" then throw (.valueError "event_id is required")
  let o ← get
  if o.lineage.any (isEvaluationOf args.eventId) then throw (.valueError "event_id must be unique")
  let proposal ← clone room 0 args.proposal
  let human ← cloneHuman room args.human
  let matched ← lift (firstMatch proposal o.constraints)
  let (decision, reason, matchedId) := gateDecision host matched proposal human args.flags
  let before ← stateRoot host encodes room 1
  let inputs := gateInputs human args.flags
  let receipt ← evidenceReceipt host encodes room 0 "ORGANISM_EVALUATION"
    (o.eventCore args.eventId proposal inputs decision reason matchedId before)
    (.dict [("decision", .str decision.value), ("reason", .str reason)])
  modify fun o => { o with lineage := o.lineage ++
    [evaluationRecord o.identity.runtimeId args.eventId proposal inputs decision reason matchedId
      receipt.receiptHash] }
  modify markStateMutated
  let root ← stateRoot host encodes room 1
  return ⟨args.eventId, decision, reason, matchedId, root, receipt⟩

/-! ## Runs -/

inductive Act where
  | evaluate (args : Evaluation)
  | observe (eventId generatorId : String) (causalKeys : List String)
  | authorize (candidate : ConstraintCandidate) (grant : AuthorizationGrant)
  | stateRoot
  | exportState
  /-- A new organism from a state; where it raises there is none, and the old one stays. -/
  | restore (identity : Identity) (state : Argument)

/-- What a call raised, and the organism after it. -/
def outcome {α : Type} (m : Call α) (o : GovernedOrganism) : Option PyError × GovernedOrganism :=
  match m o with
  | .ok _ after => (none, after)
  | .error e after => (some e, after)

def perform (o : GovernedOrganism) : Act → Option PyError × GovernedOrganism
  | .evaluate args => outcome (evaluate host encodes room args) o
  | .observe eventId generatorId causalKeys =>
    outcome (observeRejection host encodes room eventId generatorId causalKeys) o
  | .authorize candidate grant => outcome (authorizeConstraint host encodes room candidate grant) o
  | .stateRoot => outcome (stateRoot host encodes room 0) o
  | .exportState => outcome (exportState host encodes room) o
  | .restore identity state =>
    match restore host encodes room state (blank identity) with
    | .ok _ restored => (none, restored)
    | .error e _ => (some e, o)

end

/-- A call, and the room that the interpreter's stack leaves it. -/
structure Invocation where
  room : Nat
  act : Act

def Performs (host : Host) (encodes : Char → Bool) (o : GovernedOrganism) (call : Invocation)
    (after : GovernedOrganism) : Prop :=
  after = (perform host encodes call.room o call.act).2

/-! ## What nests -/

variable {host : Host} {encodes : Char → Bool} {room : Nat}

/-- There is room for the payload and its root, for `state_root()` at `level`. -/
def Fits (room level : Nat) (o : GovernedOrganism) : Prop :=
  level + 3 + nested (.arr o.lineage) ≤ room ∧ level + 1 + nested (.dict o.statePayload) ≤ room

theorem nested_clone (v : Json) : nested (jsonClone v) = nested v := by
  rw [jsonClone_eq, nested, Json.norm_norm, nested]

theorem nested_arr_le {items : List Json} {n : Nat} : nested (.arr items) ≤ n + 1 ↔ ∀ v ∈ items, nested v ≤ n := by
  rw [nested, Json.norm_arr, Json.depth_arr_le]
  exact List.forall_mem_map

theorem nested_item {items : List Json} {v : Json} (member : v ∈ items) : nested v + 1 ≤ nested (.arr items) := by
  rw [nested, nested, Json.norm_arr]
  exact Json.depth_item (List.mem_map_of_mem member)

theorem nested_dict_le {pairs : Mapping} {n : Nat} (each : ∀ p ∈ pairs, nested p.2 ≤ n) :
    nested (.dict pairs) ≤ n + 1 := by
  rw [nested, Json.norm_dict]
  refine Json.depth_dict_le fun p member => ?_
  obtain ⟨q, inside, rfl⟩ := List.mem_map.mp member
  exact each q inside

theorem nested_field {v w : Json} {key : String} (found : v.norm.get? key = some w.norm) : nested w + 1 ≤ nested v :=
  Json.depth_field found

theorem nested_constraint (c : InheritedConstraint) : nested c.toJson ≤ 1 :=
  nested_dict_le fun p member => by
    simp only [List.mem_cons, List.not_mem_nil, or_false] at member
    rcases member with rfl | rfl | rfl | rfl | rfl | rfl | rfl | rfl | rfl | rfl | rfl <;> exact Nat.le_refl 0

/-- The records of the lineage are what nests in a payload. -/
theorem fits_of_items {level n : Nat} {o : GovernedOrganism} (some : 1 ≤ n)
    (items : ∀ item ∈ o.lineage, nested item ≤ n) (enough : n + level + 4 ≤ room) : Fits room level o := by
  have lineage : nested (.arr o.lineage) ≤ n + 1 := nested_arr_le.mpr items
  have constraints : nested (.arr (o.constraints.map fun p => p.2.toJson)) ≤ n + 1 := by
    refine nested_arr_le.mpr fun v member => ?_
    obtain ⟨p, _, rfl⟩ := List.mem_map.mp member
    exact (nested_constraint p.2).trans some
  have payload : nested (.dict o.statePayload) ≤ n + 2 := by
    refine nested_dict_le fun p member => ?_
    simp only [GovernedOrganism.statePayload, List.mem_cons, List.not_mem_nil, or_false] at member
    rcases member with rfl | rfl | rfl | rfl | rfl | rfl
    · exact Nat.zero_le _
    · exact Nat.zero_le _
    · exact Nat.zero_le _
    · exact Nat.zero_le _
    · exact constraints
    · exact (nested_clone _).trans_le lineage
  exact ⟨by omega, by omega⟩

theorem Fits.item {level : Nat} {o : GovernedOrganism} (fits : Fits room level o) {item : Json}
    (member : item ∈ o.lineage) : nested item + level + 4 ≤ room := by
  have inside := nested_item member
  have lineage := fits.1
  omega

/-! ## The event and its record -/

/-- How deep the event nests, and its record: both carry the proposal and the gate's inputs. -/
def eventNested (proposal : Json) (human : Option Json) : Nat :=
  max (nested proposal) (nested (human.getD .null) + 1) + 1

theorem nested_inputs (human : Option Json) (args : EvaluateArgs) :
    nested (gateInputs human args) = nested (human.getD .null) + 1 := by
  refine Nat.le_antisymm (nested_dict_le fun p member => ?_) (@nested_field _ _ "human" (by simp [gateInputs]))
  simp only [List.mem_cons, List.not_mem_nil, or_false] at member
  rcases member with rfl | rfl | rfl | rfl
  · exact Nat.le_refl _
  · exact Nat.zero_le _
  · exact Nat.zero_le _
  · exact Nat.zero_le _

theorem nested_option (text : Option String) : nested (optionStr text) = 0 := by cases text <;> rfl

/-- A document of texts around a proposal and the gate's inputs. -/
theorem nested_around {pairs : Mapping} {proposal : Json} {human : Option Json} {args : EvaluateArgs}
    (each : ∀ p ∈ pairs, p.2 = proposal ∨ p.2 = gateInputs human args ∨ nested p.2 = 0)
    (carried : (Json.dict pairs).norm.get? "proposal" = some proposal.norm)
    (judged : (Json.dict pairs).norm.get? "gate_inputs" = some (gateInputs human args).norm) :
    nested (.dict pairs) = eventNested proposal human := by
  have inputs := nested_inputs human args
  have first := nested_field carried
  have second := nested_field judged
  have above : nested (.dict pairs) ≤ eventNested proposal human := by
    refine nested_dict_le fun p member => ?_
    rcases each p member with same | same | flat
    · rw [same]
      exact Nat.le_max_left _ _
    · rw [same, inputs]
      exact Nat.le_max_right _ _
    · exact flat.trans_le (Nat.zero_le _)
  unfold eventNested at *
  omega

theorem nested_eventCore (o : GovernedOrganism) (eventId : String) (proposal : Json) (human : Option Json)
    (args : EvaluateArgs) (decision : Decision) (reason : String) (matchedId : Option String) (before : String) :
    nested (o.eventCore eventId proposal (gateInputs human args) decision reason matchedId before) =
      eventNested proposal human := by
  refine @nested_around _ _ _ args (fun p member => ?_) (by simp) (by simp)
  simp only [List.mem_cons, List.not_mem_nil, or_false] at member
  rcases member with rfl | rfl | rfl | rfl | rfl | rfl | rfl | rfl | rfl
  · exact .inr (.inr rfl)
  · exact .inr (.inr rfl)
  · exact .inl rfl
  · exact .inr (.inl rfl)
  · exact .inr (.inr rfl)
  · exact .inr (.inr rfl)
  · exact .inr (.inr (nested_option _))
  · exact .inr (.inr rfl)
  · exact .inr (.inr rfl)

theorem nested_record (runtimeId eventId : String) (proposal : Json) (human : Option Json) (args : EvaluateArgs)
    (decision : Decision) (reason : String) (matchedId : Option String) (receiptHash : String) :
    nested (evaluationRecord runtimeId eventId proposal (gateInputs human args) decision reason matchedId
      receiptHash) = eventNested proposal human := by
  refine @nested_around _ _ _ args (fun p member => ?_) (by simp) (by simp)
  simp only [List.mem_cons, List.not_mem_nil, or_false] at member
  rcases member with rfl | rfl | rfl | rfl | rfl | rfl | rfl | rfl | rfl
  · exact .inr (.inr rfl)
  · exact .inr (.inr rfl)
  · exact .inr (.inr rfl)
  · exact .inl rfl
  · exact .inr (.inl rfl)
  · exact .inr (.inr rfl)
  · exact .inr (.inr rfl)
  · exact .inr (.inr (nested_option _))
  · exact .inr (.inr rfl)

/-! ## What encodes -/

/-- The text of a document encodes. -/
def Encodable (encodes : Char → Bool) (v : Json) : Prop := encodable encodes (canonicalJson v) = true

theorem encodable_iff (ascii : ∀ c : Char, c.toNat < 128 → encodes c = true) (v : Json) :
    Encodable encodes v ↔ v.norm.Written (fun c => encodes c = true) := by
  rw [Encodable, encodable, canonicalJson, List.all_eq_true, JsonText.dumps_forall _ ascii]

theorem Encodable.field {v w : Json} {key : String} (ascii : ∀ c : Char, c.toNat < 128 → encodes c = true)
    (encodable : Encodable encodes v) (found : v.norm.get? key = some w) :
    w.Written (fun c => encodes c = true) :=
  ((encodable_iff ascii v).mp encodable).get? found

theorem written_ascii (ascii : ∀ c : Char, c.toNat < 128 → encodes c = true) {s : String}
    (chars : s.toList.all (fun c => c.toNat < 128) = true) : ∀ c ∈ s.toList, encodes c = true := by
  intro c member
  exact ascii c (by simpa using List.all_eq_true.mp chars c member)

theorem written_digits (ascii : ∀ c : Char, c.toNat < 128 → encodes c = true) {s : String}
    (digits : Hex.Digits s) : ∀ c ∈ s.toList, encodes c = true :=
  fun c member => ascii c (Hex.isDigit_ascii (List.all_eq_true.mp digits c member))

def asciiKeys (keys : List String) : Bool := keys.all (fun key => key.toList.all (fun c => c.toNat < 128))

/-- A document with ASCII keys encodes where its values do. -/
theorem encodable_dict (ascii : ∀ c : Char, c.toNat < 128 → encodes c = true) {pairs : Mapping}
    {keys : List String} (shape : pairs.map Prod.fst = keys) (known : asciiKeys keys = true)
    (values : ∀ p ∈ pairs, p.2.norm.Written (fun c => encodes c = true)) : Encodable encodes (.dict pairs) := by
  rw [encodable_iff ascii, Json.norm_dict]
  apply Json.written_dict
  intro p member
  obtain ⟨q, inside, rfl⟩ := List.mem_map.mp member
  have key := List.all_eq_true.mp known q.1 (shape ▸ List.mem_map_of_mem inside)
  exact ⟨written_ascii ascii key, values q inside⟩

/-- The payload after a record, where the payload before it and the record encode. -/
theorem encodable_appended (ascii : ∀ c : Char, c.toNat < 128 → encodes c = true) {o : GovernedOrganism}
    {item : Json} (before : Encodable encodes (.dict o.statePayload)) (record : Encodable encodes item) :
    Encodable encodes (.dict { o with lineage := o.lineage ++ [item] }.statePayload) := by
  have field (key : String) (w : Json) (found : (Json.dict o.statePayload).norm.get? key = some w) :
      w.Written (fun c => encodes c = true) := before.field ascii found
  have lineage := field "lineage" (Json.arr o.lineage).norm (by simp [GovernedOrganism.statePayload])
  have keys : asciiKeys ["schema", "organism_id", "constitutional_contract_hash", "gate_fingerprint",
    "constraints", "lineage"] = true := by decide
  refine encodable_dict ascii ?_ keys ?_
  · rfl
  intro p member
  simp only [GovernedOrganism.statePayload, List.mem_cons, List.not_mem_nil, or_false] at member
  rcases member with rfl | rfl | rfl | rfl | rfl | rfl
  · exact field "schema" _ (by simp [GovernedOrganism.statePayload])
  · exact field "organism_id" _ (by simp [GovernedOrganism.statePayload])
  · exact field "constitutional_contract_hash" _ (by simp [GovernedOrganism.statePayload])
  · exact field "gate_fingerprint" _ (by simp [GovernedOrganism.statePayload])
  · exact field "constraints" _ (by simp [GovernedOrganism.statePayload])
  · rw [Json.norm_arr, Json.written_arr] at lineage
    change Json.Written _ (jsonClone (.arr (o.lineage ++ [item]))).norm
    rw [jsonClone_eq, Json.norm_norm, Json.norm_arr, Json.written_arr, List.map_append]
    intro v inside
    rcases List.mem_append.mp inside with earlier | new
    · exact lineage v earlier
    · obtain rfl := List.mem_singleton.mp new
      exact (encodable_iff ascii item).mp record

/-- Every text of a record is one of the hashed event, ASCII, or a digest. -/
theorem encodable_record (ascii : ∀ c : Char, c.toNat < 128 → encodes c = true) {o : GovernedOrganism}
    {eventId : String} {proposal inputs : Json} {decision : Decision} {reason : String}
    {matchedId : Option String} {before receiptHash : String} (digits : Hex.Digits receiptHash)
    (event : Encodable encodes (o.eventCore eventId proposal inputs decision reason matchedId before)) :
    Encodable encodes (evaluationRecord o.identity.runtimeId eventId proposal inputs decision reason matchedId
      receiptHash) := by
  have field (key : String) (w : Json)
      (found : (o.eventCore eventId proposal inputs decision reason matchedId before).norm.get? key = some w) :
      w.Written (fun c => encodes c = true) := event.field ascii found
  have keys : asciiKeys ["type", "event_id", "runtime_id", "proposal", "gate_inputs", "decision", "reason",
    "matched_constraint_id", "receipt_hash"] = true := by decide
  refine encodable_dict ascii ?_ keys ?_
  · rfl
  intro p member
  simp only [List.mem_cons, List.not_mem_nil, or_false] at member
  rcases member with rfl | rfl | rfl | rfl | rfl | rfl | rfl | rfl | rfl
  · exact (Json.written_str _).mpr (written_ascii ascii (by decide))
  · exact field "event_id" _ (by simp [eventCore])
  · exact field "runtime_id" _ (by simp [eventCore])
  · exact field "proposal" _ (by simp [eventCore])
  · exact field "gate_inputs" _ (by simp [eventCore])
  · exact field "decision" _ (by simp [eventCore])
  · exact field "reason" _ (by simp [eventCore])
  · exact field "matched_constraint_id" _ (by simp [eventCore])
  · exact (Json.written_str _).mpr (written_digits ascii digits)

/-! ## What the statements keep -/

/-- A root cached for the current generation is the hash of the payload, which encodes. -/
def Current (host : Host) (encodes : Char → Bool) (o : GovernedOrganism) : Prop :=
  ∀ root, o.cachedStateRoot = some root → o.cachedStateGeneration = o.stateGeneration →
    Encodable encodes (.dict o.statePayload) ∧ root = MatVerse.stableHash host (.dict o.statePayload)

/-- The organism as it was, up to its cache. -/
def Still (host : Host) (encodes : Char → Bool) (before o : GovernedOrganism) : Prop :=
  Current host encodes o ∧ SameState o before

theorem current_uncached {o : GovernedOrganism} (empty : o.cachedStateRoot = none) :
    Current host encodes o := by
  intro root cached
  rw [empty] at cached
  cases cached

theorem current_mark (o : GovernedOrganism) : Current host encodes (markStateMutated o) := current_uncached rfl

/-- The root is cached, and `state_root()` returns it without hashing. -/
def Fresh (o : GovernedOrganism) : Prop :=
  ∃ root, o.cachedStateRoot = some root ∧ o.cachedStateGeneration = o.stateGeneration

section

variable {α : Type} {P : GovernedOrganism → Prop} {before : GovernedOrganism} {level : Nat}

theorem lift_ensures (x : Except PyError α) : Ensures P (lift x) (fun a o => x = .ok a ∧ P o) P := by
  cases x with
  | ok a => exact .pure fun _ holds => ⟨rfl, holds⟩
  | error e => exact .throw fun _ => id

theorem encode_ensures (text : String) : Ensures P (encode encodes text)
    (fun _ o => encodable encodes text = true ∧ P o) (fun o => ¬ encodable encodes text = true ∧ P o) :=
  .ite (fun all => .pure fun _ holds => ⟨all, holds⟩) fun none => .throw fun _ holds => ⟨none, holds⟩

theorem dumps_ensures (v : Json) : Ensures P (dumps room level v)
    (fun text o => (level + nested v ≤ room ∧ text = canonicalJson v) ∧ P o)
    (fun o => ¬ level + nested v ≤ room ∧ P o) :=
  .ite (fun fits => .pure fun _ holds => ⟨⟨fits, rfl⟩, holds⟩) fun deep => .throw fun _ holds => ⟨deep, holds⟩

theorem encode_keeps (text : String) : Ensures P (encode encodes text)
    (fun _ o => encodable encodes text = true ∧ P o) P := (encode_ensures text).raises fun _ => And.right

theorem dumps_keeps (v : Json) : Ensures P (dumps room level v)
    (fun text o => (level + nested v ≤ room ∧ text = canonicalJson v) ∧ P o) P :=
  (dumps_ensures v).raises fun _ => And.right

/-- A document is hashed where there is room for it and its text encodes. -/
theorem stableHash_ensures (v : Json) : Ensures P (stableHash host encodes room level v)
    (fun d o => ((level + 1 + nested v ≤ room ∧ Encodable encodes v) ∧ d = MatVerse.stableHash host v) ∧ P o)
    (fun o => ¬ (level + 1 + nested v ≤ room ∧ Encodable encodes v) ∧ P o) := by
  refine .bind ((dumps_ensures v).raises fun t raised => ⟨fun fits => raised.1 fits.1, raised.2⟩) fun text => .given ?_
  rintro ⟨fits, rfl⟩
  refine .bind ((encode_ensures _).raises fun t raised => ⟨fun fits => raised.1 fits.2, raised.2⟩) fun _ => .given ?_
  exact fun all => .pure fun t holds => ⟨⟨⟨fits, all⟩, rfl⟩, holds⟩

theorem evidenceReceipt_ensures (eventType : String) (inputs outputs : Json) :
    Ensures P (evidenceReceipt host encodes room level eventType inputs outputs)
      (fun r o => ((level + 2 + nested inputs ≤ room ∧ Encodable encodes inputs) ∧
        r = MatVerse.evidenceReceipt host eventType inputs outputs) ∧ P o) P := by
  refine .bind (dumps_keeps inputs) fun _ => .given ?_
  rintro ⟨fits, rfl⟩
  refine .bind (encode_keeps _) fun _ => .given fun all => .bind (dumps_keeps outputs) fun _ => .given ?_
  rintro ⟨_, rfl⟩
  exact .bind (encode_keeps _) fun _ => .given fun _ => .pure fun t holds => ⟨⟨⟨fits, all⟩, rfl⟩, holds⟩

theorem cloneJson_ensures (v : Json) : Ensures P (cloneJson room level v)
    (fun w o => (level + 2 + nested v ≤ room ∧ w = jsonClone v) ∧ P o)
    (fun o => ¬ level + 2 + nested v ≤ room ∧ P o) :=
  .bind (dumps_ensures v) fun _ => .given fun made => .pure fun _ holds => ⟨⟨made.1, rfl⟩, holds⟩

theorem cloneJson_keeps (v : Json) : Keeps P (cloneJson room level v) :=
  (cloneJson_ensures v).mono (fun _ => id) (fun _ _ => And.right) fun _ => And.right

theorem clone_ensures (value : Argument) : Ensures P (clone room level value)
    (fun v o => (∃ pairs, value = .ok pairs ∧ v = jsonClone (.obj pairs)) ∧ P o) P := by
  refine .bind (lift_ensures value) fun pairs => .given fun serialized => ?_
  exact (cloneJson_ensures _).mono (fun _ => id) (fun _ _ made => ⟨⟨pairs, serialized, made.1.2⟩, made.2⟩)
    fun _ => And.right

theorem cloneHuman_ensures (human : Option Argument) : Ensures P (cloneHuman room human)
    (fun v o => (∃ given : Option Mapping, human = given.map .ok ∧ v = given.map fun h => jsonClone (.obj h)) ∧ P o)
    P := by
  cases human with
  | none => exact .pure fun _ holds => ⟨⟨none, rfl, rfl⟩, holds⟩
  | some human =>
    refine .bind (clone_ensures human) fun v => .given ?_
    rintro ⟨pairs, rfl, rfl⟩
    exact .pure fun _ holds => ⟨⟨some pairs, rfl, rfl⟩, holds⟩

theorem statePayload_ensures : Ensures (Still host encodes before) (statePayload room level)
    (fun payload o => (level + 3 + nested (.arr before.lineage) ≤ room ∧ payload = before.statePayload) ∧
      Still host encodes before o)
    (fun o => ¬ level + 3 + nested (.arr before.lineage) ≤ room ∧ Still host encodes before o) := by
  refine .get_bind fun o still => ?_
  rw [← still.2.payload, ← still.2.lineage]
  refine .mono (p := Still host encodes before) (.bind (cloneJson_ensures _) fun _ => .given fun made =>
    .pure fun t holds => ⟨⟨made.1, rfl⟩, holds⟩) ?_ (fun _ _ => id) fun _ => id
  rintro t rfl
  exact still

theorem refreshRoot_ensures : Ensures (Still host encodes before) (refreshRoot host encodes room level)
    (fun root o => ((Fits room level before ∧ Encodable encodes (.dict before.statePayload)) ∧
      root = MatVerse.stableHash host (.dict before.statePayload)) ∧ Still host encodes before o)
    (fun o => ¬ (Fits room level before ∧ Encodable encodes (.dict before.statePayload)) ∧
      Still host encodes before o) := by
  refine .bind (statePayload_ensures.raises fun t raised => ⟨fun fits => raised.1 fits.1.1, raised.2⟩)
    fun payload => .given ?_
  rintro ⟨cloned, rfl⟩
  refine .bind ((stableHash_ensures _).raises fun t raised =>
    ⟨fun fits => raised.1 ⟨fits.1.2, fits.2⟩, raised.2⟩) fun root => .given ?_
  rintro ⟨⟨hashed, all⟩, rfl⟩
  refine .bind (q := fun _ => Still host encodes before) (.modify ?_) fun _ =>
    .pure fun t settled => ⟨⟨⟨⟨cloned, hashed⟩, all⟩, rfl⟩, settled⟩
  intro t still
  refine ⟨fun other cached _ => ?_, ⟨still.2.identity, still.2.constraints, still.2.lineage⟩⟩
  obtain rfl := Option.some.inj cached
  change Encodable encodes (.dict t.statePayload) ∧ _ = MatVerse.stableHash host (.dict t.statePayload)
  rw [still.2.payload]
  exact ⟨all, rfl⟩

/-- `state_root` returns the hash of the payload and changes the cache only. It raises
only where there is no room for the payload or its text does not encode. -/
theorem stateRoot_ensures : Ensures (Still host encodes before) (stateRoot host encodes room level)
    (fun root o => (Encodable encodes (.dict before.statePayload) ∧
      root = MatVerse.stableHash host (.dict before.statePayload)) ∧ Still host encodes before o)
    (fun o => ¬ (Fits room level before ∧ Encodable encodes (.dict before.statePayload)) ∧
      Still host encodes before o) := by
  refine .get_bind fun o still => ?_
  have here : ∀ t, t = o → Still host encodes before t := by
    rintro t rfl
    exact still
  have refreshed : Ensures (fun t => t = o) (refreshRoot host encodes room level)
      (fun root o => (Encodable encodes (.dict before.statePayload) ∧
        root = MatVerse.stableHash host (.dict before.statePayload)) ∧ Still host encodes before o)
      (fun o => ¬ (Fits room level before ∧ Encodable encodes (.dict before.statePayload)) ∧
        Still host encodes before o) :=
    refreshRoot_ensures.mono here (fun _ _ made => ⟨⟨made.1.1.2, made.1.2⟩, made.2⟩) fun _ => id
  cases cached : o.cachedStateRoot with
  | none => exact refreshed
  | some root =>
    refine .ite (fun current => .pure fun t same => ?_) fun _ => refreshed
    obtain ⟨all, hash⟩ := still.1 root cached current
    rw [still.2.payload] at all hash
    exact ⟨⟨all, hash⟩, here t same⟩

/-- A root that returns also tells that there was room for the payload, unless it was cached. -/
theorem stateRoot_rooted (current : Current host encodes before) : Ensures (fun t => t = before)
    (stateRoot host encodes room level)
    (fun root o => ((Encodable encodes (.dict before.statePayload) ∧
        root = MatVerse.stableHash host (.dict before.statePayload)) ∧ (Fresh before ∨ Fits room level before)) ∧
      Still host encodes before o)
    (Still host encodes before) := by
  have here : ∀ t, t = before → Still host encodes before t := by
    rintro t rfl
    exact ⟨current, rfl, rfl, rfl⟩
  have hashes : Ensures (fun t => t = before) (stateRoot host encodes room level)
      (fun _ _ => Fresh before ∨ Fits room level before) (fun _ => True) := by
    refine .get_bind fun o same => ?_
    subst same
    have refreshed : Ensures (fun t => t = o) (refreshRoot host encodes room level)
        (fun _ _ => Fresh o ∨ Fits room level o) (fun _ => True) :=
      refreshRoot_ensures.mono here (fun _ _ made => .inr made.1.1.1) fun _ _ => trivial
    cases cached : o.cachedStateRoot with
    | none => exact refreshed
    | some root => exact .ite (fun valid => .pure fun _ _ => .inl ⟨root, cached, valid⟩) fun _ => refreshed
  exact (stateRoot_ensures.and hashes).mono (fun t same => ⟨here t same, same⟩)
    (fun _ _ made => ⟨⟨made.1.1, made.2⟩, made.1.2⟩) fun _ raised => raised.1.2

theorem stateMac_keeps (payload : Json) : Keeps P (stateMac host encodes room level payload) := by
  refine .get_bind fun o holds => ?_
  refine .mono (p := P) (q := fun _ => P) (r := P) ?_ (by rintro t rfl; exact holds) (fun _ _ => id) fun _ => id
  exact .bind (encode_keeps _) fun _ => .given fun _ => .bind (dumps_keeps _) fun _ => .given fun _ =>
    .bind (encode_keeps _) fun _ => .given fun _ => .pure fun _ => id

theorem verifyGrant_keeps (grant : AuthorizationGrant) (candidateId : String) :
    Keeps P (verifyGrant host encodes grant candidateId) := by
  refine .guard (fun _ => id) fun _ => .get_bind fun o holds => ?_
  refine .mono (p := P) (q := fun _ => P) (r := P) ?_ (by rintro t rfl; exact holds) (fun _ _ => id) fun _ => id
  cases Dict.get? grant.principalId o.identity.authoritySecrets with
  | none => exact .throw fun _ => id
  | some secret =>
    exact .bind (encode_keeps _) fun _ => .given fun _ => .bind (encode_keeps _) fun _ => .given fun _ =>
      .bind (lift_ensures _) fun same => .given fun _ => .ite (fun _ => .throw fun _ => id) fun _ => .pure fun _ => id

theorem evaluation_keeps (eventId : String) : Keeps P (evaluation room eventId) := by
  refine .get_bind fun o holds => ?_
  refine .mono (p := P) (q := fun _ => P) (r := P) ?_ (by rintro t rfl; exact holds) (fun _ _ => id) fun _ => id
  exact .bind (lift_ensures _) fun _ => .given fun _ => cloneJson_keeps _

theorem exportState_still : Ensures (Still host encodes before) (exportState host encodes room)
    (fun _ => Still host encodes before) (Still host encodes before) := by
  refine .bind (statePayload_ensures.raises fun _ => And.right) fun _ => .given fun _ => ?_
  refine .bind (stateRoot_ensures.raises fun _ => And.right) fun _ => .given fun _ => ?_
  exact .bind (stateMac_keeps _) fun _ => .pure fun _ => id

theorem observeRejection_keeps (eventId generatorId : String) (causalKeys : List String) :
    Keeps P (observeRejection host encodes room eventId generatorId causalKeys) := by
  refine .guard (fun _ => id) fun _ => .bind (evaluation_keeps _) fun _ => .get_bind fun o holds => ?_
  refine .mono (p := P) (q := fun _ => P) (r := P) ?_ (by rintro t rfl; exact holds) (fun _ _ => id) fun _ => id
  exact .bind (lift_ensures _) fun _ => .given fun _ =>
    .bind ((stableHash_ensures _).raises fun _ => And.right) fun _ => .given fun _ => .pure fun _ => id

/-- Everything that `authorize_constraint` can raise comes before its first change. -/
theorem authorizeConstraint_ensures (candidate : ConstraintCandidate) (grant : AuthorizationGrant) :
    Ensures P (authorizeConstraint host encodes room candidate grant) (fun _ => Current host encodes) P := by
  refine .bind (verifyGrant_keeps grant _) fun _ => .guard (fun _ => id) fun _ => ?_
  refine .bind (evaluation_keeps _) fun source => .bind (lift_ensures _) fun decision => .given fun _ => ?_
  refine .guard (fun _ => id) fun _ => .bind (lift_ensures _) fun receiptHash => .given fun _ => ?_
  refine .guard (fun _ => id) fun _ => .get_bind fun o holds => ?_
  refine .mono (p := P) (q := fun _ => Current host encodes) (r := P) ?_ (by rintro t rfl; exact holds)
    (fun _ _ => id) fun _ => id
  refine .bind (evidenceReceipt_ensures _ _ _) fun receipt => .given fun _ => ?_
  refine .bind ((stableHash_ensures _).raises fun _ => And.right) fun constraintId => .given fun _ => ?_
  exact .bind (q := fun _ _ => True) (.modify fun _ _ => trivial) fun _ =>
    .bind (q := fun _ _ => True) (.modify fun _ _ => trivial) fun _ =>
      .bind (.modify fun _ _ => current_mark _) fun _ => .pure fun _ => id

end

theorem receiptHash_digits (host : Host) (eventType : String) (inputs outputs : Json) :
    Hex.Digits (MatVerse.evidenceReceipt host eventType inputs outputs).receiptHash := host.sha256Digits _

/-! ## Evaluation -/

/-- What `evaluate` needs of its arguments, apart from the stack and the encoding of
texts, to reach the append of its record. -/
structure Evaluation.Sound (o : GovernedOrganism) (args : Evaluation) (proposal : Mapping) (human : Option Mapping) :
    Prop where
  named : args.eventId ≠ ""
  unique : o.lineage.any (isEvaluationOf args.eventId) = false
  proposed : args.proposal = .ok proposal
  accompanied : args.human = human.map .ok
  matched : ∃ matched, firstMatch (jsonClone (.obj proposal)) o.constraints = .ok matched

/-- How deep the event nests that is hashed before the append. -/
def argumentsNested (proposal : Mapping) (human : Option Mapping) : Nat :=
  eventNested (jsonClone (.obj proposal)) (human.map fun h => jsonClone (.obj h))

/-- Where there is room for the event, and for the root before it, there is room for the
payload with the new record, which `state_root()` clones deeper in the stack. -/
def Evaluation.Roomy (room : Nat) (o : GovernedOrganism) (args : Evaluation) : Prop :=
  ∀ proposal human, args.Sound o proposal human → argumentsNested proposal human + 2 ≤ room →
    Fresh o ∨ Fits room 1 o →
      argumentsNested proposal human + 5 ≤ room ∧ ∀ item ∈ o.lineage, nested item + 5 ≤ room

def Invocation.Roomy (o : GovernedOrganism) (call : Invocation) : Prop :=
  match call.act with
  | .evaluate args => args.Roomy call.room o
  | _ => True

/-- With its record appended there is room for the payload. -/
theorem fits_appended {o : GovernedOrganism} {record : Json} (deep : 2 ≤ nested record)
    (enough : nested record + 5 ≤ room) (items : ∀ item ∈ o.lineage, nested item + 5 ≤ room) :
    Fits room 1 { o with lineage := o.lineage ++ [record] } := by
  refine fits_of_items (n := room - 5) (by omega) (fun item member => ?_) (by omega)
  rcases List.mem_append.mp member with earlier | new
  · have known := items item earlier
    omega
  · obtain rfl := List.mem_singleton.mp new
    omega

/-- `evaluate` can raise until it appends its record. The root after it is hashed from
texts that were hashed before, in the root before it or in the event. -/
theorem evaluate_ensures (ascii : ∀ c : Char, c.toNat < 128 → encodes c = true) {before : GovernedOrganism}
    (current : Current host encodes before) (args : Evaluation) (roomy : args.Roomy room before) :
    Ensures (fun t => t = before) (evaluate host encodes room args)
      (fun _ => Current host encodes) (Still host encodes before) := by
  have here : ∀ t, t = before → Still host encodes before t := by
    rintro t rfl
    exact ⟨current, rfl, rfl, rfl⟩
  refine .guard here fun named => .get_bind fun o same => ?_
  subst same
  refine .guard here fun unique => .bind ((clone_ensures _).raises here) fun proposal => .given ?_
  rintro ⟨pairs, proposed, rfl⟩
  refine .bind ((cloneHuman_ensures _).raises here) fun human => .given ?_
  rintro ⟨given, humane, rfl⟩
  refine .bind ((lift_ensures _).raises here) fun matched => .given fun found => ?_
  have sound : args.Sound o pairs given :=
    ⟨by simpa using named, by simpa using unique, proposed, humane, matched, found⟩
  obtain ⟨decision, reason, matchedId⟩ := gateDecision host matched (jsonClone (.obj pairs))
    (given.map fun h => jsonClone (.obj h)) args.flags
  refine .bind (stateRoot_rooted current) fun root => .given ?_
  rintro ⟨⟨payload, rfl⟩, rooted⟩
  refine .bind (evidenceReceipt_ensures _ _ _) fun receipt => .given ?_
  rintro ⟨⟨fits, event⟩, sealed⟩
  have digits : Hex.Digits receipt.receiptHash := by
    rw [sealed]
    exact receiptHash_digits host _ _ _
  have encodes' := encodable_record ascii digits event
  rw [nested_eventCore] at fits
  obtain ⟨enough, items⟩ := roomy pairs given sound (by unfold argumentsNested; omega) rooted
  have deep : nested (evaluationRecord o.identity.runtimeId args.eventId (jsonClone (.obj pairs))
      (gateInputs (given.map fun h => jsonClone (.obj h)) args.flags) decision reason matchedId
      receipt.receiptHash) = argumentsNested pairs given := nested_record ..
  let after := { o with lineage := o.lineage ++ [evaluationRecord o.identity.runtimeId args.eventId
    (jsonClone (.obj pairs)) (gateInputs (given.map fun h => jsonClone (.obj h)) args.flags) decision reason
    matchedId receipt.receiptHash] }
  have all : Encodable encodes (.dict after.statePayload) := encodable_appended ascii payload encodes'
  have room' : Fits room 1 after :=
    fits_appended (by rw [deep, argumentsNested, eventNested]; omega) (by rw [deep]; exact enough) items
  refine .bind (q := fun _ t => SameState t after) (.modify ?_) fun _ => ?_
  · rintro t ⟨_, same⟩
    refine ⟨same.identity, same.constraints, ?_⟩
    simp only [after, ← same.identity, ← same.lineage]
  · refine .bind (q := fun _ => Still host encodes after)
      (.modify fun t same => ⟨current_mark t, ⟨same.identity, same.constraints, same.lineage⟩⟩) fun _ => ?_
    exact .bind (stateRoot_ensures.mono (fun _ => id) (fun _ _ => And.right) fun _ raised =>
      absurd ⟨room', all⟩ raised.1) fun _ => .pure fun _ => And.left

/-! ## Restoration -/

section

variable {P : GovernedOrganism → Prop}

theorem validateConstraint_keeps (c : InheritedConstraint) : Keeps P (validateConstraint host encodes room c) := by
  refine .bind (verifyGrant_keeps _ _) fun _ => .get_bind fun o holds => ?_
  refine .mono (p := P) (q := fun _ => P) (r := P) ?_ (by rintro t rfl; exact holds) (fun _ _ => id) fun _ => id
  refine .bind (evidenceReceipt_ensures _ _ _) fun receipt => .given fun _ => .guard (fun _ => id) fun _ => ?_
  refine .bind ((stableHash_ensures _).raises fun _ => And.right) fun expectedId => .given fun _ => ?_
  exact .guard (fun _ => id) fun _ => .ite (fun _ => .throw fun _ => id) fun _ => .pure fun _ => id

theorem authenticate_keeps (raw : Json) (mac : Option Json) : Keeps P (authenticate host encodes room raw mac) := by
  unfold authenticate
  split
  · exact .bind (stateMac_keeps _) fun _ => (lift_ensures _).mono (fun _ => id) (fun _ _ => And.right) fun _ => id
  · exact .pure fun _ => id

end

def Uncached (o : GovernedOrganism) : Prop := o.cachedStateRoot = none

theorem restoreConstraints_keeps (items : List Json) :
    Keeps Uncached (restoreConstraints host encodes room items) := by
  induction items with
  | nil => exact .pure fun _ => id
  | cons raw rest ih =>
    exact .bind (lift_ensures _) fun c => .given fun _ => .bind (validateConstraint_keeps c) fun _ =>
      .bind (.modify fun _ => id) fun _ => ih

/-- A restored organism has the root of what it restored. -/
theorem restore_current (state : Argument) :
    Ensures Uncached (restore host encodes room state) (fun _ => Current host encodes) (fun _ => True) := by
  have drop {α : Type} {m : Call α} (keeps : Keeps Uncached m) :
      Ensures Uncached m (fun _ => Uncached) (fun _ => True) := keeps.raises fun _ _ => trivial
  have step {α : Type} (x : Except PyError α) : Keeps Uncached (lift x) :=
    (lift_ensures x).mono (fun _ => id) (fun _ _ => And.right) fun _ => id
  refine .bind ((clone_ensures state).raises fun _ _ => trivial) fun cloned => .given fun _ => ?_
  refine .bind (drop (authenticate_keeps _ _)) fun authentic => ?_
  refine .guard (fun _ _ => trivial) fun _ => .get_bind fun o holds => ?_
  refine .mono (p := Uncached) (q := fun _ => Current host encodes) (r := fun _ => True) ?_
    (by rintro t rfl; exact holds) (fun _ _ => id) fun _ => id
  refine .guard (fun _ _ => trivial) fun _ => .guard (fun _ _ => trivial) fun _ => ?_
  refine .guard (fun _ _ => trivial) fun _ => ?_
  refine .bind (drop (step _)) fun constraints => .bind (drop (restoreConstraints_keeps _)) fun _ => ?_
  refine .bind (drop (step _)) fun lineage => .bind (drop (cloneJson_keeps _)) fun _ => ?_
  refine .bind (q := fun _ => Uncached) (.modify fun _ => id) fun _ => .get_bind fun restored empty => ?_
  refine .mono (p := Still host encodes restored) (q := fun _ => Current host encodes) (r := fun _ => True) ?_
    (by rintro t rfl; exact ⟨current_uncached empty, rfl, rfl, rfl⟩) (fun _ _ => id) fun _ => id
  refine .bind ((lift_ensures _).mono (fun _ => id) (fun _ _ => And.right) fun _ _ => trivial) fun _ => ?_
  refine .bind (stateRoot_ensures.mono (fun _ => id) (fun _ _ => And.right) fun _ _ => trivial) fun root => ?_
  exact .ite (fun _ => .throw fun _ _ => trivial) fun _ => .pure fun _ => And.left

/-! ## Runs of succeeding and failing calls -/

theorem outcome_spec {α : Type} {o : GovernedOrganism} {m : Call α}
    (spec : Ensures (fun t => t = o) m (fun _ => Current host encodes) (Still host encodes o)) :
    Current host encodes (outcome m o).2 ∧
      ∀ e, (outcome m o).1 = some e → (outcome m o).2.statePayload = o.statePayload := by
  have done := spec o rfl
  unfold outcome
  cases ran : m o with
  | ok a after =>
    rw [ran] at done
    exact ⟨done, nofun⟩
  | error e after =>
    rw [ran] at done
    exact ⟨done.1, fun _ _ => done.2.payload⟩

theorem perform_spec (ascii : ∀ c : Char, c.toNat < 128 → encodes c = true) {o : GovernedOrganism}
    (call : Invocation) (roomy : call.Roomy o) (current : Current host encodes o) :
    Current host encodes (perform host encodes call.room o call.act).2 ∧
      ∀ e, (perform host encodes call.room o call.act).1 = some e →
        (perform host encodes call.room o call.act).2.statePayload = o.statePayload := by
  have here : ∀ t, t = o → Still host encodes o t := by
    rintro t rfl
    exact ⟨current, rfl, rfl, rfl⟩
  obtain ⟨room, act⟩ := call
  cases act with
  | evaluate args => exact outcome_spec (evaluate_ensures ascii current args roomy)
  | observe eventId generatorId causalKeys =>
    exact outcome_spec ((observeRejection_keeps _ _ _).mono here (fun _ _ => And.left) fun _ => id)
  | authorize candidate grant =>
    exact outcome_spec ((authorizeConstraint_ensures candidate grant).mono here (fun _ _ => id) fun _ => id)
  | stateRoot =>
    exact outcome_spec (stateRoot_ensures.mono here (fun _ _ still => still.2.1) fun _ => And.right)
  | exportState => exact outcome_spec (exportState_still.mono here (fun _ _ => And.left) fun _ => id)
  | restore identity state =>
    have done := @restore_current host encodes room state (blank identity) rfl
    simp only [perform]
    cases ran : restore host encodes room state (blank identity) with
    | ok a restored =>
      rw [ran] at done
      exact ⟨done, nofun⟩
    | error e restored => exact ⟨current, fun _ _ => rfl⟩

/-- A step of a run in which every evaluation that reaches its append has room for it. -/
def PerformsRoomy (host : Host) (encodes : Char → Bool) (o : GovernedOrganism) (call : Invocation)
    (after : GovernedOrganism) : Prop :=
  call.Roomy o ∧ Performs host encodes o call after

theorem Current.run (ascii : ∀ c : Char, c.toNat < 128 → encodes c = true) {o after : GovernedOrganism}
    {calls : List Invocation} (current : Current host encodes o)
    (run : Run (PerformsRoomy host encodes) o calls after) : Current host encodes after := by
  refine run.invariant (Current host encodes) ?_ current
  rintro s call next holds ⟨roomy, rfl⟩
  exact (perform_spec ascii call roomy holds).1

section

variable {o after : GovernedOrganism} {level : Nat}

end

/-! ## A proposal that nests too deep -/

def nest : Nat → Json
  | 0 => .null
  | n + 1 => .arr [nest n]

theorem nested_nest (n : Nat) : nested (nest n) = n := by
  induction n with
  | zero => rfl
  | succ n ih =>
    have inside : nested (nest n) + 1 ≤ nested (nest (n + 1)) := nested_item (List.mem_singleton_self _)
    have around : nested (nest (n + 1)) ≤ n + 1 := nested_arr_le.mpr (by simp [ih])
    omega

/-- A proposal `depth + 1` levels deep. -/
def deepEvaluation (depth : Nat) : Evaluation :=
  ⟨"event-1", .ok [("plan", nest depth)], none, true, true, true⟩

theorem deepEvaluation_nested (depth : Nat) : argumentsNested [("plan", nest depth)] none = depth + 2 := by
  have inside : nested (nest depth) + 1 ≤ nested (.dict [("plan", nest depth)]) :=
    @nested_field _ _ "plan" (by simp)
  have around : nested (.dict [("plan", nest depth)]) ≤ depth + 1 := nested_dict_le (by simp [nested_nest])
  have size := nested_nest depth
  have cloned : nested (jsonClone (.obj [("plan", nest depth)])) = nested (.dict [("plan", nest depth)]) :=
    nested_clone _
  have alone : argumentsNested [("plan", nest depth)] none =
      max (nested (jsonClone (.obj [("plan", nest depth)]))) 1 + 1 := rfl
  omega

def sampleIdentity : Identity :=
  ⟨"organism", "runtime", zeroDigest, "secret", [("authority", "key")], zeroDigest, zeroDigest⟩

/-- Every character but one encodes; it stands for a lone surrogate. -/
def sampleEncodes (c : Char) : Bool := c.toNat != 0xE000

def sampleStep (o : GovernedOrganism) (call : Invocation) : GovernedOrganism :=
  (perform zeroHost sampleEncodes call.room o call.act).2

def evaluateCall : Invocation := ⟨993, .evaluate (deepEvaluation 900)⟩
def unnamedCall : Invocation := ⟨993, .evaluate { deepEvaluation 900 with eventId := "" }⟩
def exportCall : Invocation := ⟨900, .exportState⟩

/-- After an evaluation, one without an event id, and an export deeper in the stack. -/
def sampleOrganism : GovernedOrganism :=
  sampleStep (sampleStep (sampleStep (blank sampleIdentity) evaluateCall) unnamedCall) exportCall

theorem sampleStep_roomy {o : GovernedOrganism} {call : Invocation} (roomy : call.Roomy o) :
    PerformsRoomy zeroHost sampleEncodes o call (sampleStep o call) := ⟨roomy, rfl⟩

theorem sample_roomy : (deepEvaluation 900).Roomy 993 (blank sampleIdentity) := by
  intro proposal human sound _ _
  obtain rfl : [("plan", nest 900)] = proposal := Except.ok.inj sound.proposed
  have alone : human = none := by
    have accompanied := sound.accompanied
    cases human with
    | none => rfl
    | some pairs => cases accompanied
  rw [alone, deepEvaluation_nested]
  exact ⟨by decide, by simp [blank]⟩

theorem sample_run : Run (PerformsRoomy zeroHost sampleEncodes) (blank sampleIdentity)
    [evaluateCall, unnamedCall, exportCall] sampleOrganism :=
  .cons (sampleStep_roomy sample_roomy) <| .cons (sampleStep_roomy fun _ _ sound => absurd rfl sound.named) <|
    .cons (sampleStep_roomy trivial) .nil

end MatVerse.GovernedOrganism.Statements
