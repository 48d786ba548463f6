import MatVerse.OrganismLoop
import MatVerse.StateStore
import MatVerse.Lib.Fallible

/-! The semantic validator of institutional projections. It reads a document of any
shape: what it cannot iterate over raises. -/
namespace MatVerse

open Fallible

namespace InstitutionalContract

def allowedOperations : List String :=
  ["READ", "LIST", "FILTER", "SEARCH", "RENDER", "EXPORT_PROJECTION", "CREATE_INTENT"]

def forbiddenOperations : List String :=
  ["MUTATE_OMEGA", "APPEND_LEDGER", "FORGE_RECEIPT", "AUTHORIZE_CONSTRAINT", "PROMOTE_MATURITY",
    "ALTER_CONSTITUTION", "ALTER_CONTRACT", "WRITE_CANONICAL_STATE"]

def institutionalRepository : String := "MatVerse-py/Gpt-project-bridge"

structure ContractValidation where
  errors : List String

def ContractValidation.ok (v : ContractValidation) : Bool := v.errors.isEmpty

def ContractValidation.decision (v : ContractValidation) : Decision := if v.ok then .pass else .block

def texts (items : List String) : Json := .arr (items.map .str)

/-- `d.get(key)` compared with `==`. -/
def sameField (v w : Json) (key other : String) : Bool :=
  ((v.get? key).getD .null).pyEq ((w.get? other).getD .null)

def equals (v : Json) (key : String) (expected : Json) : Bool := ((v.get? key).getD .null).pyEq expected

def isAbsent (v : Json) (key : String) : Bool :=
  match v.get? key with
  | none | some .null => true
  | _ => false

def textField (accepts : String → Bool) (v : Json) (key : String) : Bool :=
  match v.get? key with
  | some (.str s) => accepts s
  | _ => false

def isEvidencePointer (v : Json) : Bool :=
  v.isObj && textField (fun _ => true) v "evidence_id" && textField isLowerSha256 v "receipt_hash" &&
    textField isGitObjectId v "source_commit"

def hasEvidence : Option Json → Bool
  | some (.arr items) => !items.isEmpty && items.all isEvidencePointer
  | _ => false

/-- What a `for` loop runs over. -/
def iterate : Json → Except PyError (List Json)
  | .arr items => .ok items
  | .obj entries => .ok (entries.map (fun p => .str p.1))
  | .str s => .ok (s.toList.map (fun c => .str (String.singleton c)))
  | v => .error (.typeError ("'" ++ typeName v ++ "' object is not iterable"))

def iterateField (v : Json) (key : String) : Except PyError (List Json) :=
  match v.get? key with
  | none => .ok []
  | some field => iterate field

def errorIf (c : Bool) (message : String) : List String := if c then [message] else []

@[simp] theorem errorIf_false (message : String) : errorIf false message = [] := rfl

/-! ## The parts of a projection -/

def policyErrors : Option Json → List String
  | some (.obj entries) =>
    let policy := Json.obj entries
    errorIf (!isTrue (policy.get? "projection_only")) "projection_only must be true" ++
    errorIf (!equals policy "write_authority" (.str "NONE"))
      "institutional surface must have no canonical write authority" ++
    errorIf (!equals policy "allowed_operations" (texts allowedOperations)) "allowed_operations mismatch" ++
    errorIf (!equals policy "forbidden_operations" (texts forbiddenOperations)) "forbidden_operations mismatch"
  | _ => ["projection_policy missing"]

def digestErrors (source : Json) (field : String) : List String :=
  errorIf (!textField isLowerSha256 source field) (field ++ " must be a lowercase SHA-256 digest")

def sourceErrors : Option Json → List String
  | some (.obj entries) =>
    let source := Json.obj entries
    errorIf (!equals source "repository" (.str institutionalRepository)) "source repository mismatch" ++
    errorIf (!textField isGitObjectId source "commit_sha") "source commit is not a supported Git object id" ++
    digestErrors source "frozen_contract_hash" ++ digestErrors source "gate_fingerprint" ++
    digestErrors source "constitutional_contract_hash"
  | _ => ["source binding missing"]

def traceErrors (traceId : String) (trace : Json) : List String :=
  let prefixed := "authority trace " ++ traceId ++ ": "
  errorIf (sameField trace trace "proposer_id" "final_validator_id")
    (prefixed ++ "proposer must differ from final validator") ++
  errorIf (!isAbsent trace "generator_id" && sameField trace trace "generator_id" "authorizer_id")
    (prefixed ++ "generator must differ from authorizer") ++
  errorIf (!isAbsent trace "executor_id" && sameField trace trace "executor_id" "evidence_producer_id")
    (prefixed ++ "executor must differ from evidence producer") ++
  errorIf (isStr (trace.get? "decision") "PASS" && !hasEvidence (trace.get? "evidence"))
    (prefixed ++ "PASS requires evidence")

/-- The traces by their ids, and the errors of the list. -/
def readTraces : List Json → List (String × Json) → List String → List (String × Json) × List String
  | [], traces, errors => (traces, errors)
  | trace :: rest, traces, errors =>
    match trace.get? "trace_id" with
    | some (.str traceId) =>
      if (traces.lookup traceId).isSome then
        readTraces rest traces (errors ++ ["duplicate authority trace: " ++ traceId])
      else readTraces rest (traces ++ [(traceId, trace)]) (errors ++ traceErrors traceId trace)
    | _ => readTraces rest traces (errors ++ ["authority trace missing trace_id"])

def authorityTraces : Option Json → List (String × Json) × List String
  | none => ([], [])
  | some (.arr traces) => readTraces traces [] []
  | some _ => ([], ["authority_traces must be an array"])

section
variable (host : Host)

def named (v : Json) (key : String) : String := pyStr host ((v.get? key).getD (.str "<unknown>"))

def maturityErrors (traces : List (String × Json)) (maturity : Json) : List String :=
  if !maturity.isObj then ["invalid maturity entry"]
  else
    let prefixed := "maturity " ++ named host maturity "object_id" ++ ": "
    let trace :=
      match maturity.get? "authority_trace_id" with
      | some (.str traceId) => traces.lookup traceId
      | _ => none
    (match trace with
      | none => [prefixed ++ "authority trace missing"]
      | some trace => errorIf (!sameField maturity trace "validator_id" "final_validator_id")
        (prefixed ++ "validator does not match authority trace")) ++
    errorIf (isStr (maturity.get? "decision") "PASS" && !hasEvidence (maturity.get? "evidence"))
      (prefixed ++ "PASS requires evidence") ++
    errorIf (isStr (maturity.get? "gate") "SCIENTIFIC_PASS" && !isStr (maturity.get? "target_kind") "CLAIM")
      (prefixed ++ "SCIENTIFIC_PASS is claim-scoped")

def subjectErrors (subject : Json) : Except PyError (List String) :=
  if !subject.isObj then .ok ["invalid subject entry"]
  else do
    let identifiers ← iterateField subject "identifiers"
    return identifiers.flatMap fun identifier =>
      errorIf (identifier.isObj && isStr (identifier.get? "decision") "PASS" &&
          !isEvidencePointer ((identifier.get? "witness").getD .null))
        ("subject " ++ named host subject "subject_id" ++ ": verified identifier requires witness")

/-- The items of a collection whose `PASS` needs evidence. -/
def itemErrors (collection singular idField decisionField : String) (item : Json) : List String :=
  if !item.isObj then ["invalid " ++ collection ++ " entry"]
  else errorIf (isStr (item.get? decisionField) "PASS" && !hasEvidence (item.get? "evidence"))
    (singular ++ " " ++ named host item idField ++ ": PASS requires evidence")

def relationErrors (relation : Json) : List String :=
  if !relation.isObj then ["invalid relation entry"]
  else errorIf (isStr (relation.get? "decision") "PASS" &&
      !isEvidencePointer ((relation.get? "witness").getD .null))
    ("relation " ++ named host relation "relation_id" ++ ": PASS requires witness")

def metadataErrors : Option Json → List String
  | some (.obj entries) =>
    let projection := Json.obj entries
    errorIf (!equals projection "hash_algorithm" (.str "SHA-256")) "projection hash algorithm mismatch" ++
    errorIf (!equals projection "canonicalization" (.str "RFC8785_JCS"))
      "projection canonicalization mismatch" ++
    errorIf (!equals projection "hash_excludes" (texts ["projection.projection_hash"]))
      "projection hash exclusion mismatch" ++
    digestErrors projection "projection_hash"
  | _ => ["projection metadata missing"]

def validateProjectionSemantics (payload : Json) : Except PyError ContractValidation := do
  let (traces, traceErrors) := authorityTraces (payload.get? "authority_traces")
  let maturity ← iterateField payload "maturity"
  let subjects ← iterateField payload "subjects"
  let ofSubjects ← subjects.mapM (subjectErrors host)
  let artifacts ← iterateField payload "artifacts"
  let claims ← iterateField payload "claims"
  let experiments ← iterateField payload "experiments"
  let relations ← iterateField payload "relations"
  return ⟨policyErrors (payload.get? "projection_policy") ++ sourceErrors (payload.get? "source") ++
    traceErrors ++ maturity.flatMap (maturityErrors host traces) ++ ofSubjects.flatten ++
    artifacts.flatMap (itemErrors host "artifacts" "artifact" "artifact_id" "status") ++
    claims.flatMap (itemErrors host "claims" "claim" "claim_id" "decision") ++
    experiments.flatMap (itemErrors host "experiments" "experiment" "experiment_id" "status") ++
    relations.flatMap (relationErrors host) ++ metadataErrors (payload.get? "projection")⟩

end

end InstitutionalContract
end MatVerse
