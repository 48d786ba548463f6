import MatVerse.Core
import MatVerse.Lib.Fallible

/-! The model bridge: which state may be transferred between models, and the digest
of a handoff. -/
namespace MatVerse

open Fallible

namespace ModelBridge

def protocolVersion : String := "matverse.model-bridge.v1.1"

def allowedRootKeys : List String :=
  ["kind", "public_summary", "decision", "claims", "safety", "state", "evidence", "metadata",
    "ontology_state", "policy_state"]

def forbiddenCanonical : List String :=
  ["chainofthought", "cot", "reasoningtrace", "hiddenreasoning", "hiddenstate", "privatememory",
    "internalmemory", "systemprompt", "developerprompt", "credentials", "apikey", "secretkey",
    "accesstoken", "refreshtoken", "password"]

/-- The ASCII letters and digits of `c.lower()`. Beyond ASCII only the Kelvin sign and
the dotted capital I have one. -/
def lowerAscii (c : Char) : List Char :=
  if c.isUpper then [c.toLower]
  else if c.isLower || c.isDigit then [c]
  else if c.toNat = 0x212A then ['k']
  else if c.toNat = 0x0130 then ['i']
  else []

/-- `canonical_key`: the underscores it puts before capitals are dropped again. -/
def canonicalKey (key : String) : String := String.ofList (key.toList.flatMap lowerAscii)

mutual
def assertNested (path : String) : Json → Except PyError Unit
  | .obj entries => assertEntries path entries
  | .arr items => assertItems path 0 items
  | .null | .bool _ | .int _ | .float _ | .str _ => .ok ()
def assertItems (path : String) (index : Nat) : List Json → Except PyError Unit
  | [] => .ok ()
  | nested :: rest => do
    assertNested (path ++ "[" ++ toString index ++ "]") nested
    assertItems path (index + 1) rest
def assertEntries (path : String) : List (String × Json) → Except PyError Unit
  | [] => .ok ()
  | (key, nested) :: rest => do
    if forbiddenCanonical.contains (canonicalKey key) then
      throw (.valueError ("forbidden hidden/private field at " ++ path ++ "." ++ key))
    assertNested (path ++ "." ++ key) nested
    assertEntries path rest
end

/-- `assert_transferable_state` of a whole document, whose keys are in order. -/
def assertTransferableState (value : Json) : Except PyError Unit :=
  match value with
  | .obj entries =>
    let unexpected := (entries.map Prod.fst).filter (fun key => !allowedRootKeys.contains key)
    if unexpected.isEmpty then assertEntries "$" entries
    else .error (.valueError ("undeclared transferable root fields: " ++ ", ".intercalate unexpected))
  | v => assertNested "$" v

def buildHandoffDigest (host : Host) (sessionId : String) (sequence : Nat) (fromParticipant toParticipant : String)
    (parentHandoffId : Option String) (payload : Mapping) (frozenContractHash : String) : Except PyError String := do
  assertTransferableState (Json.dict payload).norm
  return stableHash host (.dict
    [("protocol_version", .str protocolVersion), ("session_id", .str sessionId), ("sequence", .int sequence),
      ("from_participant", .str fromParticipant), ("to_participant", .str toParticipant),
      ("parent_handoff_id", parentHandoffId.elim .null .str), ("payload", .dict payload),
      ("frozen_contract_hash", .str frozenContractHash)])

end ModelBridge
end MatVerse
