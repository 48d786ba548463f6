import MatVerse.Lib.JsonRoundTrip
import MatVerse.Lib.Hex

/-! The gates and the evidence of the core: `stable_hash`, canonical JSON, the
human-data boundary, the omega gate, Merkle roots and evidence receipts. -/
namespace MatVerse

/-- Bytes are compared as arrays, whichever instances the imports bring. -/
instance decidableEqBytes (a b : ByteArray) : Decidable (a = b) :=
  decidable_of_iff (a.data = b.data) ByteArray.ext_iff.symm

/-- The primitives the code takes from its platform. A digest is a text of
hexadecimal digits; what else a result needs of it is a hypothesis of that result. -/
structure Host where
  sha256 : ByteArray → String
  sha256Digits : ∀ bytes, Hex.Digits (sha256 bytes)
  /-- `hmac.new(key, message, sha256).hexdigest()`. -/
  hmac : ByteArray → ByteArray → String
  hmacDigits : ∀ key message, Hex.Digits (hmac key message)
  /-- `inspect.getsource` of a module or function, by its qualified name. -/
  source : String → String
  /-- `str` of a list or dict. -/
  containerText : Json → String

/-- The exceptions the modelled code raises. A parser's own texts are left out. -/
inductive PyError where
  | valueError (message : String)
  | permissionError (message : String)
  | runtimeError (message : String)
  | typeError (message : String)
  | attributeError (message : String)
  | keyError (key : String)
  | lookupError (message : String)
  | assertionError
  | overflowError (message : String)
  | zeroDivisionError (message : String)
  | recursionError (message : String)
  /-- `sqlite3.IntegrityError`. -/
  | integrityError (message : String)
  | projectionUnavailable (message : String)
  | httpException (status : Nat) (detail : String)
  | jsonDecodeError
  deriving DecidableEq

/-- A mapping argument: its pairs, the later pair of a key winning. -/
abbrev Mapping := List (String × Json)

def canonicalJson (v : Json) : String := JsonText.dumps JsonText.compact v.norm

/-- `json.loads(canonical_json(value))`. -/
def jsonClone (v : Json) : Json :=
  match JsonText.loads (canonicalJson v) with
  | some w => w
  | none => .null

@[simp] theorem loads_canonicalJson (v : Json) : JsonText.loads (canonicalJson v) = some v.norm := by
  simp [canonicalJson]

@[simp] theorem jsonClone_eq (v : Json) : jsonClone v = v.norm := by
  simp [jsonClone]

theorem canonicalJson_injective {v w : Json} (same : canonicalJson v = canonicalJson w) :
    v.norm = w.norm :=
  JsonText.dumps_injective same

@[simp] theorem canonicalJson_norm (v : Json) : canonicalJson v.norm = canonicalJson v := by
  simp [canonicalJson]

/-! ## Hashes -/

section
variable (host : Host)

def sha256Text (text : String) : String := host.sha256 text.toUTF8

def hmacText (secret text : String) : String := host.hmac secret.toUTF8 text.toUTF8

def stableHash (v : Json) : String := sha256Text host (canonicalJson v)

def pairUp : List String → List String
  | [] => []
  | [a] => [sha256Text host (a ++ a)]
  | a :: b :: rest => sha256Text host (a ++ b) :: pairUp rest

/-- The levels of a Merkle tree; each halves the one below, so the number of
leaves is fuel enough. -/
def merkleLevels : Nat → List String → String
  | _, [] => sha256Text host ""
  | _, [root] => root
  | 0, root :: _ => root
  | fuel + 1, level => merkleLevels fuel (pairUp host level)

def merkleRoot (leaves : List String) : String := merkleLevels host leaves.length leaves

end

/-- `hmac.compare_digest` of a digest with a supplied text. -/
def compareDigest (expected supplied : String) : Except PyError Bool :=
  if supplied.toList.all (fun c => c.toNat < 128) then .ok (expected == supplied)
  else .error (.typeError "comparing strings with non-ASCII characters is not supported")

theorem compareDigest_true {expected supplied : String}
    (equal : compareDigest expected supplied = .ok true) : expected = supplied := by
  unfold compareDigest at equal
  split at equal
  · simpa using equal
  · cases equal

/-- SHA-256 taken to have no collision. -/
def Host.CollisionFree (host : Host) : Prop := Function.Injective host.sha256

/-- No two of the texts have one digest. -/
def Host.CollisionFreeOn (host : Host) (texts : String → Prop) : Prop :=
  ∀ a b, texts a → texts b → sha256Text host a = sha256Text host b → a = b

def Host.Sha256Length (host : Host) : Prop := ∀ bytes, (host.sha256 bytes).length = 64

/-- Digests that spell out what they digest: no two collide. -/
def hexHost : Host where
  sha256 := Hex.text
  sha256Digits := Hex.digits_text
  hmac key message := Hex.text (key ++ message)
  hmacDigits _ _ := Hex.digits_text _
  source name := name
  containerText _ := ""

def zeroDigest : String := "0000000000000000000000000000000000000000000000000000000000000000"

theorem zeroDigest_digits : Hex.Digits zeroDigest := by
  unfold Hex.Digits
  decide

/-- A host with one digest, of the right length. -/
def zeroHost : Host where
  sha256 _ := zeroDigest
  sha256Digits _ := zeroDigest_digits
  hmac _ _ := zeroDigest
  hmacDigits _ _ := zeroDigest_digits
  source name := name
  containerText _ := ""

theorem zeroHost_sha256Length : zeroHost.Sha256Length := by
  intro bytes
  show zeroDigest.length = 64
  decide

/-- A host with digests of the right length, which tell the texts of a sample apart. -/
def wordHost : Host where
  sha256 bytes := Hex.text (Hex.word bytes)
  sha256Digits _ := Hex.digits_text _
  hmac key message := Hex.text (Hex.word (key ++ message))
  hmacDigits _ _ := Hex.digits_text _
  source name := name
  containerText _ := ""

theorem wordHost_sha256Length : wordHost.Sha256Length := by
  intro bytes
  show (Hex.text (Hex.word bytes)).length = 64
  rw [Hex.length_text, Hex.size_word]

theorem hexHost_collisionFree : hexHost.CollisionFree := Hex.text_injective

theorem canonicalJson_ne_empty (v : Json) : canonicalJson v ≠ "" := by
  intro empty
  have read := loads_canonicalJson v
  rw [empty] at read
  cases read

theorem hexHost_stableHash_ne_empty (v : Json) : stableHash hexHost v ≠ "" := by
  intro empty
  have none : hexHost.sha256 "".toUTF8 = "" := by decide
  exact canonicalJson_ne_empty v
    (String.toByteArray_inj.mp (hexHost_collisionFree (empty.trans none.symm)))

theorem compareDigest_digits {digest : String} (digits : Hex.Digits digest) :
    compareDigest digest digest = .ok true := by
  have ascii : digest.toList.all (fun c => c.toNat < 128) = true := by
    apply List.all_eq_true.mpr
    intro c member
    simpa using Hex.isDigit_ascii (List.all_eq_true.mp digits c member)
  simp [compareDigest, ascii]

theorem compareDigest_self (host : Host) (key message : ByteArray) :
    compareDigest (host.hmac key message) (host.hmac key message) = .ok true :=
  compareDigest_digits (host.hmacDigits key message)

theorem sha256Text_injective {host : Host} (free : host.CollisionFree) {a b : String}
    (same : sha256Text host a = sha256Text host b) : a = b :=
  String.toByteArray_inj.mp (free same)

theorem stableHash_injective {host : Host} (free : host.CollisionFree) {v w : Json}
    (same : stableHash host v = stableHash host w) : v.norm = w.norm :=
  canonicalJson_injective (sha256Text_injective free same)

@[simp] theorem stableHash_norm (host : Host) (v : Json) : stableHash host v.norm = stableHash host v := by
  simp [stableHash]

/-! ## Gates -/

inductive Decision where
  | pass
  | block
  | hold
  deriving DecidableEq

def Decision.value : Decision → String
  | .pass => "PASS"
  | .block => "BLOCK"
  | .hold => "HOLD"

def decisionValues : List String := [Decision.pass.value, Decision.block.value, Decision.hold.value]

theorem Decision.value_mem (d : Decision) : d.value ∈ decisionValues := by
  cases d <;> simp [decisionValues]

theorem Decision.value_injective {d e : Decision} (same : d.value = e.value) : d = e := by
  cases d <;> cases e <;> simp [Decision.value] at same ⊢

structure HDBResult where
  decision : Decision
  reason : String

def blockedActions : List String := ["COMMIT", "EXECUTE", "EXPORT", "PUBLISH", "PROVIDER_EXPOSURE"]

def isTrue (v : Option Json) : Bool :=
  match v with
  | some (.bool true) => true
  | _ => false

def isStr (v : Option Json) (s : String) : Bool :=
  match v with
  | some (.str t) => t == s
  | _ => false

def evaluateHdb (human : Option Json) : HDBResult :=
  match human with
  | none => ⟨.pass, "no human data"⟩
  | some human =>
    if isTrue (human.get? "serialize_human") then ⟨.block, "H must not be serialized"⟩
    else if isTrue (human.get? "third_party") && !isTrue (human.get? "third_party_consent") then
      ⟨.block, "third-party data without consent"⟩
    else if isStr (human.get? "sensitivity") "SECRET" then ⟨.block, "SECRET is non-exportable"⟩
    else if !isTrue (human.get? "consent") then ⟨.hold, "human data requires explicit consent"⟩
    else if !((human.get? "purpose").elim false Json.truthy) then ⟨.hold, "purpose binding required"⟩
    else ⟨.pass, "authorized representation"⟩

def omegaGate (hdb : HDBResult) (action : String) (ontologyOk signatureValid transitionValid : Bool) :
    Decision × String :=
  if !ontologyOk then (.block, "ontology violation")
  else
    match hdb.decision with
    | .block => (.block, hdb.reason)
    | .hold => (.hold, hdb.reason)
    | .pass =>
      if !signatureValid then (.block, "invalid signature")
      else if signatureValid && !transitionValid then (.block, "valid_signature != valid_transition")
      else if blockedActions.contains action && !transitionValid then (.block, "critical action denied")
      else (.pass, "admissible transition")

/-! ## Evidence -/

structure EvidenceReceipt where
  eventType : String
  inputHash : String
  outputHash : String
  merkleRoot : String
  receiptHash : String
  deriving DecidableEq

def EvidenceReceipt.core (eventType inputHash outputHash merkleRoot : String) : Mapping :=
  [("schema", .str "matverse.evidence-receipt.v1"),
    ("event_type", .str eventType),
    ("input_hash", .str inputHash),
    ("output_hash", .str outputHash),
    ("merkle_root", .str merkleRoot)]

def EvidenceReceipt.toJson (r : EvidenceReceipt) : Json :=
  .dict (core r.eventType r.inputHash r.outputHash r.merkleRoot ++ [("receipt_hash", .str r.receiptHash)])

def evidenceReceipt (host : Host) (eventType : String) (inputs outputs : Json) : EvidenceReceipt :=
  let inputHash := sha256Text host (canonicalJson inputs)
  let outputHash := sha256Text host (canonicalJson outputs)
  let root := merkleRoot host [inputHash, outputHash]
  ⟨eventType, inputHash, outputHash, root,
    sha256Text host (canonicalJson (.dict (EvidenceReceipt.core eventType inputHash outputHash root)))⟩

/-- A receipt commits to its event type, its inputs and its outputs. -/
theorem evidenceReceipt_injective {host : Host} (free : host.CollisionFree)
    {t t' : String} {i i' o o' : Json}
    (same : (evidenceReceipt host t i o).receiptHash = (evidenceReceipt host t' i' o').receiptHash) :
    t = t' ∧ i.norm = i'.norm ∧ o.norm = o'.norm := by
  have core := canonicalJson_injective (sha256Text_injective free same)
  have field (key : String) := congrArg (Json.get? key) core
  have eventType := field "event_type"
  have inputHash := field "input_hash"
  have outputHash := field "output_hash"
  simp [EvidenceReceipt.core] at eventType inputHash outputHash
  exact ⟨eventType, canonicalJson_injective (sha256Text_injective free inputHash),
    canonicalJson_injective (sha256Text_injective free outputHash)⟩

end MatVerse
