import MatVerse.BridgeEnvelope

/-! What a causal envelope says about itself: its identity hashes what it exports, its
payload thaws to the value it was built from, the spelling of its timestamp leaves no
trace, and it is fresh until it expires. -/
namespace MatVerse.Bridge

open Fallible

/-! ## Frozen payloads -/

mutual
/-- The JSON value that `json` reads in a payload, if it is one. -/
def PyValue.json : PyValue → Option Json
  | .mapping entries => do
    let entries ← PyValue.jsonEntries entries
    return .obj entries
  | .list items => do
    let items ← PyValue.jsonItems items
    return .arr items
  | .tuple items => do
    let items ← PyValue.jsonItems items
    return .arr items
  | .null => some .null
  | .bool b => some (.bool b)
  | .int i => some (.int i)
  | .float x => some (.float x)
  | .str s => some (.str s)
  | .unsupported _ => none
def PyValue.jsonItems : List PyValue → Option (List Json)
  | [] => some []
  | item :: rest => do
    let v ← PyValue.json item
    let others ← PyValue.jsonItems rest
    return v :: others
def PyValue.jsonEntries : List (Option String × PyValue) → Option (List (String × Json))
  | [] => some []
  | (none, _) :: _ => none
  | (some key, item) :: rest => do
    let v ← PyValue.json item
    let others ← PyValue.jsonEntries rest
    return (key, v) :: others
end

mutual
/-- Thawing a frozen value gives the JSON value that was frozen. -/
theorem thaw_freezeJson : (v : PyValue) → ∀ {frozen}, freezeJson v = .ok frozen → v.json = some (thawJson frozen)
  | .null, _, done | .bool _, _, done | .int _, _, done | .float _, _, done | .str _, _, done => by
    cases done
    rfl
  | .unsupported _, _, done => by cases done
  | .list items, _, done | .tuple items, _, done => by
    simp only [freezeJson, bind_ok, pure_ok] at done
    obtain ⟨frozen, inside, rfl⟩ := done
    simp [PyValue.json, thaw_freezeItems items inside, thawJson]
  | .mapping entries, _, done => by
    simp only [freezeJson, bind_ok, pure_ok] at done
    obtain ⟨frozen, inside, rfl⟩ := done
    simp [PyValue.json, thaw_freezeEntries entries inside, thawJson]
theorem thaw_freezeItems : (items : List PyValue) → ∀ {frozen}, freezeItems items = .ok frozen →
    PyValue.jsonItems items = some (thawItems frozen)
  | [], _, done => by
    cases done
    rfl
  | item :: rest, _, done => by
    simp only [freezeItems, bind_ok, pure_ok] at done
    obtain ⟨head, first, tail, others, rfl⟩ := done
    simp [PyValue.jsonItems, thaw_freezeJson item first, thaw_freezeItems rest others, thawItems]
theorem thaw_freezeEntries : (entries : List (Option String × PyValue)) → ∀ {frozen},
    freezeEntries entries = .ok frozen → PyValue.jsonEntries entries = some (thawEntries frozen)
  | [], _, done => by
    cases done
    rfl
  | (none, _) :: _, _, done => by cases done
  | (some key, item) :: rest, _, done => by
    simp only [freezeEntries, bind_ok, pure_ok] at done
    obtain ⟨head, first, tail, others, rfl⟩ := done
    simp [PyValue.jsonEntries, thaw_freezeJson item first, thaw_freezeEntries rest others, thawEntries]
end

/-! ## Identities -/

variable {host : Host} {calendar : Calendar} {clock : Utc} {a : EnvelopeArguments} {e : CausalEnvelope}

/-- The dictionary whose hash is the identity of an envelope. -/
def CausalEnvelope.identity (e : CausalEnvelope) : List (String × Json) :=
  [("protocol_version", .str protocolVersion), ("source", .str e.source), ("destination", .str e.destination),
    ("actor", .str e.actor), ("objective_id", .str e.objectiveId), ("capability", .str e.capability),
    ("schema", .str e.schema), ("authority_ref", .str e.authorityRef), ("policy_ref", .str e.policyRef),
    ("correlation_id", .str e.correlationId), ("payload", thawJson e.payload), ("context_refs", e.contextRefs),
    ("causation_id", e.causationId), ("timestamp", .str e.timestamp), ("ttl_seconds", .int e.ttlSeconds),
    ("expires_at", .str e.expiresAt), ("evidence_refs", e.evidenceRefs),
    ("epistemic_nature", .str e.epistemicNature.value), ("analytic_status", .str e.analyticStatus.value)]

/-- The exported dictionary without the identity itself and the signature. -/
def CausalEnvelope.unsigned (e : CausalEnvelope) : List (String × Json) :=
  e.asDict.filter (fun entry => entry.1 != "envelope_id" && entry.1 != "signature")

/-- The two dictionaries hold the same entries in another order. -/
theorem unsigned_perm (e : CausalEnvelope) : e.unsigned.Perm e.identity := by
  have order : [18, 0, 1, 2, 3, 4, 6, 8, 9, 10, 5, 7, 11, 12, 13, 14, 15, 16, 17].Perm (List.range 19) := by decide
  have listed : e.unsigned = (List.range 19).map (fun i => e.unsigned.getD i ("", .null)) := by
    simp [CausalEnvelope.unsigned, CausalEnvelope.asDict, List.range_succ]
  have same : e.identity = [18, 0, 1, 2, 3, 4, 6, 8, 9, 10, 5, 7, 11, 12, 13, 14, 15, 16, 17].map
      (fun i => e.unsigned.getD i ("", .null)) := by
    simp [CausalEnvelope.unsigned, CausalEnvelope.asDict, CausalEnvelope.identity]
  rw [listed, same]
  exact (order.map _).symm

theorem stableHash_perm {xs ys : List (String × Json)} (perm : xs.Perm ys) (distinct : (ys.map Prod.fst).Nodup) :
    stableHash host (.obj xs) = stableHash host (.obj ys) := by
  have same : (Json.obj xs).norm = (Json.obj ys).norm := by
    rw [Json.norm_obj, Json.norm_obj, Json.dict, Json.dict]
    refine congrArg Json.obj (Dict.ofPairs_perm (perm.map _) ?_)
    simpa [Function.comp_def] using distinct
  rw [stableHash, canonicalJson, same]
  rfl

/-- What an accepted call has made. -/
structure Built (host : Host) (calendar : Calendar) (clock : Utc) (a : EnvelopeArguments) (e : CausalEnvelope)
    (observed expires : Utc) : Prop where
  ttl : a.ttlSeconds = .int e.ttlSeconds ∧ 0 < e.ttlSeconds
  canonical : canonicalizeTimestamp calendar clock a.timestamp = .ok (observed, e.timestamp)
  expiry : expires.1 = observed.1 + e.ttlSeconds * 1000000
  expiresAt : e.expiresAt = calendar.isoformat expires
  payload : freezeJson a.payload = .ok e.payload
  identity : e.envelopeId = stableHash host (.obj e.identity)

theorem requireTtl_ok {v : Json} {ttl : Int} (done : requireTtl v = .ok ttl) : v = .int ttl ∧ 0 < ttl := by
  cases v with
  | int i =>
    rw [requireTtl] at done
    split at done
    · cases done
    next positive =>
      cases done
      exact ⟨rfl, not_le.mp positive⟩
  | _ => cases done

theorem utcOf_ok {t : Int} {u : Utc} : utcOf t = .ok u ↔ u.1 = t := by
  unfold utcOf
  constructor
  · intro done
    split at done
    · cases done
      rfl
    · cases done
  · rintro rfl
    exact dif_pos u.2

theorem addSeconds_ok {t u : Utc} {seconds : Int} (done : addSeconds t seconds = .ok u) :
    u.1 = t.1 + seconds * 1000000 := by
  simp only [addSeconds, guard_ok] at done
  exact utcOf_ok.mp done.2

theorem buildEnvelope_ok (done : buildEnvelope host calendar clock a = .ok e) :
    ∃ observed expires, Built host calendar clock a e observed expires := by
  simp only [buildEnvelope, bind_ok, pure_ok] at done
  obtain ⟨source, -, destination, -, actor, -, objectiveId, -, capability, -, schema, -, authorityRef, -, policyRef, -,
    correlationId, -, ttl, positive, ⟨observed, observedAt⟩, canonical, expires, added, frozen, froze, rfl⟩ := done
  exact ⟨observed, expires, requireTtl_ok positive, canonical, addSeconds_ok added, rfl, froze, rfl⟩

/-! ## Freshness -/

/-- What the code relies on: `isoformat` writes a text that starts with a digit and that
`fromisoformat` reads back. -/
structure Calendar.Reads (calendar : Calendar) : Prop where
  starts : ∀ t, ∃ c, (calendar.wallText t).toList.head? = some c ∧ Text.isSpace c = false
  roundTrip : ∀ t, calendar.fromisoformat (calendar.isoformat t) = some (.ofUtc t)

theorem instant_ofUtc (t : Utc) : (DateTime.ofUtc t).instant? = some t.1 := by
  simp [DateTime.ofUtc, DateTime.instant?]

theorem strip_isoformat (reads : calendar.Reads) (t : Utc) :
    Text.strip (calendar.isoformat t) = calendar.isoformat t := by
  obtain ⟨c, first, mark⟩ := reads.starts t.1
  apply Text.strip_of_ends
  · intro d head
    rw [Calendar.isoformat, String.toList_append, List.head?_append, first] at head
    obtain rfl := Option.some.inj head
    exact mark
  · intro d tail
    rw [Calendar.isoformat, String.toList_append, List.getLast?_append] at tail
    obtain rfl := Option.some.inj tail
    decide

theorem expandZulu_isoformat (t : Utc) : expandZulu (calendar.isoformat t) = calendar.isoformat t := by
  refine if_neg ?_
  rw [Calendar.isoformat, String.toList_append, List.getLast?_append]
  show some '0' ≠ some 'Z'
  decide

theorem canonicalize_isoformat (reads : calendar.Reads) (t : Utc) :
    canonicalizeTimestamp calendar clock (.str (calendar.isoformat t)) = .ok (t, calendar.isoformat t) := by
  have text : requireNonemptyString "timestamp" (.str (calendar.isoformat t)) = .ok (calendar.isoformat t) := by
    obtain ⟨c, first, mark⟩ := reads.starts t.1
    have some : (calendar.isoformat t).toList.head? = some c := by
      rw [Calendar.isoformat, String.toList_append, List.head?_append, first]
      rfl
    have nonempty : (Text.strip (calendar.isoformat t) == "") = false :=
      beq_false_of_ne (Text.strip_ne_empty some mark)
    rw [requireNonemptyString, nonempty, strip_isoformat reads]
    rfl
  simp only [canonicalizeTimestamp, text, ok_bind, expandZulu_isoformat, reads.roundTrip, instant_ofUtc,
    utcOf_ok.mpr rfl]
  rfl

/-- The outcome of the freshness check of a built envelope at an aware time. -/
theorem assertEnvelopeFresh_iff (reads : calendar.Reads) {observed expires : Utc}
    (built : Built host calendar clock a e observed expires) (clock' : Utc) {now : DateTime} {instant : Int}
    (aware : now.instant? = some instant) :
    assertEnvelopeFresh calendar clock' e (some now) = .ok true ↔
      0 ≤ instant ∧ instant < observed.1 + e.ttlSeconds * 1000000 := by
  have current (u : Utc) : canonicalizeTimestamp calendar clock' (.str e.expiresAt) = .ok (expires, e.expiresAt) := by
    rw [built.expiresAt]
    exact canonicalize_isoformat reads expires
  simp only [assertEnvelopeFresh, Option.getD_some, aware, bind_ok, utcOf_ok, guard_ok, pure_ok, and_true,
    Prod.exists]
  rw [← built.expiry]
  constructor
  · rintro ⟨u, rfl, expiry, text, read, later⟩
    rw [current u] at read
    cases read
    exact ⟨u.2.1, not_le.mp later⟩
  · rintro ⟨first, before⟩
    exact ⟨⟨instant, first, (before.trans_le expires.2.2).le⟩, rfl, expires, e.expiresAt, current expires,
      not_le.mpr before⟩

/-- A timestamp is a spelling of an instant. -/
def Denotes (calendar : Calendar) (timestamp : Json) (instant : Int) : Prop :=
  ∃ text parsed, timestamp = .str text ∧ Text.strip text ≠ "" ∧
    calendar.fromisoformat (expandZulu (Text.strip text)) = some parsed ∧ parsed.instant? = some instant

theorem canonicalize_denotes {timestamp : Json} {instant : Int} (denotes : Denotes calendar timestamp instant) :
    canonicalizeTimestamp calendar clock timestamp =
      (utcOf instant).map (fun parsed => (parsed, calendar.isoformat parsed)) := by
  obtain ⟨text, parsed, rfl, written, read, same⟩ := denotes
  have text' : requireNonemptyString "timestamp" (.str text) = .ok (Text.strip text) := by
    rw [requireNonemptyString, beq_false_of_ne written]
    rfl
  simp only [canonicalizeTimestamp, text', ok_bind, read, same]
  cases utcOf instant <;> rfl

theorem buildEnvelope_spelling {timestamp other : Json} {instant : Int} (first : Denotes calendar timestamp instant)
    (second : Denotes calendar other instant) (clock' : Utc) (a : EnvelopeArguments) :
    buildEnvelope host calendar clock { a with timestamp := timestamp } =
      buildEnvelope host calendar clock' { a with timestamp := other } := by
  simp only [buildEnvelope, canonicalize_denotes first, canonicalize_denotes second]

/-- What an envelope says about itself. -/
structure SelfVerifying (host : Host) (calendar : Calendar) : Prop where
  /-- The exported dictionary without identity and signature hashes to the identity. -/
  identity : ∀ clock (a : EnvelopeArguments) e, buildEnvelope host calendar clock a = .ok e →
    stableHash host (.obj e.unsigned) = e.envelopeId
  /-- The thawed payload is the JSON normal form of the payload passed in. -/
  payload : ∀ clock (a : EnvelopeArguments) e, buildEnvelope host calendar clock a = .ok e →
    ∃ v, a.payload.json = some v ∧ (thawJson e.payload).norm = jsonClone v
  /-- The spelling of the timestamp makes no difference. -/
  spelling : ∀ clock clock' (a : EnvelopeArguments) timestamp other instant, Denotes calendar timestamp instant →
    Denotes calendar other instant →
      buildEnvelope host calendar clock { a with timestamp := timestamp } =
        buildEnvelope host calendar clock' { a with timestamp := other }
  /-- The envelope is fresh before its timestamp plus its time to live, at every time that
  has a `datetime` in UTC. -/
  fresh : ∀ clock (a : EnvelopeArguments) e, buildEnvelope host calendar clock a = .ok e → ∃ observed ttl,
    canonicalizeTimestamp calendar clock a.timestamp = .ok (observed, e.timestamp) ∧ a.ttlSeconds = .int ttl ∧
      ∀ clock' now instant, now.instant? = some instant →
        (assertEnvelopeFresh calendar clock' e (some now) = .ok true ↔
          0 ≤ instant ∧ instant < observed.1 + ttl * 1000000)

theorem identity_distinct (e : CausalEnvelope) : (e.identity.map Prod.fst).Nodup := by
  simp [CausalEnvelope.identity]

theorem causal_envelope (host : Host) (calendar : Calendar) (reads : calendar.Reads) : SelfVerifying host calendar where
  identity clock a e done := by
    obtain ⟨_, _, built⟩ := buildEnvelope_ok done
    rw [built.identity]
    exact stableHash_perm (unsigned_perm e) (identity_distinct e)
  payload clock a e done := by
    obtain ⟨_, _, built⟩ := buildEnvelope_ok done
    exact ⟨_, thaw_freezeJson a.payload built.payload, (jsonClone_eq _).symm⟩
  spelling _ clock' a _ _ _ first second := buildEnvelope_spelling first second clock' a
  fresh clock a e done := by
    obtain ⟨observed, _, built⟩ := buildEnvelope_ok done
    exact ⟨observed, e.ttlSeconds, built.canonical, built.ttl.1, fun clock' now instant aware =>
      assertEnvelopeFresh_iff reads built clock' aware⟩

/-! ## A sample -/

/-- Times written as their microseconds. -/
def countCalendar : Calendar where
  wallText t := String.ofList (NumberText.digitsText t.toNat)
  fromisoformat text :=
    let count : Int := NumberText.digitsValue (text.toList.take (text.toList.length - 6))
    if ranged : 0 ≤ count ∧ count ≤ lastMicrosecond then some ⟨count, some 0, ranged⟩ else none

theorem countCalendar_reads : countCalendar.Reads where
  starts t := by
    obtain ⟨nonempty, digits⟩ := NumberText.allDigits_digitsText t.toNat
    obtain ⟨c, rest, shape⟩ := List.exists_cons_of_ne_nil nonempty
    refine ⟨c, by simp [countCalendar, shape], Hex.isDigit_not_space ?_⟩
    simp [Hex.isDigit, digits c (by simp [shape])]
  roundTrip t := by
    have text : (countCalendar.isoformat t).toList = NumberText.digitsText t.1.toNat ++ "+00:00".toList := by
      simp [Calendar.isoformat, countCalendar]
    have digits : (countCalendar.isoformat t).toList.take ((countCalendar.isoformat t).toList.length - 6) =
        NumberText.digitsText t.1.toNat := by
      rw [text, List.length_append]
      exact List.take_left' (by simp)
    have count : (NumberText.digitsValue (NumberText.digitsText t.1.toNat) : Int) = t.1 := by
      rw [NumberText.digitsValue_digitsText, Int.toNat_of_nonneg t.2.1]
    show (if ranged : _ then _ else _) = _
    simp only [digits, count]
    exact dif_pos t.2

theorem causal_envelope_sample : SelfVerifying zeroHost countCalendar :=
  causal_envelope zeroHost countCalendar countCalendar_reads

def firstInstant : Utc := ⟨0, by decide⟩

def sampleArguments : EnvelopeArguments where
  source := .str "codex-cloud"
  destination := .str "atlas"
  actor := .str "engineering-agent"
  objectiveId := .str "objective-7"
  capability := .str "record-task-result"
  payload := .mapping [(some "task_id", .str "task_e_1"), (some "files", .tuple [.str "app/core.py"])]
  schema := .str "matverse.codex-task.v1"
  authorityRef := .str "gate:decision-1"
  policyRef := .str "policy:bridge-1"
  correlationId := .str "trajectory-4"
  epistemicNature := .runtime
  analyticStatus := .fact
  contextRefs := .arr []
  causationId := .str "task_e_0"
  evidenceRefs := .arr [.str "commit:abc"]
  timestamp := .null
  ttlSeconds := .int 60
  signature := .null

/-- The first `datetime`, one hour east of UTC. -/
def beforeFirst : DateTime := ⟨0, some 3600000000, by decide⟩

/-- An aware time before the expiry that UTC has no `datetime` for: the check raises. -/
theorem fresh_refused_before_first :
    ∃ e, buildEnvelope zeroHost countCalendar firstInstant sampleArguments = .ok e ∧
      canonicalizeTimestamp countCalendar firstInstant sampleArguments.timestamp = .ok (firstInstant, e.timestamp) ∧
      beforeFirst.instant? = some (-3600000000) ∧ -3600000000 < firstInstant.1 + e.ttlSeconds * 1000000 ∧
      assertEnvelopeFresh countCalendar firstInstant e (some beforeFirst) =
        .error (.overflowError "date value out of range") := by
  refine ⟨_, rfl, rfl, rfl, by decide, rfl⟩

end MatVerse.Bridge
