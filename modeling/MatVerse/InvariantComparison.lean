import MatVerse.TransferableState
import MatVerse.Lib.JsonValue

/-! Two model results compared by declared invariants: the rules read values of the host
language, their meaning is about JSON values. -/
namespace MatVerse.ModelBridge

open Fallible

inductive InvariantMode where
  | exact
  | setEqual
  | typeEqual
  deriving DecidableEq

def InvariantMode.ofText (text : String) : Option InvariantMode :=
  if text = "exact" then some .exact
  else if text = "set_equal" then some .setEqual
  else if text = "type_equal" then some .typeEqual
  else none

/-- A rule, whose path and mode may be missing. -/
structure InvariantRule where
  path : Option String
  mode : Option String

def InvariantRule.pathText (rule : InvariantRule) : String := rule.path.getD ""
def InvariantRule.modeText (rule : InvariantRule) : String := rule.mode.getD "exact"

structure InvariantResult where
  path : String
  mode : InvariantMode
  passed : Bool
  left : Json
  right : Json

/-- `path.split(".")`. -/
def segments (path : String) : List String := (path.toList.splitOn '.').map String.ofList

def resolvePath (document : Json) (path : String) : Except PyError Json :=
  (segments path).foldlM (fun current part =>
    if part = "" then .error (.valueError "invariant path cannot contain empty segments")
    else
      match current.get? part with
      | some value => .ok value
      | none => .error (.keyError path)) document

inductive PyType where
  | none
  | bool
  | int
  | float
  | str
  | list
  | dict
  deriving DecidableEq

def pyType : Json → PyType
  | .null => .none
  | .bool _ => .bool
  | .int _ => .int
  | .float _ => .float
  | .str _ => .str
  | .arr _ => .list
  | .obj _ => .dict

def hashable : Json → Bool
  | .arr _ | .obj _ => false
  | _ => true

/-- `set(value)` by its elements; a dictionary gives its keys, `none` is a `TypeError`. -/
def toSet : Json → Option (List Json)
  | .arr items => if items.all hashable then some items else none
  | .obj entries => some (entries.map (fun p => .str p.1))
  | _ => none

def inSet (set : List Json) (v : Json) : Bool := set.any (fun w => (v.isNan && w.isNan) || v.pyEq w)

def sameSets (xs ys : List Json) : Bool := xs.all (inSet ys) && ys.all (inSet xs)

def compareValues (left right : Json) : InvariantMode → Bool
  | .exact => left.pyEq right
  | .typeEqual => pyType left = pyType right
  | .setEqual =>
    if pyType left = .str ∨ pyType right = .str then false
    else
      match toSet left, toSet right with
      | some xs, some ys => sameSets xs ys
      | _, _ => false

def compareInvariant (left right : Json) (path : String) (mode : InvariantMode) : Except PyError InvariantResult :=
  let compared : Except PyError InvariantResult := do
    let leftValue ← resolvePath left path
    let rightValue ← resolvePath right path
    return ⟨path, mode, compareValues leftValue rightValue mode, leftValue, rightValue⟩
  match compared with
  | .error (.keyError _) => .ok ⟨path, mode, false, .null, .null⟩
  | other => other

/-- The body of the loop over the rules. -/
def compareRule (left right : Json) (rule : InvariantRule) : Except PyError InvariantResult :=
  match InvariantMode.ofText rule.modeText with
  | none => .error (.valueError ("unsupported invariant mode: " ++ rule.modeText))
  | some mode => compareInvariant left right rule.pathText mode

structure Comparison where
  protocolVersion : String
  portable : Bool
  passed : Nat
  total : Nat
  results : List InvariantResult

def Comparison.ofResults (results : List InvariantResult) : Comparison where
  protocolVersion := ModelBridge.protocolVersion
  portable := results.all InvariantResult.passed
  passed := results.countP InvariantResult.passed
  total := results.length
  results := results

/-- `compare_invariants` of two documents as their dictionaries. -/
def compareInvariants (left right : Json) (rules : List InvariantRule) : Except PyError Comparison := do
  assertTransferableState left
  assertTransferableState right
  if rules.isEmpty then throw (.valueError "at least one pre-declared invariant rule is required")
  let results ← rules.mapM (compareRule left right)
  return .ofResults results

/-! ## What the modes mean -/

/-- A JSON document whose state may be transferred. -/
structure Document (v : Json) : Prop where
  normal : v.Normal
  finite : v.finite = true
  transferable : Transferable v

/-- A path without empty segments and a mode of the three. -/
def InvariantRule.WellFormed (rule : InvariantRule) : Prop :=
  "" ∉ segments rule.pathText ∧ (InvariantMode.ofText rule.modeText).isSome = true

def valueAt (document : Json) (path : String) : Option Json :=
  (segments path).foldlM (fun current part => current.get? part) document

/-- Two arrays with the same elements. -/
def SameSet : JsonValue → JsonValue → Prop
  | .arr xs, .arr ys => ∀ v, v ∈ xs ↔ v ∈ ys
  | _, _ => False

def Agree (v w : Json) : InvariantMode → Prop
  | .exact => v.meaning = w.meaning
  | .setEqual => SameSet v.meaning w.meaning
  | .typeEqual => v.meaning.kind = w.meaning.kind

def scalar : JsonValue → Bool
  | .arr _ | .obj _ => false
  | _ => true

/-- The elements of a flat array, or the keys of an object. -/
def members : JsonValue → Option (List JsonValue)
  | .arr items => if items.all scalar then some items else none
  | .obj entries => some (entries.map (fun p => .str p.1))
  | _ => none

/-- The same members once booleans are read as numbers. -/
def LooseSets (v w : JsonValue) : Prop :=
  ∃ xs ys, members v = some xs ∧ members w = some ys ∧ ∀ e, e ∈ xs.map JsonValue.numbered ↔
    e ∈ ys.map JsonValue.numbered

/-- Values that agree only when booleans are read as numbers, or objects as their keys. -/
def Lenient (v w : Json) : InvariantMode → Prop
  | .exact => v.loose = w.loose ∧ v.meaning ≠ w.meaning
  | .setEqual => LooseSets v.meaning w.meaning ∧ ¬SameSet v.meaning w.meaning
  | .typeEqual => False

/-- Values that agree, but hold a number in two ways or have elements inside of elements. -/
def Strict (v w : Json) : InvariantMode → Prop
  | .exact => False
  | .setEqual => SameSet v.meaning w.meaning ∧ ∃ xs, v.meaning = .arr xs ∧ ∃ x ∈ xs, scalar x = false
  | .typeEqual => ∃ i x, (v = .int i ∧ w = .float x) ∨ (v = .float x ∧ w = .int i)

/-- What a relation of two values says of a rule on two documents. -/
def OnRule (relation : Json → Json → InvariantMode → Prop) (left right : Json) (rule : InvariantRule) : Prop :=
  ∃ mode v w, InvariantMode.ofText rule.modeText = some mode ∧ valueAt left rule.pathText = some v ∧
    valueAt right rule.pathText = some w ∧ relation v w mode

/-! ## Values -/

section
variable {v w : Json}

theorem hashable_eq (v : Json) : hashable v = scalar v.meaning := by
  cases v <;> simp [hashable, scalar, Json.meaning]

theorem toSet_members (v : Json) : (toSet v).map (fun items => items.map Json.meaning) = members v.meaning := by
  cases v with
  | arr items =>
    have flat : (items.map Json.meaning).all scalar = items.all hashable := by
      rw [List.all_map]
      exact congrArg items.all (funext fun x => (hashable_eq x).symm)
    rw [Json.meaning_arr, members, flat, toSet]
    split <;> rfl
  | obj entries => simp [toSet, members, Json.meaning, Json.meaningEntries_eq]
  | _ => rfl

theorem toSet_finite (finite : v.finite = true) {items : List Json} (set : toSet v = some items) :
    ∀ x ∈ items, x.finite = true := by
  cases v with
  | arr xs =>
    simp only [toSet, Option.ite_none_right_eq_some, Option.some.injEq] at set
    rw [← set.2]
    exact Json.finite_arr.mp finite
  | obj entries =>
    simp only [toSet, Option.some.injEq] at set
    subst set
    intro x among
    obtain ⟨p, -, rfl⟩ := List.mem_map.mp among
    rfl
  | _ => cases set

theorem inSet_iff {set : List Json} (finite : v.finite = true) (others : ∀ x ∈ set, x.finite = true) :
    inSet set v = true ↔ v.loose ∈ set.map Json.loose := by
  simp only [inSet, Json.isNan_of_finite finite, Bool.false_and, Bool.false_or, List.any_eq_true, List.mem_map]
  refine exists_congr fun w => and_congr_right fun among => ?_
  rw [Json.pyEq_iff finite (others w among), eq_comm]

theorem sameSets_iff {xs ys : List Json} (left : ∀ x ∈ xs, x.finite = true) (right : ∀ y ∈ ys, y.finite = true) :
    sameSets xs ys = true ↔ ∀ e, e ∈ xs.map Json.loose ↔ e ∈ ys.map Json.loose := by
  have within {xs ys : List Json} (left : ∀ x ∈ xs, x.finite = true) (right : ∀ y ∈ ys, y.finite = true) :
      xs.all (inSet ys) = true ↔ ∀ e ∈ xs.map Json.loose, e ∈ ys.map Json.loose := by
    rw [List.all_eq_true, List.forall_mem_map]
    exact forall₂_congr fun x among => inSet_iff (left x among) right
  rw [sameSets, Bool.and_eq_true, within left right, within right left]
  exact ⟨fun both e => ⟨both.1 e, both.2 e⟩, fun same => ⟨fun e => (same e).mp, fun e => (same e).mpr⟩⟩

theorem setEqual_iff : compareValues v w .setEqual = true ↔
    ∃ xs ys, toSet v = some xs ∧ toSet w = some ys ∧ sameSets xs ys = true := by
  have text {v : Json} (str : pyType v = .str) : toSet v = none := by
    cases v <;> first | rfl | cases str
  rw [compareValues]
  split
  next str =>
    refine iff_of_false (by simp) ?_
    rintro ⟨xs, ys, first, second, -⟩
    rcases str with str | str
    · rw [text str] at first
      cases first
    · rw [text str] at second
      cases second
  · cases toSet v <;> cases toSet w <;> simp

theorem compareValues_setEqual (left : v.finite = true) (right : w.finite = true) :
    compareValues v w .setEqual = true ↔ LooseSets v.meaning w.meaning := by
  have elements {v : Json} {items : List Json} (set : toSet v = some items) :
      members v.meaning = some (items.map Json.meaning) := by
    rw [← toSet_members, set, Option.map_some]
  have none {v : Json} (scalar : toSet v = none) : members v.meaning = none := by
    rw [← toSet_members, scalar, Option.map_none]
  rw [setEqual_iff]
  constructor
  · rintro ⟨xs, ys, first, second, same⟩
    refine ⟨_, _, elements first, elements second, ?_⟩
    rw [sameSets_iff (toSet_finite left first) (toSet_finite right second)] at same
    simpa [Json.loose, Function.comp_def] using same
  · rintro ⟨ms, ns, first, second, same⟩
    cases set : toSet v with
    | none =>
      rw [none set] at first
      cases first
    | some xs =>
      cases set' : toSet w with
      | none =>
        rw [none set'] at second
        cases second
      | some ys =>
        rw [elements set, Option.some.injEq] at first
        rw [elements set', Option.some.injEq] at second
        subst first second
        refine ⟨xs, ys, rfl, rfl, (sameSets_iff (toSet_finite left set) (toSet_finite right set')).mpr ?_⟩
        simpa [Json.loose, Function.comp_def] using same

/-- Two arrays with the same elements are equal as sets of the host exactly when they are flat. -/
theorem looseSets_of_same (same : SameSet v.meaning w.meaning) :
    LooseSets v.meaning w.meaning ↔ ¬∃ xs, v.meaning = .arr xs ∧ ∃ x ∈ xs, scalar x = false := by
  unfold SameSet at same
  split at same
  next xs ys left right =>
    rw [left, right]
    have flat : xs.all scalar = true ↔ ¬∃ zs, JsonValue.arr xs = .arr zs ∧ ∃ x ∈ zs, scalar x = false := by
      simp
    rw [← flat]
    constructor
    · rintro ⟨ms, ns, first, -⟩
      simp only [members, Option.ite_none_right_eq_some] at first
      exact first.1
    · intro scalars
      have others : ys.all scalar = true := by
        rw [List.all_eq_true] at scalars ⊢
        exact fun y among => scalars y ((same y).mpr among)
      refine ⟨xs, ys, if_pos scalars, if_pos others, fun e => ?_⟩
      simp only [List.mem_map, same]
  · exact same.elim

theorem lenient_disagrees {mode : InvariantMode} (lenient : Lenient v w mode) : ¬Agree v w mode := by
  cases mode with
  | exact => exact lenient.2
  | setEqual => exact lenient.2
  | typeEqual => exact lenient.elim

theorem strict_agrees {mode : InvariantMode} (strict : Strict v w mode) : Agree v w mode := by
  cases mode with
  | exact => exact strict.elim
  | setEqual => exact strict.1
  | typeEqual => obtain ⟨i, x, ⟨rfl, rfl⟩ | ⟨rfl, rfl⟩⟩ := strict <;> rfl

theorem compareValues_iff (left : v.finite = true) (right : w.finite = true) (mode : InvariantMode) :
    compareValues v w mode = true ↔ (Agree v w mode ∧ ¬Strict v w mode) ∨ Lenient v w mode := by
  cases mode with
  | exact =>
    simp only [compareValues, Json.pyEq_iff left right, Agree, Strict, not_false_eq_true, and_true, Lenient]
    constructor
    · intro equal
      by_cases same : v.meaning = w.meaning
      · exact .inl same
      · exact .inr ⟨equal, same⟩
    · rintro (same | ⟨equal, -⟩)
      · exact congrArg JsonValue.numbered same
      · exact equal
  | setEqual =>
    rw [compareValues_setEqual left right]
    simp only [Agree, Strict, Lenient]
    by_cases same : SameSet v.meaning w.meaning
    · rw [looseSets_of_same same]
      simp [same]
    · simp [same]
  | typeEqual =>
    simp only [Agree, Strict, Lenient, or_false, compareValues, decide_eq_true_eq]
    cases v <;> cases w <;> simp [pyType, Json.meaning, JsonValue.kind]

end

/-! ## Rules -/

/-- On a path without empty segments the resolution is the value there. -/
theorem resolvePath_eq (document : Json) {path : String} (proper : "" ∉ segments path) :
    resolvePath document path = (valueAt document path).elim (.error (.keyError path)) .ok := by
  unfold resolvePath valueAt
  generalize segments path = parts at proper
  induction parts generalizing document with
  | nil => rfl
  | cons part rest ih =>
    rw [List.mem_cons, not_or] at proper
    rw [List.foldlM_cons, List.foldlM_cons, if_neg (Ne.symm proper.1)]
    cases document.get? part with
    | none => rfl
    | some value => exact ih value proper.2

theorem valueAt_finite {document v : Json} {path : String} (finite : document.finite = true)
    (found : valueAt document path = some v) : v.finite = true := by
  unfold valueAt at found
  generalize segments path = parts at found
  induction parts generalizing document with
  | nil =>
    obtain rfl := Option.some.inj found
    exact finite
  | cons part rest ih =>
    rw [List.foldlM_cons, Option.bind_eq_bind, Option.bind_eq_some_iff] at found
    obtain ⟨value, first, others⟩ := found
    refine ih ?_ others
    cases document with
    | obj entries => exact Json.finite_obj.mp finite _ (Dict.get?_mem first)
    | _ => cases first

section
variable {left right : Json} {rule : InvariantRule}

/-- The host accepts the values of a rule. -/
def Passes (v w : Json) (mode : InvariantMode) : Prop := compareValues v w mode = true

theorem compareInvariant_ok (proper : "" ∉ segments rule.pathText) {mode : InvariantMode}
    (named : InvariantMode.ofText rule.modeText = some mode) :
    ∃ result, compareInvariant left right rule.pathText mode = .ok result ∧
      (result.passed = true ↔ OnRule Passes left right rule) := by
  unfold compareInvariant
  rw [resolvePath_eq left proper, resolvePath_eq right proper]
  unfold OnRule
  rw [named]
  cases valueAt left rule.pathText with
  | none => exact ⟨_, rfl, by simp⟩
  | some v =>
    cases valueAt right rule.pathText with
    | none => exact ⟨_, rfl, by simp⟩
    | some w => exact ⟨_, rfl, by simp [Passes]⟩

theorem passes_iff (leftDocument : Document left) (rightDocument : Document right) : OnRule Passes left right rule ↔
    (OnRule Agree left right rule ∧ ¬OnRule Strict left right rule) ∨ OnRule Lenient left right rule := by
  unfold OnRule
  constructor
  · rintro ⟨mode, v, w, named, first, second, passes⟩
    rcases (compareValues_iff (valueAt_finite leftDocument.finite first) (valueAt_finite rightDocument.finite second)
      mode).mp passes with ⟨agree, plain⟩ | lenient
    · refine .inl ⟨⟨mode, v, w, named, first, second, agree⟩, ?_⟩
      rintro ⟨mode', v', w', named', first', second', strict⟩
      rw [named, Option.some.injEq] at named'
      rw [first, Option.some.injEq] at first'
      rw [second, Option.some.injEq] at second'
      subst named' first' second'
      exact plain strict
    · exact .inr ⟨mode, v, w, named, first, second, lenient⟩
  · have accepted {mode : InvariantMode} {v w : Json} (first : valueAt left rule.pathText = some v)
        (second : valueAt right rule.pathText = some w) :=
      compareValues_iff (valueAt_finite leftDocument.finite first) (valueAt_finite rightDocument.finite second) mode
    rintro (⟨⟨mode, v, w, named, first, second, agree⟩, plain⟩ | ⟨mode, v, w, named, first, second, lenient⟩)
    · refine ⟨mode, v, w, named, first, second, (accepted first second).mpr (.inl ⟨agree, fun strict => plain ?_⟩)⟩
      exact ⟨mode, v, w, named, first, second, strict⟩
    · exact ⟨mode, v, w, named, first, second, (accepted first second).mpr (.inr lenient)⟩

theorem lenient_not_agree (lenient : OnRule Lenient left right rule) : ¬OnRule Agree left right rule := by
  obtain ⟨mode, v, w, named, first, second, lenient⟩ := lenient
  rintro ⟨mode', v', w', named', first', second', agree⟩
  rw [named, Option.some.injEq] at named'
  rw [first, Option.some.injEq] at first'
  rw [second, Option.some.injEq] at second'
  subst named' first' second'
  exact lenient_disagrees lenient agree

theorem strict_agree (strict : OnRule Strict left right rule) : OnRule Agree left right rule := by
  obtain ⟨mode, v, w, named, first, second, strict⟩ := strict
  exact ⟨mode, v, w, named, first, second, strict_agrees strict⟩

end

/-- Tests that accept too much on the items of one kind and too little on those of another
answer rightly on all items together exactly when the kinds occur together, where no item
is plainly refused. -/
theorem all_accepted_iff {α : Type} {items : List α} {P S L T : α → Prop}
    (tests : ∀ a ∈ items, P a ↔ (S a ∧ ¬T a) ∨ L a) (apart : ∀ a ∈ items, L a → ¬S a)
    (within : ∀ a ∈ items, T a → S a) : ((∀ a ∈ items, P a) ↔ ∀ a ∈ items, S a) ↔
      ((∀ a ∈ items, S a ∨ L a) → ((∃ a ∈ items, L a) ↔ ∃ a ∈ items, T a)) := by
  constructor
  · intro agree near
    constructor
    · rintro ⟨a, member, lenient⟩
      by_contra none
      refine apart a member lenient (agree.mp (fun b member => (tests b member).mpr ?_) a member)
      exact (near b member).imp_left fun holds => ⟨holds, fun strict => none ⟨b, member, strict⟩⟩
    · rintro ⟨a, member, strict⟩
      by_contra none
      have holds (b : α) (member : b ∈ items) : S b :=
        (near b member).resolve_right fun lenient => none ⟨b, member, lenient⟩
      rcases (tests a member).mp (agree.mpr holds a member) with ⟨-, plain⟩ | lenient
      · exact plain strict
      · exact none ⟨a, member, lenient⟩
  · intro together
    constructor
    · intro accepted a member
      by_contra fails
      have lenient : L a := ((tests a member).mp (accepted a member)).resolve_left fun both => fails both.1
      have near (b : α) (member : b ∈ items) : S b ∨ L b := ((tests b member).mp (accepted b member)).imp_left And.left
      obtain ⟨b, member', strict⟩ := (together near).mp ⟨a, member, lenient⟩
      rcases (tests b member').mp (accepted b member') with ⟨-, plain⟩ | lenient'
      · exact plain strict
      · exact apart b member' lenient' (within b member' strict)
    · intro holds a member
      refine (tests a member).mpr (.inl ⟨holds a member, fun strict => ?_⟩)
      obtain ⟨b, member', lenient⟩ := (together fun b member => .inl (holds b member)).mpr ⟨a, member, strict⟩
      exact apart b member' lenient (holds b member')

theorem compareInvariants_passes {left right : Json} {rules : List InvariantRule} (leftDocument : Document left)
    (rightDocument : Document right) (declared : rules ≠ []) (wellFormed : ∀ rule ∈ rules, rule.WellFormed) :
    ∃ comparison, compareInvariants left right rules = .ok comparison ∧
      (comparison.portable = true ↔ ∀ rule ∈ rules, OnRule Passes left right rule) := by
  have each (rule : InvariantRule) (member : rule ∈ rules) :
      ∃ result, compareRule left right rule = .ok result ∧ (result.passed = true ↔ OnRule Passes left right rule) := by
    obtain ⟨proper, supported⟩ := wellFormed rule member
    obtain ⟨mode, named⟩ := Option.isSome_iff_exists.mp supported
    rw [compareRule, named]
    exact compareInvariant_ok proper named
  obtain ⟨results, compared⟩ := mapM_ok fun rule member => (each rule member).imp fun _ => And.left
  refine ⟨.ofResults results, ?_, ?_⟩
  · rw [compareInvariants, (assertTransferableState_ok left).mpr leftDocument.transferable, ok_bind,
      (assertTransferableState_ok right).mpr rightDocument.transferable, ok_bind, if_neg (by simpa using declared),
      compared]
    rfl
  · simp only [Comparison.ofResults, List.all_eq_true]
    constructor
    · intro all rule member
      obtain ⟨result, among, made⟩ := mapM_image compared rule member
      obtain ⟨result', made', passed⟩ := each rule member
      obtain rfl := Except.ok.inj (made.symm.trans made')
      exact passed.mp (all result among)
    · intro all result among
      obtain ⟨rule, member, made⟩ := mapM_mem compared result among
      obtain ⟨result', made', passed⟩ := each rule member
      obtain rfl := Except.ok.inj (made.symm.trans made')
      exact passed.mpr (all rule member)

/-- When the comparison is portable exactly as its rules mean. -/
theorem compareInvariants_portable {left right : Json} {rules : List InvariantRule} (leftDocument : Document left)
    (rightDocument : Document right) (declared : rules ≠ []) (wellFormed : ∀ rule ∈ rules, rule.WellFormed) :
    ∃ comparison, compareInvariants left right rules = .ok comparison ∧
      ((comparison.portable = true ↔ ∀ rule ∈ rules, OnRule Agree left right rule) ↔
        ((∀ rule ∈ rules, OnRule Agree left right rule ∨ OnRule Lenient left right rule) →
          ((∃ rule ∈ rules, OnRule Lenient left right rule) ↔ ∃ rule ∈ rules, OnRule Strict left right rule))) := by
  obtain ⟨comparison, done, portable⟩ := compareInvariants_passes leftDocument rightDocument declared wellFormed
  refine ⟨comparison, done, ?_⟩
  rw [portable]
  exact all_accepted_iff (fun rule _ => passes_iff leftDocument rightDocument) (fun rule _ => lenient_not_agree)
    (fun rule _ => strict_agree)

/-! ## One rule on one field -/

def decisionDocument (decision : Json) : Json := .obj [("decision", decision)]

theorem decisionDocument_document {decision : Json} (normal : decision.Normal) (finite : decision.finite = true)
    (clean : Clean decision) : Document (decisionDocument decision) where
  normal := Json.normal_obj.mpr ⟨List.pairwise_singleton _ _, by simpa using normal⟩
  finite := Json.finite_obj.mpr (by simpa using finite)
  transferable := {
    root := by
      rintro entries same p among
      cases same
      obtain rfl := List.mem_singleton.mp among
      simp [allowedRootKeys]
    clean := clean_obj.mpr (by simpa using ⟨by decide, clean⟩) }

def decisionRule : InvariantRule := ⟨some "decision", none⟩

theorem decisionRule_wellFormed : decisionRule.WellFormed :=
  ⟨by decide, by decide⟩

theorem onRule_decision (relation : Json → Json → InvariantMode → Prop) (v w : Json) :
    OnRule relation (decisionDocument v) (decisionDocument w) decisionRule ↔ relation v w .exact := by
  have named : InvariantMode.ofText decisionRule.modeText = some .exact := by decide
  have found (u : Json) : valueAt (decisionDocument u) decisionRule.pathText = some u := rfl
  simp [OnRule, named, found]

/-- The same text on both sides. -/
theorem decision_portable :
    ∃ comparison, compareInvariants (decisionDocument (.str "PASS")) (decisionDocument (.str "PASS")) [decisionRule] =
      .ok comparison ∧ comparison.portable = true := by
  have document : Document (decisionDocument (.str "PASS")) :=
    decisionDocument_document (Json.norm_str "PASS") rfl fun _ => nofun
  obtain ⟨comparison, done, rightly⟩ := compareInvariants_portable document document (List.cons_ne_nil _ [])
    (List.forall_mem_singleton.mpr decisionRule_wellFormed)
  simp only [List.mem_singleton, forall_eq, exists_eq_left, onRule_decision] at rightly
  refine ⟨comparison, done, (rightly.mpr fun _ => ?_).mpr rfl⟩
  exact iff_of_false (fun lenient => lenient.2 rfl) (fun strict => strict)

/-- The number one is taken for `true`. -/
theorem one_taken_for_true :
    ∃ left right rules comparison, Document left ∧ Document right ∧ rules ≠ [] ∧ (∀ rule ∈ rules, rule.WellFormed) ∧
      compareInvariants left right rules = .ok comparison ∧ comparison.portable = true ∧
      ¬∀ rule ∈ rules, OnRule Agree left right rule := by
  have first : Document (decisionDocument (.bool true)) :=
    decisionDocument_document (Json.norm_bool true) rfl fun _ => nofun
  have second : Document (decisionDocument (.int 1)) := decisionDocument_document (Json.norm_int 1) rfl fun _ => nofun
  have wellFormed := List.forall_mem_singleton.mpr decisionRule_wellFormed
  obtain ⟨comparison, done, portable⟩ := compareInvariants_passes first second (List.cons_ne_nil _ []) wellFormed
  refine ⟨_, _, _, comparison, first, second, List.cons_ne_nil _ _, wellFormed, done, portable.mpr ?_, ?_⟩
  · rw [List.forall_mem_singleton, onRule_decision]
    exact (Json.pyEq_iff rfl rfl).mpr (by simp)
  · rw [List.forall_mem_singleton, onRule_decision]
    simp [Agree, Json.meaning]

end MatVerse.ModelBridge
