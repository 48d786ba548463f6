import MatVerse.Lib.Binary64
import MatVerse.Lib.Dict

/-! Behavioural drift over several lenses. A lens without telemetry is silent; the others
drift, stay below their onset, or are undecided. The adjudicator combines their labels
with the lineage. -/
namespace MatVerse.Drift

inductive Verdict where
  | continuity
  | drift
  | dissenso
  | clone
  | distinct
  | silence
  | escalate
  | infeasible
  deriving DecidableEq

inductive Label where
  | silence
  | drift
  | noDrift
  | undecided
  deriving DecidableEq

def le (x y : Binary64) : Bool := x.lt y || x.eqv y

structure LensReading where
  lensId : String
  fromTelemetryWindow : Bool
  perProbe : List Binary64
  onset : Binary64
  ciLow : Binary64
  ciHigh : Binary64
  named : lensId ≠ ""
  probes : ∀ x ∈ perProbe, x.isFinite = true ∧ le (.zero false) x = true
  finite : onset.isFinite = true ∧ ciLow.isFinite = true ∧ ciHigh.isFinite = true
  interval : ciHigh.lt ciLow = false

/-- `__post_init__`. -/
def LensReading.create (lensId : String) (fromTelemetryWindow : Bool) (perProbe : List Binary64)
    (onset ciLow ciHigh : Binary64) : Except String LensReading :=
  if named : lensId = "" then .error "lens_id não pode ser vazio"
  else if probes : ∀ x ∈ perProbe, x.isFinite = true ∧ le (.zero false) x = true then
    if finite : onset.isFinite = true ∧ ciLow.isFinite = true ∧ ciHigh.isFinite = true then
      if interval : ciHigh.lt ciLow = false then
        .ok ⟨lensId, fromTelemetryWindow, perProbe, onset, ciLow, ciHigh, named, probes, finite, interval⟩
      else .error "ci_low não pode ser maior que ci_high"
    else .error "onset e intervalo de confiança devem ser finitos"
  else .error "per_probe deve conter valores finitos não negativos"

def LensReading.classify (lens : LensReading) : Label :=
  if !lens.fromTelemetryWindow || lens.perProbe.isEmpty then .silence
  else if lens.onset.lt lens.ciLow then .drift
  else if le lens.ciHigh lens.onset then .noDrift
  else .undecided

/-- A float divided by a positive integer. -/
def dividedBy (x : Binary64) (n : Nat) : Binary64 := (x.toRat?.map (fun q => Binary64.ofSigned (q / n))).getD x

structure AscCertificate where
  kappa : Binary64
  omegaHat : Binary64
  spectralEntropy : Binary64
  nullBaselinePassed : Bool

def AscCertificate.certifiesPreservation (c : AscCertificate) : Bool := c.nullBaselinePassed

structure ViabilityReading where
  regulatorVariety : Binary64
  disturbanceVariety : Binary64

def ViabilityReading.feasible (v : ViabilityReading) : Bool := le v.disturbanceVariety v.regulatorVariety

inductive Aggregation where
  | existsLens
  | forallLenses
  deriving DecidableEq

structure TwoAxisAdjudicator where
  k : Nat
  aggregation : Aggregation
  positive : 1 ≤ k

def TwoAxisAdjudicator.create (quorumK : Int) (aggregation : String) : Except String TwoAxisAdjudicator :=
  if small : quorumK < 1 then .error "quorum_k deve ser >= 1"
  else if aggregation = "exists" then .ok ⟨quorumK.toNat, .existsLens, by omega⟩
  else if aggregation = "forall" then .ok ⟨quorumK.toNat, .forallLenses, by omega⟩
  else .error "agregação deve ser 'exists' (fail-closed) ou 'forall'"

/-- An entry of the detail: a lens, or the reason of the verdict. -/
inductive DetailEntry where
  | reading (label : Label) (meanC onset : Binary64)
  | reason (text : String)

abbrev Detail := List (String × DetailEntry)

def withReason (detail : Detail) (text : String) : Detail := Dict.insert "reason" (.reason text) detail

section
-- the rounding of the interpreter's `sum` of floats depends on its version
variable (sum : List Binary64 → Binary64)

def LensReading.meanC (lens : LensReading) : Binary64 :=
  if lens.perProbe.isEmpty then .zero false else dividedBy (sum lens.perProbe) lens.perProbe.length

def adjudicate (a : TwoAxisAdjudicator) (lineageContinuous : Option Bool) (lenses : List LensReading)
    (viability : Option ViabilityReading) (asc : Option AscCertificate) : Verdict × Detail :=
  if viability.any (fun v => !v.feasible) then
    (.infeasible, withReason [] "ashby: variedade do regulador insuficiente")
  else
    let labels := lenses.map LensReading.classify
    let detail : Detail := Dict.ofPairs ((lenses.zip labels).map fun (lens, label) =>
      (lens.lensId, .reading label ((lens.meanC sum).round 4) lens.onset))
    if lenses.isEmpty || labels.all (· == .silence) then (.silence, detail)
    else
      match lineageContinuous with
      | none => (.escalate, withReason detail "linhagem indecidível")
      | some continuous =>
        if asc.any (fun c => !c.certifiesPreservation) then
          (.escalate, withReason detail "ASC sem certificado de preservação")
        else
          let drifting := labels.filter (· == .drift)
          let undecided := labels.filter (· == .undecided)
          if 0 < drifting.length ∧ drifting.length < a.k then
            (.dissenso, withReason detail "lentes discordam sob o mesmo par")
          else if !undecided.isEmpty && drifting.isEmpty then
            (.escalate, withReason detail "IC cruza o onset")
          else
            let drift : Bool :=
              match a.aggregation with
              | .existsLens => !drifting.isEmpty
              | .forallLenses => labels.all (· == .drift)
            (if continuous then if drift then .drift else .continuity else if drift then .distinct else .clone, detail)

end

/-! ## The verdict by counts -/

/-- How many lenses are silent, drift, stay below and are undecided. -/
structure Tally where
  silent : Nat
  drift : Nat
  noDrift : Nat
  undecided : Nat

namespace Tally

def ofLabels (labels : List Label) : Tally where
  silent := labels.count .silence
  drift := labels.count .drift
  noDrift := labels.count .noDrift
  undecided := labels.count .undecided

def heard (t : Tally) : Nat := t.drift + t.noDrift + t.undecided

/-- Whether the behaviour drifted, once neither dissent nor doubt is left. -/
def drifted (t : Tally) : Aggregation → Bool
  | .existsLens => 0 < t.drift
  | .forallLenses => t.silent + t.noDrift + t.undecided = 0

def settled (continuous drift : Bool) : Verdict :=
  if continuous then if drift then .drift else .continuity else if drift then .distinct else .clone

def verdict (t : Tally) (a : TwoAxisAdjudicator) (lineageContinuous : Option Bool) (feasible certified : Bool) :
    Verdict :=
  if !feasible then .infeasible
  else if t.heard = 0 then .silence
  else
    match lineageContinuous with
    | none => .escalate
    | some continuous =>
      if !certified then .escalate
      else if 0 < t.drift ∧ t.drift < a.k then .dissenso
      else if 0 < t.undecided ∧ t.drift = 0 then .escalate
      else settled continuous (t.drifted a.aggregation)

theorem settled_inj {continuous drift other : Bool} : settled continuous drift = settled continuous other ↔
    drift = other := by
  cases continuous <;> cases drift <;> cases other <;> simp [settled]

theorem all_silent {labels : List Label} : labels.all (· == .silence) = true ↔ (ofLabels labels).heard = 0 := by
  simp only [heard, ofLabels, Nat.add_eq_zero_iff, List.count_eq_zero, List.all_eq_true, beq_iff_eq]
  constructor
  · intro all
    refine ⟨⟨fun other => ?_, fun other => ?_⟩, fun other => ?_⟩ <;> cases all _ other
  · rintro ⟨⟨noDrifting, noOthers⟩, noUndecided⟩ label among
    cases label <;> first | rfl | contradiction

theorem all_drift {labels : List Label} :
    labels.all (· == .drift) = (ofLabels labels).drifted .forallLenses := by
  rw [Bool.eq_iff_iff]
  simp only [drifted, ofLabels, decide_eq_true_eq, Nat.add_eq_zero_iff, List.count_eq_zero, List.all_eq_true,
    beq_iff_eq]
  constructor
  · intro all
    refine ⟨⟨fun other => ?_, fun other => ?_⟩, fun other => ?_⟩ <;> cases all _ other
  · rintro ⟨⟨noSilence, noOthers⟩, noUndecided⟩ label among
    cases label <;> first | rfl | contradiction

/-- Every lens that was heard drifts, they make the quorum, and all lenses are asked. -/
def Unanimous (t : Tally) (a : TwoAxisAdjudicator) : Prop :=
  a.aggregation = .forallLenses ∧ t.noDrift = 0 ∧ t.undecided = 0 ∧ a.k ≤ t.drift

/-- Counts that differ in the silent lenses only. -/
structure SameHeard (t u : Tally) : Prop where
  drift : t.drift = u.drift
  noDrift : t.noDrift = u.noDrift
  undecided : t.undecided = u.undecided

variable {t u : Tally} {a : TwoAxisAdjudicator}

theorem drifted_eq_iff (same : SameHeard t u) (heard : t.heard ≠ 0) (quorum : t.drift = 0 ∨ a.k ≤ t.drift) :
    t.drifted a.aggregation = u.drifted a.aggregation ↔ (t.Unanimous a → (t.silent = 0 ↔ u.silent = 0)) := by
  obtain ⟨drift, noDrift, undecided⟩ := same
  have positive := a.positive
  unfold Unanimous drifted Tally.heard at *
  cases a.aggregation with
  | existsLens => simp [drift]
  | forallLenses =>
    rw [decide_eq_decide]
    simp only [true_and]
    omega

/-- Silent lenses change the verdict only where the lenses that were heard all drift. -/
theorem verdict_eq_iff (same : SameHeard t u) (heard : t.heard ≠ 0) (lineageContinuous : Option Bool)
    (feasible certified : Bool) :
    t.verdict a lineageContinuous feasible certified = u.verdict a lineageContinuous feasible certified ↔
      (feasible = true ∧ lineageContinuous.isSome = true ∧ certified = true ∧ t.Unanimous a →
        (t.silent = 0 ↔ u.silent = 0)) := by
  have also : u.heard ≠ 0 := by
    simpa only [Tally.heard, ← same.drift, ← same.noDrift, ← same.undecided] using heard
  unfold verdict
  cases feasible with
  | false => simp
  | true =>
    cases lineageContinuous with
    | none => simp [heard, also]
    | some continuous =>
      cases certified with
      | false => simp [heard, also]
      | true =>
        simp only [heard, also, ← same.drift, ← same.undecided, Bool.not_true, Bool.false_eq_true, if_false,
          Option.isSome_some, true_and]
        by_cases dissent : 0 < t.drift ∧ t.drift < a.k
        · have none : ¬t.Unanimous a := fun all => absurd all.2.2.2 (by omega)
          simp [dissent, none]
        · by_cases doubt : 0 < t.undecided ∧ t.drift = 0
          · have none : ¬t.Unanimous a := fun all => absurd all.2.2.1 (by omega)
            simp [doubt, none]
          · rw [if_neg dissent, if_neg doubt, if_neg dissent, if_neg doubt, settled_inj,
              drifted_eq_iff same heard (by omega)]

end Tally

/-! ## Silent lenses -/

def tally (lenses : List LensReading) : Tally := .ofLabels (lenses.map LensReading.classify)

def voices (lenses : List LensReading) : List LensReading := lenses.filter (fun lens => lens.classify != .silence)

section
variable (sum : List Binary64 → Binary64) (a : TwoAxisAdjudicator) (lineageContinuous : Option Bool)
variable (viability : Option ViabilityReading) (asc : Option AscCertificate) (lenses : List LensReading)

theorem adjudicate_verdict : (adjudicate sum a lineageContinuous lenses viability asc).1 =
    (tally lenses).verdict a lineageContinuous (viability.all ViabilityReading.feasible)
      (asc.all AscCertificate.certifiesPreservation) := by
  have infeasible : viability.any (fun v => !v.feasible) = !viability.all ViabilityReading.feasible := by
    cases viability <;> simp
  have uncertified : asc.any (fun c => !c.certifiesPreservation) = !asc.all AscCertificate.certifiesPreservation := by
    cases asc <;> simp
  have quiet : (lenses.isEmpty || (lenses.map LensReading.classify).all (· == .silence)) = true ↔
      (tally lenses).heard = 0 := by
    rw [tally, ← Tally.all_silent]
    cases lenses <;> simp
  have drifting : ((lenses.map LensReading.classify).filter (· == .drift)).length = (tally lenses).drift :=
    List.count_eq_length_filter.symm
  have given (label : Label) : ((lenses.map LensReading.classify).filter (· == label)).isEmpty =
      decide ((lenses.map LensReading.classify).count label = 0) := by
    rw [List.count_eq_length_filter, Bool.eq_iff_iff, List.isEmpty_iff_length_eq_zero, decide_eq_true_eq]
  have drift : (lenses.map LensReading.classify).count .drift = (tally lenses).drift := rfl
  have undecided : (lenses.map LensReading.classify).count .undecided = (tally lenses).undecided := rfl
  unfold adjudicate Tally.verdict
  simp only [infeasible, uncertified, quiet, drifting, given, drift, undecided, Tally.all_drift]
  split
  · rfl
  split
  · rfl
  cases lineageContinuous with
  | none => rfl
  | some continuous =>
    dsimp only
    split
    · rfl
    split
    · rfl
    by_cases doubt : 0 < (tally lenses).undecided ∧ (tally lenses).drift = 0
    · have raised : (!decide ((tally lenses).undecided = 0) && decide ((tally lenses).drift = 0)) = true := by
        simpa [Nat.pos_iff_ne_zero] using doubt
      rw [if_pos doubt, if_pos raised]
    · have clear : ¬(!decide ((tally lenses).undecided = 0) && decide ((tally lenses).drift = 0)) = true := by
        simpa [Nat.pos_iff_ne_zero] using doubt
      rw [if_neg doubt, if_neg clear]
      cases aggregation : a.aggregation with
      | existsLens => simp [Tally.settled, Tally.drifted, Nat.pos_iff_ne_zero]
      | forallLenses => rfl

/-- The verdict hangs on the presence of a silent lens: both axes are settled, all lenses
are asked, and those that were heard all drift and make the quorum. -/
def Contested : Prop :=
  a.aggregation = .forallLenses ∧ viability.all ViabilityReading.feasible = true ∧ lineageContinuous.isSome = true ∧
    asc.all AscCertificate.certifiesPreservation = true ∧ (∀ lens ∈ voices lenses, lens.classify = .drift) ∧
    a.k ≤ (voices lenses).length

def HasSilence : Prop := ∃ lens ∈ lenses, lens.classify = .silence

variable {lenses} {others : List LensReading}

theorem tally_sameHeard (same : (voices others).Perm (voices lenses)) :
    Tally.SameHeard (tally others) (tally lenses) := by
  have count (label : Label) (loud : label ≠ .silence) :
      (others.map LensReading.classify).count label = (lenses.map LensReading.classify).count label := by
    have kept (list : List LensReading) :
        ((voices list).map LensReading.classify).count label = (list.map LensReading.classify).count label := by
      have labels : (voices list).map LensReading.classify = (list.map LensReading.classify).filter
          (· != .silence) := by
        rw [List.filter_map]
        rfl
      rw [labels, List.count_filter (by simpa using loud)]
    rw [← kept others, ← kept lenses, (same.map LensReading.classify).count_eq]
  exact ⟨count .drift (by decide), count .noDrift (by decide), count .undecided (by decide)⟩

theorem voices_length : (voices lenses).length = (tally lenses).heard := by
  induction lenses with
  | nil => rfl
  | cons lens rest ih =>
    simp only [voices, tally, Tally.ofLabels, Tally.heard, List.map_cons, List.filter_cons, List.count_cons] at ih ⊢
    cases lens.classify <;> simp [ih] <;> omega

theorem hasSilence_iff : HasSilence lenses ↔ (tally lenses).silent ≠ 0 := by
  simp [HasSilence, tally, Tally.ofLabels, List.count_eq_zero]

theorem contested_iff : Contested a lineageContinuous viability asc lenses ↔
    viability.all ViabilityReading.feasible = true ∧ lineageContinuous.isSome = true ∧
      asc.all AscCertificate.certifiesPreservation = true ∧ (tally lenses).Unanimous a := by
  have drifting : (∀ lens ∈ voices lenses, lens.classify = .drift) ↔
      (tally lenses).noDrift = 0 ∧ (tally lenses).undecided = 0 := by
    simp only [voices, List.mem_filter, bne_iff_ne, tally, Tally.ofLabels, List.count_eq_zero, List.mem_map, not_exists,
      not_and]
    constructor
    · intro all
      constructor <;>
      · intro lens among label
        have drifts := all lens ⟨among, by simp [label]⟩
        simp [label] at drifts
    · rintro ⟨noOthers, noUndecided⟩ lens ⟨among, loud⟩
      cases label : lens.classify with
      | drift => rfl
      | silence => exact absurd label loud
      | noDrift => exact absurd label (noOthers lens among)
      | undecided => exact absurd label (noUndecided lens among)
  unfold Contested Tally.Unanimous
  rw [drifting, voices_length]
  unfold Tally.heard
  constructor
  · rintro ⟨asked, feasible, decided, certified, ⟨noOthers, noUndecided⟩, quorum⟩
    exact ⟨feasible, decided, certified, asked, noOthers, noUndecided, by omega⟩
  · rintro ⟨feasible, decided, certified, asked, noOthers, noUndecided, quorum⟩
    exact ⟨asked, feasible, decided, certified, ⟨noOthers, noUndecided⟩, by omega⟩

def outsideWindow : LensReading where
  lensId := "outside"
  fromTelemetryWindow := false
  perProbe := []
  onset := .zero false
  ciLow := .zero false
  ciHigh := .zero false
  named := by decide
  probes := by simp
  finite := ⟨rfl, rfl, rfl⟩
  interval := by simp [Binary64.zero, Binary64.lt, Binary64.toRat?]

theorem classify_outsideWindow : outsideWindow.classify = .silence := rfl

/-- Some list with the same voices differs in whether a lens is silent. -/
theorem exists_other_silence (lenses : List LensReading) :
    ∃ others, voices others = voices lenses ∧ ¬(HasSilence others ↔ HasSilence lenses) := by
  by_cases silent : HasSilence lenses
  · refine ⟨voices lenses, by simp [voices], fun same => ?_⟩
    obtain ⟨lens, among, label⟩ := same.mpr silent
    simp [voices, label] at among
  · refine ⟨outsideWindow :: lenses, by simp [voices, classify_outsideWindow], fun same => silent (same.mp ?_)⟩
    exact ⟨outsideWindow, List.mem_cons_self, classify_outsideWindow⟩

theorem heard_tally (heard : ∃ lens ∈ lenses, lens.classify ≠ .silence) : (tally lenses).heard ≠ 0 := by
  obtain ⟨lens, among, loud⟩ := heard
  rw [← voices_length]
  have voice : lens ∈ voices lenses := List.mem_filter.mpr ⟨among, by simpa using loud⟩
  exact (List.length_pos_of_mem voice).ne'

theorem verdict_voices (heard : ∃ lens ∈ lenses, lens.classify ≠ .silence)
    (same : (voices others).Perm (voices lenses)) : (adjudicate sum a lineageContinuous others viability asc).1 =
        (adjudicate sum a lineageContinuous lenses viability asc).1 ↔
      (Contested a lineageContinuous viability asc lenses → (HasSilence others ↔ HasSilence lenses)) := by
  have counts := tally_sameHeard same.symm
  rw [adjudicate_verdict, adjudicate_verdict, contested_iff, hasSilence_iff, hasSilence_iff, eq_comm,
    Tally.verdict_eq_iff counts (heard_tally heard), not_iff_not, @iff_comm ((tally lenses).silent = 0)]

/-- Permuting the lenses leaves the verdict alone. Silent lenses change it exactly where
it is contested and one of the two lists has a silent lens. -/
theorem adjudicate_silence (heard : ∃ lens ∈ lenses, lens.classify ≠ .silence) :
    (∀ others, others.Perm lenses →
      (adjudicate sum a lineageContinuous others viability asc).1 =
        (adjudicate sum a lineageContinuous lenses viability asc).1) ∧
    (∀ others, (voices others).Perm (voices lenses) →
      ((adjudicate sum a lineageContinuous others viability asc).1 =
          (adjudicate sum a lineageContinuous lenses viability asc).1 ↔
        (Contested a lineageContinuous viability asc lenses → (HasSilence others ↔ HasSilence lenses)))) ∧
    ((∀ others, voices others = voices lenses →
        (adjudicate sum a lineageContinuous others viability asc).1 =
          (adjudicate sum a lineageContinuous lenses viability asc).1) ↔
      ¬Contested a lineageContinuous viability asc lenses) := by
  refine ⟨fun others perm => ?_, fun others same => verdict_voices sum a lineageContinuous viability asc heard same, ?_⟩
  · refine (verdict_voices sum a lineageContinuous viability asc heard (perm.filter _)).mpr fun _ => ?_
    exact exists_congr fun lens => and_congr_left fun _ => perm.mem_iff
  · constructor
    · intro ignored contested
      obtain ⟨others, same, differs⟩ := exists_other_silence lenses
      have agree := ignored others same
      exact differs ((verdict_voices sum a lineageContinuous viability asc heard (by rw [same])).mp agree contested)
    · intro clear others same
      exact (verdict_voices sum a lineageContinuous viability asc heard (by rw [same])).mpr fun contested =>
        absurd contested clear

end

/-! ## One drifting lens -/

def tiny : Binary64 := .finite false 1 (-1074) (.inl ⟨by decide, rfl⟩)

theorem zero_lt_tiny : (Binary64.zero false).lt tiny = true := by
  simp [Binary64.zero, tiny, Binary64.lt, Binary64.toRat?, Binary64.magnitude]

def driftingLens : LensReading where
  lensId := "drifting"
  fromTelemetryWindow := true
  perProbe := [.zero false]
  onset := .zero false
  ciLow := tiny
  ciHigh := tiny
  named := by decide
  probes := by simp [Binary64.zero, Binary64.isFinite, le, Binary64.eqv]
  finite := ⟨rfl, rfl, rfl⟩
  interval := by simp [tiny, Binary64.lt, Binary64.toRat?]

theorem classify_driftingLens : driftingLens.classify = .drift := by
  simp [LensReading.classify, driftingLens, zero_lt_tiny]

def single (aggregation : Aggregation) : TwoAxisAdjudicator := ⟨1, aggregation, le_refl 1⟩

def noSum (_ : List Binary64) : Binary64 := .zero false

/-- One drifting lens is enough, whatever lenses are silent. -/
theorem adjudicate_silence_sample :
    (adjudicate noSum (single .existsLens) (some true) [driftingLens, outsideWindow] none none).1 =
      (adjudicate noSum (single .existsLens) (some true) [driftingLens] none none).1 :=
  (adjudicate_silence noSum (single .existsLens) (some true) none none
    ⟨driftingLens, List.mem_singleton_self _, by simp [classify_driftingLens]⟩).2.2.mpr
    (fun contested => by cases contested.1) _ rfl

/-- A silent lens turns drift into continuity. -/
theorem silent_lens_outvotes :
    ∃ a lenses others, (∃ lens ∈ lenses, lens.classify ≠ .silence) ∧ voices others = voices lenses ∧
      (adjudicate noSum a (some true) lenses none none).1 = .drift ∧
      (adjudicate noSum a (some true) others none none).1 = .continuity := by
  refine ⟨single .forallLenses, [driftingLens], [driftingLens, outsideWindow],
    ⟨driftingLens, List.mem_singleton_self _, by simp [classify_driftingLens]⟩, ?_, ?_, ?_⟩
  · simp [voices, classify_driftingLens, classify_outsideWindow]
  · rw [adjudicate_verdict]
    simp [tally, classify_driftingLens]
    rfl
  · rw [adjudicate_verdict]
    simp [tally, classify_driftingLens, classify_outsideWindow]
    rfl

end MatVerse.Drift
