import Mathlib.Data.Finset.Card
import Mathlib.Data.Finset.Lattice.Basic
import Mathlib.Algebra.Order.Field.Basic
import Mathlib.Data.Rat.Floor
import Mathlib.Order.Lattice
import Mathlib.Tactic.Common
import MatVerse.Lib.Fallible

/-! Contributions of the atlas and the strongest assertion each of them may make: what
its witnesses, its search for prior art and its maturity entitle it to. -/
namespace MatVerse.Atlas

open Fallible

inductive EvidenceClass where
  | observedText
  | fileRead
  | computed
  | externalVerified
  | inferred
  | unverified
  deriving DecidableEq

inductive Maturity where
  | conceived
  | formalized
  | implemented
  | reproduced
  | benchmarked
  | externallyValidated
  deriving DecidableEq

def Maturity.value : Maturity → Nat
  | conceived => 0
  | formalized => 1
  | implemented => 2
  | reproduced => 3
  | benchmarked => 4
  | externallyValidated => 5

theorem Maturity.value_injective : Function.Injective Maturity.value := by
  intro a b same
  cases a <;> cases b <;> first | rfl | cases same

instance : LinearOrder Maturity := LinearOrder.lift' Maturity.value Maturity.value_injective

inductive Priority where
  | unknown
  | priorArtExists
  | earlyFormulation
  | independentConvergence
  | supported
  deriving DecidableEq

inductive ClaimStrength where
  | blocked
  | described
  | originalSynthesis
  | novel
  | first
  | superior
  deriving DecidableEq

def ClaimStrength.value : ClaimStrength → Int
  | blocked => -1
  | described => 0
  | originalSynthesis => 1
  | novel => 2
  | first => 3
  | superior => 4

theorem ClaimStrength.value_injective : Function.Injective ClaimStrength.value := by
  intro a b same
  cases a <;> cases b <;> first | rfl | cases same

instance : LinearOrder ClaimStrength := LinearOrder.lift' ClaimStrength.value ClaimStrength.value_injective

theorem le_superior (s : ClaimStrength) : s ≤ .superior := by
  cases s <;> decide

/-- A day by its number in the calendar of `datetime`. -/
abbrev Date := {ordinal : Nat // 1 ≤ ordinal ∧ ordinal ≤ 3652059}

inductive DateError where
  | outOfRange

/-- `date - timedelta(days=…)`. -/
def minusDays (d : Date) (days : Nat) : Except DateError Date :=
  if early : d.val ≤ days then .error .outOfRange
  else .ok ⟨d.val - days, by omega, by omega⟩

def deltaConvergence : Nat := 180
def kappaFirst : ℚ := 7 / 10
def kappaNovel : ℚ := 5 / 10

structure Witness where
  stampedAt : Date
  evidenceClass : EvidenceClass

def Witness.admissible (w : Witness) : Bool :=
  w.evidenceClass = .externalVerified || w.evidenceClass = .computed

structure PriorArtSearch where
  venuesSearched : List String
  venuesRelevant : List String
  earliestExternal : Option Date
  performed : Bool

/-- The share of the relevant venues that were searched, as an exact ratio. -/
def PriorArtSearch.kappa (s : PriorArtSearch) : ℚ :=
  if s.venuesRelevant.isEmpty then 0
  else ((s.venuesSearched.toFinset ∩ s.venuesRelevant.toFinset).card : ℚ) / (s.venuesRelevant.length : ℚ)

structure Contribution where
  maturity : Maturity
  formalDef : Option String
  testRef : Option String
  baselineRef : Option String
  witnesses : List Witness
  priorArt : PriorArtSearch
  contradictedBy : Option String

/-- A text that is there and not empty. -/
def given (text : Option String) : Bool := text.any (· != "")

namespace Contribution

def tInternal (c : Contribution) : Option Date :=
  ((c.witnesses.filter Witness.admissible).map Witness.stampedAt).min?

def byCoverage (k : ℚ) : Priority := if kappaFirst ≤ k then .supported else .earlyFormulation

def priority (c : Contribution) : Except DateError Priority :=
  match c.tInternal with
  | none => .ok .unknown
  | some ti =>
    if !c.priorArt.performed then .ok .unknown
    else
      match c.priorArt.earliestExternal with
      | none => .ok (byCoverage c.priorArt.kappa)
      | some te => do
        let threshold ← minusDays ti deltaConvergence
        if te < threshold then return .priorArtExists
        if ((te.val : Int) - ti.val).natAbs ≤ deltaConvergence then return .independentConvergence
        return byCoverage c.priorArt.kappa

/-- The cascade of `max_strength` below its two first lines. -/
def strength (c : Contribution) (p : Priority) : ClaimStrength :=
  if .benchmarked ≤ c.maturity ∧ given c.baselineRef ∧ given c.testRef ∧ p ≠ .priorArtExists then .superior
  else if p = .supported ∧ .implemented ≤ c.maturity ∧ kappaFirst ≤ c.priorArt.kappa then .first
  else if p ∈ [.earlyFormulation, .independentConvergence, .supported] ∧ .formalized ≤ c.maturity ∧
    kappaNovel ≤ c.priorArt.kappa then .novel
  else if .formalized ≤ c.maturity ∧ given c.formalDef then .originalSynthesis
  else .described

def maxStrength (c : Contribution) : Except DateError ClaimStrength := do
  if given c.contradictedBy then return .blocked
  let p ← c.priority
  return c.strength p

/-! ## Entitlements -/

/-- What each strength asks for. -/
def Earns (c : Contribution) (p : Priority) : ClaimStrength → Prop
  | .superior => .benchmarked ≤ c.maturity ∧ given c.baselineRef ∧ given c.testRef ∧ p ≠ .priorArtExists
  | .first => p = .supported ∧ .implemented ≤ c.maturity ∧ kappaFirst ≤ c.priorArt.kappa
  | .novel => p ∈ [.earlyFormulation, .independentConvergence, .supported] ∧ .formalized ≤ c.maturity ∧
      kappaNovel ≤ c.priorArt.kappa
  | .originalSynthesis => .formalized ≤ c.maturity ∧ given c.formalDef
  | .described | .blocked => True

/-- The cascade gives the greatest strength that is earned. -/
theorem le_strength_iff (c : Contribution) (p : Priority) (s : ClaimStrength) :
    s ≤ c.strength p ↔ ∃ t, s ≤ t ∧ c.Earns p t := by
  constructor
  · intro below
    refine ⟨_, below, ?_⟩
    unfold strength
    split
    next earned => exact earned
    split
    next earned => exact earned
    split
    next earned => exact earned
    split
    next earned => exact earned
    · trivial
  · rintro ⟨t, below, earned⟩
    refine below.trans ?_
    unfold strength
    split_ifs with superior first novel synthesis
    · exact le_superior t
    all_goals cases t
    all_goals first | contradiction | decide

/-- An admissible witness and a search that was done and found nothing earlier. -/
structure Evidenced (c : Contribution) : Prop where
  witness : ∃ w ∈ c.witnesses, w.admissible = true
  searched : c.priorArt.performed = true
  unforestalled : ∀ te ti, c.priorArt.earliestExternal = some te → c.tInternal = some ti →
    ¬te.val + deltaConvergence < ti.val

/-- The contribution with another maturity and other venues searched. -/
def advance (c : Contribution) (maturity : Maturity) (venues : List String) : Contribution :=
  { c with maturity := maturity, priorArt := { c.priorArt with venuesSearched := venues } }

variable {c : Contribution} {p : Priority} {s : ClaimStrength} {maturity : Maturity} {venues : List String}

/-! ## Priority -/

theorem minusDays_ok {d r : Date} {days : Nat} : minusDays d days = .ok r ↔ r.val + days = d.val := by
  have inside := r.property
  unfold minusDays
  split
  · simp only [reduceCtorEq, false_iff]
    omega
  · rw [Except.ok.injEq, Subtype.ext_iff]
    dsimp only
    omega

theorem tInternal_isSome : c.tInternal.isSome = true ↔ ∃ w ∈ c.witnesses, w.admissible = true := by
  simp [tInternal, Option.isSome_iff_ne_none]

theorem byCoverage_known (k : ℚ) : byCoverage k ≠ .unknown := by
  unfold byCoverage
  split <;> decide

/-- The priority is unknown without an admissible witness or without a search. -/
theorem priority_unknown : c.priority = .ok .unknown ↔
    ¬((∃ w ∈ c.witnesses, w.admissible = true) ∧ c.priorArt.performed = true) := by
  rw [← tInternal_isSome]
  unfold priority
  cases witnessed : c.tInternal with
  | none => simp
  | some ti =>
    cases searched : c.priorArt.performed with
    | false => simp
    | true =>
      simp only [Option.isSome_some, Bool.not_true, Bool.false_eq_true, if_false, and_self, not_true_eq_false,
        iff_false]
      intro unknown
      split at unknown
      · exact byCoverage_known _ (Except.ok.inj unknown)
      · simp only [bind_ok] at unknown
        obtain ⟨threshold, -, unknown⟩ := unknown
        split at unknown
        · cases unknown
        split at unknown
        · cases unknown
        · exact byCoverage_known _ (Except.ok.inj unknown)

/-- A priority that was found out, other than an earlier external work. -/
theorem priority_evidenced (done : c.priority = .ok p) (known : p ≠ .unknown) (unforestalled : p ≠ .priorArtExists) :
    c.Evidenced := by
  unfold priority at done
  split at done
  · exact absurd (Except.ok.inj done).symm known
  next ti found =>
    split at done
    · exact absurd (Except.ok.inj done).symm known
    next performed =>
      refine ⟨tInternal_isSome.mp (by rw [found]; rfl), by simpa using performed,
        fun te ti' earliest found' earlier => ?_⟩
      rw [found] at found'
      cases found'
      rw [earliest] at done
      simp only [bind_ok] at done
      obtain ⟨threshold, early, done⟩ := done
      rw [minusDays_ok] at early
      have before : te < threshold := Subtype.mk_lt_mk.mpr (by omega)
      rw [if_pos before] at done
      exact unforestalled (Except.ok.inj done).symm

/-- More venues can only turn an early formulation into a supported one. -/
def Grows (p q : Priority) : Prop := q = p ∨ (p = .earlyFormulation ∧ q = .supported)

theorem kappa_mono (more : c.priorArt.venuesSearched ⊆ venues) :
    c.priorArt.kappa ≤ (c.advance maturity venues).priorArt.kappa := by
  have hits : c.priorArt.venuesSearched.toFinset ∩ c.priorArt.venuesRelevant.toFinset ⊆
      venues.toFinset ∩ c.priorArt.venuesRelevant.toFinset := by
    intro venue searched
    simp only [Finset.mem_inter, List.mem_toFinset] at searched ⊢
    exact ⟨more searched.1, searched.2⟩
  unfold PriorArtSearch.kappa advance
  split
  · exact le_refl _
  · have fewer : ((c.priorArt.venuesSearched.toFinset ∩ c.priorArt.venuesRelevant.toFinset).card : ℚ) ≤
        (venues.toFinset ∩ c.priorArt.venuesRelevant.toFinset).card := Nat.cast_le.mpr (Finset.card_le_card hits)
    exact div_le_div_of_nonneg_right fewer (Nat.cast_nonneg _)

theorem byCoverage_mono {k l : ℚ} (le : k ≤ l) : Grows (byCoverage k) (byCoverage l) := by
  unfold byCoverage Grows
  by_cases enough : kappaFirst ≤ k
  · rw [if_pos enough, if_pos (enough.trans le)]
    exact .inl rfl
  · rw [if_neg enough]
    split <;> simp

theorem priority_mono (more : c.priorArt.venuesSearched ⊆ venues) (done : c.priority = .ok p) :
    ∃ q, (c.advance maturity venues).priority = .ok q ∧ Grows p q := by
  have same : Grows p p := .inl rfl
  have coverage : Grows (byCoverage c.priorArt.kappa) (byCoverage (c.advance maturity venues).priorArt.kappa) :=
    byCoverage_mono (kappa_mono more)
  have dated : (c.advance maturity venues).tInternal = c.tInternal := rfl
  have performed : (c.advance maturity venues).priorArt.performed = c.priorArt.performed := rfl
  have earliest : (c.advance maturity venues).priorArt.earliestExternal = c.priorArt.earliestExternal := rfl
  unfold priority at done ⊢
  rw [dated, performed, earliest]
  split at done
  next undated => exact ⟨p, done, same⟩
  next ti dated' =>
    split at done
    next unperformed => exact ⟨p, by rw [← done]; exact if_pos unperformed, same⟩
    next searched =>
      rw [if_neg searched]
      split at done
      next none =>
        obtain rfl := Except.ok.inj done
        exact ⟨_, rfl, coverage⟩
      next te found =>
        simp only [bind_ok] at done ⊢
        obtain ⟨threshold, early, done⟩ := done
        split at done
        next before => exact ⟨p, ⟨threshold, early, by rw [if_pos before, done]⟩, same⟩
        next later =>
          split at done
          next near => exact ⟨p, ⟨threshold, early, by rw [if_neg later, if_pos near, done]⟩, same⟩
          next far =>
            obtain rfl := Except.ok.inj done
            exact ⟨_, ⟨threshold, early, by rw [if_neg later, if_neg far]; rfl⟩, coverage⟩

/-! ## Strength -/

theorem earns_mono {q : Priority} (higher : c.maturity ≤ maturity) (more : c.priorArt.venuesSearched ⊆ venues)
    (grows : Grows p q) (earns : c.Earns p s) : (c.advance maturity venues).Earns q s := by
  have coverage : c.priorArt.kappa ≤ (c.advance maturity venues).priorArt.kappa := kappa_mono more
  cases s with
  | superior =>
    obtain ⟨ripe, baseline, test, unforestalled⟩ := earns
    refine ⟨ripe.trans higher, baseline, test, ?_⟩
    rcases grows with rfl | ⟨-, rfl⟩
    · exact unforestalled
    · decide
  | first =>
    obtain ⟨rfl, ripe, covered⟩ := earns
    exact ⟨grows.resolve_right (by simp), ripe.trans higher, covered.trans coverage⟩
  | novel =>
    obtain ⟨known, ripe, covered⟩ := earns
    refine ⟨?_, ripe.trans higher, covered.trans coverage⟩
    rcases grows with rfl | ⟨-, rfl⟩
    · exact known
    · decide
  | originalSynthesis => exact ⟨earns.1.trans higher, earns.2⟩
  | described => trivial
  | blocked => trivial

theorem strength_mono {q : Priority} (higher : c.maturity ≤ maturity) (more : c.priorArt.venuesSearched ⊆ venues)
    (grows : Grows p q) : c.strength p ≤ (c.advance maturity venues).strength q := by
  obtain ⟨t, above, earned⟩ := (le_strength_iff c p _).mp le_rfl
  exact (le_strength_iff _ q _).mpr ⟨t, above, earns_mono higher more grows earned⟩

theorem maxStrength_blocked (contradicted : given c.contradictedBy = true) : c.maxStrength = .ok .blocked := by
  rw [maxStrength, if_pos contradicted]
  rfl

theorem maxStrength_open (uncontradicted : given c.contradictedBy = false) :
    c.maxStrength = .ok s ↔ ∃ p, c.priority = .ok p ∧ c.strength p = s := by
  rw [maxStrength, uncontradicted, if_neg (by decide)]
  simp only [bind_ok, pure_ok]

theorem maxStrength_mono (higher : c.maturity ≤ maturity) (more : c.priorArt.venuesSearched ⊆ venues)
    (done : c.maxStrength = .ok s) : ∃ t, (c.advance maturity venues).maxStrength = .ok t ∧ s ≤ t := by
  cases contradicted : given c.contradictedBy with
  | true =>
    rw [maxStrength_blocked contradicted] at done
    exact ⟨s, by rw [← done]; exact maxStrength_blocked contradicted, le_rfl⟩
  | false =>
    obtain ⟨p, found, rfl⟩ := (maxStrength_open contradicted).mp done
    obtain ⟨q, known, grows⟩ : ∃ q, (c.advance maturity venues).priority = .ok q ∧ Grows p q := priority_mono more found
    have stays : given (c.advance maturity venues).contradictedBy = false := contradicted
    exact ⟨_, (maxStrength_open stays).mpr ⟨q, known, rfl⟩, strength_mono higher more grows⟩

/-! ## Strength and evidence -/

def Benchmarked (c : Contribution) : Prop :=
  .benchmarked ≤ c.maturity ∧ given c.baselineRef = true ∧ given c.testRef = true

/-- A priority that earns more than an original synthesis. -/
theorem earns_known {t : ClaimStrength} (earned : c.Earns p t) (above : .originalSynthesis < t) :
    p ≠ .priorArtExists ∧ (p ≠ .unknown ∨ c.Benchmarked) := by
  cases t with
  | superior => exact ⟨earned.2.2.2, .inr ⟨earned.1, earned.2.1, earned.2.2.1⟩⟩
  | first =>
    obtain ⟨rfl, -⟩ := earned
    exact ⟨by decide, .inl (by decide)⟩
  | novel =>
    obtain ⟨known, -⟩ := earned
    constructor
    · rintro rfl
      exact absurd known (by decide)
    · refine .inl ?_
      rintro rfl
      exact absurd known (by decide)
  | originalSynthesis => exact absurd above (lt_irrefl _)
  | described => exact absurd above (by decide)
  | blocked => exact absurd above (by decide)

/-- Without a witness or without a search only a benchmarked contribution exceeds an
original synthesis. -/
theorem evidenced_iff : (∀ s, c.maxStrength = .ok s → .originalSynthesis < s → c.Evidenced) ↔
    given c.contradictedBy = true ∨ ¬c.Benchmarked ∨
      ((∃ w ∈ c.witnesses, w.admissible = true) ∧ c.priorArt.performed = true) := by
  cases contradicted : given c.contradictedBy with
  | true =>
    simp only [true_or, iff_true, maxStrength_blocked contradicted, Except.ok.injEq, forall_eq']
    exact fun above => absurd above (by decide)
  | false =>
    simp only [Bool.false_eq_true, false_or]
    constructor
    · intro evidenced
      by_contra both
      rw [not_or, not_not, ← priority_unknown] at both
      obtain ⟨benchmarked, unknown⟩ := both
      have claimed : c.maxStrength = .ok .superior := by
        refine (maxStrength_open contradicted).mpr ⟨.unknown, unknown, ?_⟩
        exact if_pos ⟨benchmarked.1, benchmarked.2.1, benchmarked.2.2, by decide⟩
      have evidence := evidenced _ claimed (by decide)
      exact priority_unknown.mp unknown ⟨evidence.witness, evidence.searched⟩
    · intro enough s claimed above
      obtain ⟨p, found, rfl⟩ := (maxStrength_open contradicted).mp claimed
      obtain ⟨t, below, earned⟩ := (le_strength_iff c p _).mp le_rfl
      obtain ⟨unforestalled, known⟩ := earns_known earned (above.trans_le below)
      by_cases unknown : p = .unknown
      · subst unknown
        have supported := enough.resolve_left (not_not.mpr (known.resolve_left (by simp)))
        exact absurd supported (priority_unknown.mp found)
      · exact priority_evidenced found unknown unforestalled

/-- The bounds of an assertion: evidence, contradiction, and what grows with it. -/
theorem maxStrength_bounded (c : Contribution) :
    ((∀ s, c.maxStrength = .ok s → .originalSynthesis < s → c.Evidenced) ↔
      given c.contradictedBy = true ∨ ¬c.Benchmarked ∨
        ((∃ w ∈ c.witnesses, w.admissible = true) ∧ c.priorArt.performed = true)) ∧
    (given c.contradictedBy = true → c.maxStrength = .ok .blocked) ∧
    (∀ maturity venues, c.maturity ≤ maturity → c.priorArt.venuesSearched ⊆ venues → ∀ s, c.maxStrength = .ok s →
      ∃ t, (c.advance maturity venues).maxStrength = .ok t ∧ s ≤ t) :=
  ⟨evidenced_iff, maxStrength_blocked, fun _ _ higher more _ done => maxStrength_mono higher more done⟩

/-- Benchmarked against a baseline, never witnessed and never searched for. -/
def unsearched : Contribution where
  maturity := .benchmarked
  formalDef := none
  testRef := some "tests/test_claim.py"
  baselineRef := some "baseline"
  witnesses := []
  priorArt := ⟨[], [], none, false⟩
  contradictedBy := none

theorem unsearched_superior : unsearched.maxStrength = .ok .superior ∧ ¬unsearched.Evidenced :=
  ⟨rfl, fun evidence => by simpa [unsearched] using evidence.searched⟩

end Contribution

end MatVerse.Atlas
