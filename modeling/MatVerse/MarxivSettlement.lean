import MatVerse.MarxivSubmission

/-! The status a publish leaves behind. `SUBMITTING` is recorded before the transport
is invoked, and every exit after it should settle the sandbox. The exits of a
transport that returned without a final click do not. -/
namespace MatVerse.Marxiv

open Fallible

variable {p : Platform} {files : Files} {sandbox : String}

/-- How the transport ends: an outcome, a returned mapping that `json.dumps` refuses,
or a returned value on which `get` is missing or raises. -/
inductive TransportExit where
  | outcome (outcome : TransportOutcome)
  | unwritable (finalClickPerformed portalConfirmationObserved : Bool) (refusal : String)
  | malformed (error : PyError)

namespace TransportExit

/-- The exit reports that the final click was performed. -/
def clicked : TransportExit → Bool
  | outcome (.returned result) => flag result "final_click_performed"
  | outcome (.submissionError _ clicked) => clicked
  | outcome (.raised _) => false
  | unwritable clicked _ _ => clicked
  | malformed _ => false

/-- The transport raises. -/
def raises : TransportExit → Bool
  | outcome (.submissionError _ _) => true
  | outcome (.raised _) => true
  | _ => false

end TransportExit

section

variable (p : Platform) (files : Files)

end

/-- An approved sandbox: its approval verifies, its manuscript is there and its receipt
names its hash. -/
structure Submittable (p : Platform) (files : Files) (sandbox : String) (now : Int) (s : PublisherState) :
    Prop where
  state : loadState files sandbox = .ok s
  status : s.status = .approved
  verified : ∃ v, verifyApproval p files sandbox now = .ok v ∧ v.ok = true
  manuscript : ∃ m, readManifest files s.arxivManifestPath = .ok m ∧
    files.isFile (p.resolveManuscript s.arxivManifestPath m.manuscriptFile) = true
  receipt : priorReceipt s = .ok s.receiptHash

/-- The state recorded before the transport is invoked. -/
def submitting (p : Platform) (s : PublisherState) : PublisherState :=
  s.moved .submitting (statusReceipt p "MARXIV_PUBLICATION_SUBMITTING" s.receiptHash s.packageHash
    [("status", .str Status.submitting.value), ("destination", .str "arxiv")])

/-- A receipt made from another one, as a step of the publisher does. -/
def Chained (p : Platform) (packageHash : String) (receipt prior : Record.Object) : Prop :=
  ∃ hash event outputs, prior.1.get? "receipt_hash" = some hash ∧
    receipt = statusReceipt p event hash packageHash outputs

/-- The sandbox of `s` is settled: the final click as reported is in the persisted
status, whose receipt follows that of `SUBMITTING` and the one of `s`. -/
def Settled (p : Platform) (after : Files) (sandbox : String) (s : PublisherState) (clicked : Bool) : Prop :=
  ∃ t, loadState after sandbox = .ok t ∧ t.status ≠ .submitting ∧
    (t.status = .submittedToArxiv ∨ t.status = .holdReconciliationRequired ↔ clicked = true) ∧
    (clicked = false → t.status = .holdPreSubmit) ∧
    Chained p s.packageHash t.receipt (submitting p s).receipt ∧
    Chained p s.packageHash (submitting p s).receipt s.receipt

theorem Submittable.hash {now : Int} {s : PublisherState} (approved : Submittable p files sandbox now s) :
    ∃ hash, s.receipt.1.get? "receipt_hash" = some hash := by
  have receipt := approved.receipt
  unfold priorReceipt at receipt
  split at receipt
  case h_1 hash found => exact ⟨hash, found⟩
  case h_2 => cases receipt

end MatVerse.Marxiv
