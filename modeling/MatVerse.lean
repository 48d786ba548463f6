import MatVerse.Lib.Dict
import MatVerse.Lib.Binary64
import MatVerse.Lib.NumberText
import MatVerse.Lib.Json
import MatVerse.Lib.JsonText
import MatVerse.Lib.JsonTexts
import MatVerse.Lib.JsonRoundTrip
import MatVerse.Lib.Text
import MatVerse.Lib.Files
import MatVerse.Lib.Record
import MatVerse.Core
import MatVerse.Lib.Run
import MatVerse.Lib.Fallible
import MatVerse.Lib.Hex
import MatVerse.OrganismLoop
import MatVerse.OrganismState
import MatVerse.OrganismProvenance
import MatVerse.OrganismRestore
import MatVerse.OrganismAtomicity
import MatVerse.OrganismInheritance
import MatVerse.TesseuCrossHost
import MatVerse.MarxivPublisher
import MatVerse.MarxivSandbox
import MatVerse.MarxivSubmission
import MatVerse.MarxivSettlement
import MatVerse.MarxivApproval
import MatVerse.Lib.HashChain
import MatVerse.Lib.Rotation
import MatVerse.StateStore
import MatVerse.Ledger
import MatVerse.Auth
import MatVerse.AuthReplay
import MatVerse.AuthIntegrity
import MatVerse.FederationRelation
import MatVerse.FederationKeyRegistry
import MatVerse.FederationKeyChain
import MatVerse.FederationGovernedGate
import MatVerse.FederationCrossing
import MatVerse.Lib.Jcs
import MatVerse.InstitutionalContract
import MatVerse.InstitutionalProjection
import MatVerse.ModelBridge
import MatVerse.InstitutionalStore
import MatVerse.IntentAcceptance
import MatVerse.ContractRegistry
import MatVerse.AppEvents
import MatVerse.LedgerHistory
import MatVerse.CloudflareState
import MatVerse.IntentDraft
import MatVerse.ProjectionValidity
import MatVerse.ProjectionHead
import MatVerse.ProjectionSemantics
import MatVerse.LlmPublicationBridge
import MatVerse.PublicationPlans
import MatVerse.Lib.Connection
import MatVerse.LeaseState
import MatVerse.SecretPlane
import MatVerse.LeaseLifetime
import MatVerse.EventJournal
import MatVerse.Lib.Chronicle
import MatVerse.Lib.Hoare
import MatVerse.PhysiologyEngine
import MatVerse.ExecutorNoninterference
import MatVerse.SafeMode
import MatVerse.JcsEncoders
import MatVerse.ModelSessions
import MatVerse.ProjectionFaithful
import MatVerse.SecretAudit
import MatVerse.SecretReturn
import MatVerse.TransferableState
import MatVerse.EventDelivery
import MatVerse.CycleSealing
import MatVerse.AuthoritySignature
import MatVerse.FederationTwoParty
import MatVerse.EnvelopeIdentity
import MatVerse.Conservativity
import MatVerse.RouteDeterminism
import MatVerse.RouteConstraints
import MatVerse.CapsuleDeterminism
import MatVerse.ManuscriptResolution
import MatVerse.DriftEngine
import MatVerse.AtlasClaims
import MatVerse.InvariantComparison
import MatVerse.MerkleCommitment
import MatVerse.RecoveryGate
import MatVerse.EventNumbers
import MatVerse.ProposalExecuted
import MatVerse.EffectRecorded
import MatVerse.HomeostaticSupervisor
import MatVerse.RecoveryTrace
import MatVerse.TracedTick
import MatVerse.SupervisorRuns
import MatVerse.ExecutorSubstitution
import MatVerse.ServiceAttribution
