import DataJuicer.Lib.Table
import DataJuicer.Lib.PyText
import DataJuicer.Lib.Run
import DataJuicer.Lib.Interleaving
import DataJuicer.Lib.Sha256
import DataJuicer.Navigation.Catalog
import DataJuicer.Navigation.Segments
import DataJuicer.Navigation.ObservationModels
import DataJuicer.Navigation.Schema
import DataJuicer.Navigation.Authorization
import DataJuicer.Navigation.TaskStore
import DataJuicer.Navigation.EvidenceStore
import DataJuicer.Navigation.PlanningContext
import DataJuicer.Navigation.PlanStore
import DataJuicer.Navigation.StepResults
import DataJuicer.Navigation.HumanDecisions
import DataJuicer.Navigation.ObservationStore
import DataJuicer.Navigation.Operations
import DataJuicer.Navigation.Ledger
import DataJuicer.Navigation.TaskMoves
import DataJuicer.Navigation.Commits
import DataJuicer.Navigation.RowMoves
import DataJuicer.Navigation.Consistency
import DataJuicer.Navigation.TargetExclusion
import DataJuicer.Navigation.OutboxLiveness
import DataJuicer.Navigation.TaskStatusAuthority
import DataJuicer.Navigation.PlanLifeCycle
import DataJuicer.Navigation.InFlightWork
import DataJuicer.Navigation.HandoffMoves
import DataJuicer.Navigation.DeliveryLease
import DataJuicer.Navigation.StateRevision
import DataJuicer.Navigation.StepInvocation
import DataJuicer.Navigation.StepReadiness
import DataJuicer.Navigation.StepInvocationSafety
import DataJuicer.Navigation.WriterLock
import DataJuicer.Navigation.WriterLockInterference
import DataJuicer.Navigation.WriterLockCalls
import DataJuicer.Navigation.WriterLockSafety
import DataJuicer.Lib.Transaction
import DataJuicer.Training.Models
import DataJuicer.Training.Schema
import DataJuicer.Training.Runs
import DataJuicer.Training.Actions
import DataJuicer.Training.Updates
import DataJuicer.Training.Operations
import DataJuicer.Training.Workflow
import DataJuicer.Training.Refinement
import DataJuicer.Training.Changes
import DataJuicer.Training.WorkflowShape
import DataJuicer.Training.TerminalRuns
import DataJuicer.Training.Leases
import DataJuicer.Training.StopRequests
import DataJuicer.Training.StageOrder
import DataJuicer.Lib.Json
import DataJuicer.Training.UpdateRequest
import DataJuicer.Publication.Publisher
import DataJuicer.Publication.Contract
import DataJuicer.Publication.Calls
import DataJuicer.Publication.Safety
import DataJuicer.TrainingWorker.LogEvents
import DataJuicer.Training.UpdateTotality
import DataJuicer.TrainingWorker.Payloads
import DataJuicer.TrainingWorker.EventShape
import DataJuicer.TrainingWorker.EmittedUpdates
import DataJuicer.TrainingWorker.LogCollection
import DataJuicer.TrainingWorker.LogProgress
import DataJuicer.TrainingWorker.PollingTimes
import DataJuicer.TrainingWorker.Redaction
import DataJuicer.Annotation.Models
import DataJuicer.Annotation.Schema
import DataJuicer.Annotation.Statements
import DataJuicer.Annotation.Segments
import DataJuicer.Annotation.Jobs
import DataJuicer.Annotation.Runs
import DataJuicer.Annotation.Completions
import DataJuicer.Annotation.Reviews
import DataJuicer.Annotation.OperatorActions
import DataJuicer.Annotation.Deliveries
import DataJuicer.Annotation.Operations
import DataJuicer.Annotation.Effects
import DataJuicer.Annotation.CallEffects
import DataJuicer.Annotation.RunEffects
import DataJuicer.Annotation.SystemEffects
import DataJuicer.Annotation.SegmentMoves
import DataJuicer.Annotation.SegmentStates
import DataJuicer.Annotation.Traces
import DataJuicer.Annotation.SubmittedHandoffs
import DataJuicer.Annotation.RunMoves
import DataJuicer.Annotation.SingleWriter
import DataJuicer.Annotation.JobMoves
import DataJuicer.Annotation.SourceScopes
import DataJuicer.Annotation.ScopeOwnership
import DataJuicer.TrainingNodes.Schema
import DataJuicer.TrainingNodes.Nodes
import DataJuicer.TrainingNodes.Models
import DataJuicer.TrainingNodes.Operations
import DataJuicer.TrainingNodes.Commits
import DataJuicer.TrainingNodes.ModelMoves
import DataJuicer.TrainingNodes.RunMoves
import DataJuicer.TrainingNodes.ModelInvariant
import DataJuicer.TrainingNodes.VerifiedModels
import DataJuicer.Frontend.ProjectionStore
import DataJuicer.Frontend.RequestGate
import DataJuicer.Frontend.ForcedRefresh
import DataJuicer.Lib.Lines
import DataJuicer.Web.Schema
import DataJuicer.Web.InitialTurns
import DataJuicer.Web.AbortedTurns
import DataJuicer.Lib.Regex
import DataJuicer.Lib.Raising
import DataJuicer.PublicContract.PublicText
import DataJuicer.PublicContract.Signals
import DataJuicer.PublicContract.PublicEvents
import DataJuicer.PublicContract.SafePayloads
import DataJuicer.PublicContract.Projector
import DataJuicer.PublicContract.Conditions
import DataJuicer.PublicContract.Moves
import DataJuicer.PublicContract.NeverRaises
import DataJuicer.PublicContract.Phases
import DataJuicer.PublicContract.ShownProgress
import DataJuicer.PublicContract.ActionRefs
import DataJuicer.Lib.DepthFirst
import DataJuicer.Navigation.PlanDependencies
import DataJuicer.Navigation.PlanValidation
import DataJuicer.Navigation.FinishPlanShape
import DataJuicer.Navigation.AcceptedPlans
import DataJuicer.Lib.JsonStrings
import DataJuicer.Navigation.SegmentSelections
import DataJuicer.Lib.Postcondition
import DataJuicer.Annotation.Receipts
import DataJuicer.Annotation.SkipUndo
import DataJuicer.Lib.Doubles
import DataJuicer.RunSpecs.Definitions
import DataJuicer.RunSpecs.StoredModels
import DataJuicer.RunSpecs.Preparation
import DataJuicer.RunSpecs.Activation
import DataJuicer.RunSpecs.AcceptedModels
import DataJuicer.RunSpecs.BuiltStages
import DataJuicer.RunSpecs.CommandLines
import DataJuicer.RunSpecs.FlagCollisions
import DataJuicer.RunSpecs.HiddenValues
import DataJuicer.RunSpecs.AcceptedAgain
import DataJuicer.RunSpecs.BrowserParameters
import DataJuicer.RunSpecs.ParameterAgreement
import DataJuicer.Lib.Pointwise
import DataJuicer.Lib.Grouping
import DataJuicer.Lib.PyValues
import DataJuicer.Lib.RoundedRationals
import DataJuicer.Training.UpdateSequence
import DataJuicer.TrainingWorker.Outbox
import DataJuicer.TrainingWorker.DeliveredUpdates
import DataJuicer.Evaluation.Models
import DataJuicer.Evaluation.Grading
import DataJuicer.Evaluation.Reports
import DataJuicer.Evaluation.Comparison
import DataJuicer.Evaluation.WrittenCases
import DataJuicer.Evaluation.ReadCases
import DataJuicer.Evaluation.ReportAgreement
import DataJuicer.Evaluation.ReportComparison
import DataJuicer.Evaluation.OwnBaseline
