import AutomatedTradingBot.Framework.Apportionment
import AutomatedTradingBot.Framework.Datetime
import AutomatedTradingBot.Framework.Decimal
import AutomatedTradingBot.Framework.DecimalValue
import AutomatedTradingBot.Framework.Dict
import AutomatedTradingBot.Framework.Fields
import AutomatedTradingBot.Framework.Json
import AutomatedTradingBot.Framework.SortedSet
import AutomatedTradingBot.Framework.Text
import AutomatedTradingBot.Framework.Uuid
import AutomatedTradingBot.Proof.Datasets.Currentness
import AutomatedTradingBot.Proof.Datasets.Invalidation
import AutomatedTradingBot.Proof.Datasets.Lifecycle
import AutomatedTradingBot.Proof.Datasets.PhysicalPersistence.Persist
import AutomatedTradingBot.Proof.Datasets.PhysicalPersistence.Publish
import AutomatedTradingBot.Proof.Datasets.PhysicalPersistence.Race
import AutomatedTradingBot.Proof.Datasets.PhysicalPersistence.RoundTrip
import AutomatedTradingBot.Proof.Execution
import AutomatedTradingBot.Proof.Governance.Checkpoints
import AutomatedTradingBot.Proof.Governance.Codec
import AutomatedTradingBot.Proof.Governance.Holdout
import AutomatedTradingBot.Proof.Governance.Plans
import AutomatedTradingBot.Proof.Holdings
import AutomatedTradingBot.Proof.Journal.Failure
import AutomatedTradingBot.Proof.Journal.Recovery
import AutomatedTradingBot.Proof.Journal.Refinement
import AutomatedTradingBot.Proof.Ledger
import AutomatedTradingBot.Proof.Lineages.Contents
import AutomatedTradingBot.Proof.Lineages.Validators
import AutomatedTradingBot.Proof.MarketData.Evidence
import AutomatedTradingBot.Proof.MarketData.Knowledge
import AutomatedTradingBot.Proof.MarketData.Quality
import AutomatedTradingBot.Proof.MovingBlockBootstrap
import AutomatedTradingBot.Proof.OperatorConsole.Codec
import AutomatedTradingBot.Proof.OperatorConsole.Observations
import AutomatedTradingBot.Proof.OperatorConsole.ReadGateway
import AutomatedTradingBot.Proof.Portfolio.Apportion
import AutomatedTradingBot.Proof.Portfolio.Rebalance
import AutomatedTradingBot.Proof.Portfolio.Reservations
import AutomatedTradingBot.Proof.Portfolio.RunHoldings
import AutomatedTradingBot.Proof.Portfolio.Semidefinite
import AutomatedTradingBot.Proof.Reconcile.Complete
import AutomatedTradingBot.Proof.Reconcile.Consistent
import AutomatedTradingBot.Proof.Reconcile.Sound
import AutomatedTradingBot.Proof.Resolution.FutureCoverage
import AutomatedTradingBot.Proof.Resolution.Order
import AutomatedTradingBot.Proof.Resolution.Superseded
import AutomatedTradingBot.Proof.Resolution.Totality
import AutomatedTradingBot.Proof.Stage5.Admission
import AutomatedTradingBot.Proof.Stage5.AuthorityGate
import AutomatedTradingBot.Proof.Stage5.AuthorityStore.Rejected
import AutomatedTradingBot.Proof.Stage5.AuthorityStore.Rollback
import AutomatedTradingBot.Proof.Stage5.AuthorityStore.SigningKeys
import AutomatedTradingBot.Proof.Stage5.AuthorityStore.TrustedTime
import AutomatedTradingBot.Proof.Stage5.AuthorityStore.Writers
import AutomatedTradingBot.Proof.Stage5.CommitBoundary
import AutomatedTradingBot.Proof.Stage5.IdentityScope.RoundTrip
import AutomatedTradingBot.Proof.Stage5.OperationEnvelope
import AutomatedTradingBot.Proof.Stage5.PostgresSerializable.Attempts
import AutomatedTradingBot.Proof.Stage5.RecoveryJournal.Exposure
import AutomatedTradingBot.Proof.Stage5.RecoveryReceipts
import AutomatedTradingBot.Proof.Stage5.ScopeRegistry
import AutomatedTradingBot.Proof.Stage5.WorkerPool
import AutomatedTradingBot.Proof.StateCodec
import AutomatedTradingBot.Proof.StatisticalAssurance
import AutomatedTradingBot.Proof.Strategies.MeanReversion
import AutomatedTradingBot.Proof.Versioning
import AutomatedTradingBot.Source.Datasets.PhysicalPersistence
import AutomatedTradingBot.Source.Execution
import AutomatedTradingBot.Source.Governance.Governor
import AutomatedTradingBot.Source.Journal
import AutomatedTradingBot.Source.Ledger
import AutomatedTradingBot.Source.MovingBlockBootstrap
import AutomatedTradingBot.Source.OperatorConsole.ReadGateway
import AutomatedTradingBot.Source.OperatorConsole.Snapshot
import AutomatedTradingBot.Source.OperatorConsole.SnapshotStore
import AutomatedTradingBot.Source.PitFeatures
import AutomatedTradingBot.Source.Portfolio
import AutomatedTradingBot.Source.Reconcile
import AutomatedTradingBot.Source.Stage5.AuthorityGate
import AutomatedTradingBot.Source.StateCodec
