import ProcureFoundation.Foundation.ThreeValued
import ProcureFoundation.Foundation.FixedPoint
import ProcureFoundation.Foundation.RoundingBounds
import ProcureFoundation.Foundation.VersionedLog
import ProcureFoundation.Foundation.CalendarDate
import ProcureFoundation.Foundation.KeyedRows
import ProcureFoundation.Foundation.StampedCopies
import ProcureFoundation.Foundation.OrderedPairs
import ProcureFoundation.Rebate.Calculations
import ProcureFoundation.Evidence.Rows
import ProcureFoundation.Evidence.Checks
import ProcureFoundation.Evidence.Triggers
import ProcureFoundation.Evidence.Snapshots
import ProcureFoundation.Evidence.Transactions
import ProcureFoundation.Evidence.SnapshotAgreement
import ProcureFoundation.Evidence.ChainIntegrity
import ProcureFoundation.Evidence.TenantTransactions
import ProcureFoundation.Evidence.TenantIsolation
import ProcureFoundation.Evidence.ParentWrites
import ProcureFoundation.Foundation.Corrections
import ProcureFoundation.Ledger.Purchases
import ProcureFoundation.Ledger.CorrectedTotals
import ProcureFoundation.Evidence.Session
import ProcureFoundation.Rebate.Service
import ProcureFoundation.Rebate.Aggregation
import ProcureFoundation.Rebate.RecalculationAccepted
import ProcureFoundation.Rebate.SourceWaterfall
import ProcureFoundation.Rebate.PeriodConcurrency
import ProcureFoundation.Rebate.ConcurrentRecalculation
import ProcureFoundation.Rebate.PeriodClose
import ProcureFoundation.Opportunities.Service
import ProcureFoundation.Opportunities.MeasureEvents
import ProcureFoundation.Opportunities.WritersCommit
import ProcureFoundation.Opportunities.WaterfallRuns
import ProcureFoundation.Evidence.ConfirmedEvidence
import ProcureFoundation.Opportunities.RealisedReconciled
import ProcureFoundation.Opportunities.WaterfallOrder
import ProcureFoundation.Rebate.LeakageStatus
import ProcureFoundation.Foundation.PythonText
import ProcureFoundation.Foundation.DecimalText
import ProcureFoundation.Foundation.BestRows
import ProcureFoundation.Foundation.Outcomes
import ProcureFoundation.Ingestion.Validation
import ProcureFoundation.Matching.PackParser
import ProcureFoundation.Matching.ExactMatches
import ProcureFoundation.Matching.Scorer
import ProcureFoundation.Matching.VariantConflicts
import ProcureFoundation.Consolidation.Scan
import ProcureFoundation.Consolidation.ScanRuns
import ProcureFoundation.Consolidation.Graph
import ProcureFoundation.PriceReview.Calculations
import ProcureFoundation.PriceReview.Lines
import ProcureFoundation.PriceReview.RunMatching
import ProcureFoundation.PriceReview.RowCoverage
import ProcureFoundation.PriceReview.Summary
import ProcureFoundation.PriceReview.RepeatedMatch
import ProcureFoundation.PriceReview.Service
import ProcureFoundation.PriceReview.LineRuns
import ProcureFoundation.PriceReview.LiveMatches
import ProcureFoundation.PriceReview.FreshFigures
import ProcureFoundation.PriceReview.StagedPrices
import ProcureFoundation.PriceReview.AutoMatches
import ProcureFoundation.PriceReview.StoredRows
import ProcureFoundation.PriceReview.ColumnFit
import ProcureFoundation.Foundation.IsoDate
import ProcureFoundation.Ingestion.PurchaseTransactionValidation
import ProcureFoundation.Ingestion.PurchaseTransactionService
import ProcureFoundation.Foundation.DayArithmetic
import ProcureFoundation.Foundation.FiringLog
import ProcureFoundation.Foundation.EveryStep
import ProcureFoundation.Contracts.Calculations
import ProcureFoundation.Contracts.Contract
import ProcureFoundation.Contracts.Alerts
import ProcureFoundation.Contracts.Promotion
import ProcureFoundation.Contracts.ContractValidity
import ProcureFoundation.Contracts.ExtractionRoute
import ProcureFoundation.SavingsRegister.Waterfall
import ProcureFoundation.Foundation.DecimalArithmetic
import ProcureFoundation.Foundation.SnapshotRows
import ProcureFoundation.PeriodSnapshots.Values
import ProcureFoundation.PeriodSnapshots.Ingestion
import ProcureFoundation.Contracts.VerificationGate
import ProcureFoundation.Tenancy.SessionContext
import ProcureFoundation.Foundation.GroupedTotals
import ProcureFoundation.Ledger.SpendViews
import ProcureFoundation.Foundation.ExactDecimals
import ProcureFoundation.ManagementAccounting.NetMargin
import ProcureFoundation.ManagementAccounting.MarginRoutes
import ProcureFoundation.Logistics.RouteCost
import ProcureFoundation.Foundation.KnownConditions
import ProcureFoundation.Evidence.CombinationRules
import ProcureFoundation.Contracts.Listing
import ProcureFoundation.Contracts.ProcurementLens
import ProcureFoundation.Contracts.FreshReads
import ProcureFoundation.Users.Permissions
import ProcureFoundation.Users.Memberships
import ProcureFoundation.Users.GrantedRoles
import ProcureFoundation.Evidence.Backfill
import ProcureFoundation.Evidence.MigratedTables
import ProcureFoundation.Foundation.MarginalSums
import ProcureFoundation.Foundation.RoundingOrder
import ProcureFoundation.Rebate.RoundedDifferences
import ProcureFoundation.Rebate.TierLookup
import ProcureFoundation.Rebate.NextTier
import ProcureFoundation.Rebate.MarginalTiers
import ProcureFoundation.Rebate.Receipts
import ProcureFoundation.PriceReview.StoredMovement
import ProcureFoundation.PriceReview.MarginImpact
import ProcureFoundation.Matching.BestMatch
import ProcureFoundation.Foundation.RowBatches
import ProcureFoundation.Ingestion.BatchReports
import ProcureFoundation.Ingestion.RowIssues
import ProcureFoundation.Ingestion.InventorySnapshotValidation
import ProcureFoundation.Ingestion.InventoryValuationValidation
import ProcureFoundation.Ingestion.WorkingCapitalValidation
import ProcureFoundation.Ingestion.ValidatorTotality
import ProcureFoundation.Foundation.AsciiText
import ProcureFoundation.Foundation.DayOrder
import ProcureFoundation.Foundation.KeyedFolds
import ProcureFoundation.Foundation.Dictionaries
import ProcureFoundation.Foundation.FirstTouches
import ProcureFoundation.Foundation.RunningTotals
import ProcureFoundation.Foundation.KeyedTotals
import ProcureFoundation.Foundation.OneSignChange
import ProcureFoundation.Foundation.RankedTotals
import ProcureFoundation.Foundation.RoundedMeans
import ProcureFoundation.Foundation.SeparatedWords
import ProcureFoundation.Contracts.Lifecycle
import ProcureFoundation.Contracts.MonthSteps
import ProcureFoundation.PeriodSnapshots.DaysMetrics
import ProcureFoundation.Matching.NormalForm
import ProcureFoundation.Matching.PackGrammar
import ProcureFoundation.Ingestion.ColumnMapping
import ProcureFoundation.Rebate.PeriodPartition
import ProcureFoundation.PriceReview.WeightedAverage
import ProcureFoundation.Ledger.MonthlyTrend
import ProcureFoundation.Ledger.SpendConcentration
import ProcureFoundation.Consolidation.GraphNodes
import ProcureFoundation.ManagementAccounting.CashForecast
import ProcureFoundation.CapitalInvestment.NetPresentValue
import ProcureFoundation.CapitalInvestment.DiscountedPayback
import ProcureFoundation.CapitalInvestment.SignRule
import ProcureFoundation.CapitalInvestment.InternalRate
import ProcureFoundation.CapitalInvestment.ReportedRate
import ProcureFoundation.Inventory.Movement
import ProcureFoundation.Inventory.Lens
import ProcureFoundation.Canvas.LensGraph
import ProcureFoundation.Canvas.WellFormedLens
import ProcureFoundation.Canvas.WellFormedGraphs
import ProcureFoundation.Copilot.IntentRouter
import ProcureFoundation.Foundation.LikePattern
import ProcureFoundation.Copilot.Handlers
import ProcureFoundation.Foundation.RunMoments
import ProcureFoundation.Foundation.ReadThenWrite
import ProcureFoundation.Consolidation.FlagReviews
import ProcureFoundation.Foundation.VisibleRows
import ProcureFoundation.Copilot.OwnAnswers
import ProcureFoundation.Copilot.SupplierNames
import ProcureFoundation.Users.AccessTokens
import ProcureFoundation.Users.Accounts
import ProcureFoundation.Users.SignInRuns
import ProcureFoundation.Rebate.ThresholdAlerts
import ProcureFoundation.Postings.Calculations
import ProcureFoundation.Postings.PurchaseLedgerService
import ProcureFoundation.Postings.PostedSpend
import ProcureFoundation.Foundation.StoredColumns
import ProcureFoundation.Ingestion.TransactionUploads
