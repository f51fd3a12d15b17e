import AlgoTrader.Theory.Interaction
import AlgoTrader.Theory.Logic
import AlgoTrader.Theory.Dict
import AlgoTrader.Theory.Raising
import AlgoTrader.Theory.Lives
import AlgoTrader.Core.Uuid
import AlgoTrader.Core.Models
import AlgoTrader.Risk.Engine
import AlgoTrader.Brokers.Http
import AlgoTrader.Execution.Store
import AlgoTrader.Execution.Book
import AlgoTrader.Execution.Audit
import AlgoTrader.Process.Effects
import AlgoTrader.Process.World
import AlgoTrader.Process.Rehearsal
import AlgoTrader.Risk.KillSwitch
import AlgoTrader.Risk.SwitchMethods
import AlgoTrader.Risk.SwitchFailures
import AlgoTrader.Risk.SwitchHistory
import AlgoTrader.Risk.SwitchCrash
import AlgoTrader.Execution.Engine
import AlgoTrader.Execution.AtMostOnce
import AlgoTrader.Execution.FillCoverage
import AlgoTrader.Execution.Closure
import AlgoTrader.Execution.CloseSafety
import AlgoTrader.Execution.NeverSent
import AlgoTrader.App.Trading
import AlgoTrader.App.StopSafety
import AlgoTrader.App.SingleOrder
import AlgoTrader.App.Lineage
import AlgoTrader.Strategy.Backtest
import AlgoTrader.Strategy.NoLookAhead
import AlgoTrader.Portfolio.Ledger
import AlgoTrader.Theory.Loops
import AlgoTrader.Theory.Parts
import AlgoTrader.Data.Stream
import AlgoTrader.Data.StreamRuns
import AlgoTrader.Data.Heartbeat
import AlgoTrader.Data.Buckets
import AlgoTrader.Data.Emission
import AlgoTrader.Data.Contiguity
import AlgoTrader.Portfolio.Reconciliation
import AlgoTrader.Portfolio.Halts
import AlgoTrader.Portfolio.Comparison
import AlgoTrader.Portfolio.Scheduler
import AlgoTrader.Portfolio.FailClosed
import AlgoTrader.Portfolio.Adoption
import AlgoTrader.App.Recovery
import AlgoTrader.Portfolio.Balances
import AlgoTrader.Portfolio.Reload
import AlgoTrader.Brokers.Json
import AlgoTrader.Brokers.Venue
import AlgoTrader.Brokers.Coinbase
import AlgoTrader.Brokers.Listings
import AlgoTrader.Brokers.Gemini
import AlgoTrader.Brokers.Submission
import AlgoTrader.Brokers.Resubmission
import AlgoTrader.Core.Text
import AlgoTrader.Theory.Slots
import AlgoTrader.Data.Watchlist
import AlgoTrader.Data.WatchlistRuns
import AlgoTrader.Api.Authorization
import AlgoTrader.Data.Candles
import AlgoTrader.App.WatchFeed
import AlgoTrader.App.WatchFeedRuns
import AlgoTrader.Core.Calendar
import AlgoTrader.Theory.Keyset
import AlgoTrader.Api.History
import AlgoTrader.Api.HistoryPages
import AlgoTrader.Execution.Bindings
import AlgoTrader.Execution.StoreAgreement
import AlgoTrader.Data.Backfill
import AlgoTrader.Core.Resilience
import AlgoTrader.Brokers.Nonces
import AlgoTrader.Theory.Separated
import AlgoTrader.Core.OrderKey
import AlgoTrader.Brokers.Replacement
import AlgoTrader.Risk.GateLaws
import AlgoTrader.Portfolio.Composition
import AlgoTrader.App.Equity
import AlgoTrader.Api.ReconnectStorms
import AlgoTrader.Api.Uptime
import AlgoTrader.Api.Revocation
import AlgoTrader.Api.CoinCatalog
import AlgoTrader.Theory.Tasks
import AlgoTrader.Api.OperatorState
import AlgoTrader.Brokers.Simulated
import AlgoTrader.Brokers.SimulatedFills
import AlgoTrader.Brokers.SimulatedRuns
import AlgoTrader.Brokers.SimulatedAccounts
import AlgoTrader.Brokers.SimulatedLedger
import AlgoTrader.Portfolio.FillCost
import AlgoTrader.Portfolio.Explain
import AlgoTrader.Strategy.Accounting
import AlgoTrader.Strategy.Periods
import AlgoTrader.Strategy.WalkForward
import AlgoTrader.Core.RawDecimal
import AlgoTrader.Api.Research
import AlgoTrader.Api.ResearchJobs
import AlgoTrader.App.LossLimits
import AlgoTrader.Brokers.MarketCap
import AlgoTrader.Core.Numerals
import AlgoTrader.Brokers.WireNumbers
import AlgoTrader.Execution.VenueFills
import AlgoTrader.Strategy.Reference
import AlgoTrader.Core.CandleFields
import AlgoTrader.Brokers.CoinCatalog
import AlgoTrader.Theory.Grouping
import AlgoTrader.Theory.Stretches
import AlgoTrader.Theory.Frames
import AlgoTrader.Api.Trends
import AlgoTrader.Api.Markets
import AlgoTrader.App.MemoryUse
import AlgoTrader.App.PendingTimeout
import AlgoTrader.App.Cooldown
import AlgoTrader.Strategy.Drawdown
import AlgoTrader.Core.Logging
import AlgoTrader.Core.RequestBudget
import AlgoTrader.Brokers.Retries
import AlgoTrader.Theory.Newest
import AlgoTrader.Api.Activity
import AlgoTrader.Theory.Resume
import AlgoTrader.App.WatchStore
import AlgoTrader.App.WatchComplete
import AlgoTrader.Data.GapFills
import AlgoTrader.App.PaperHistory
import AlgoTrader.App.HistoryHoles
import AlgoTrader.App.FeedControl
import AlgoTrader.Theory.Cleanup
import AlgoTrader.App.Lifespan
import AlgoTrader.Portfolio.EquityHistory
import AlgoTrader.Portfolio.TodayPnl
import AlgoTrader.Theory.Substitution
import AlgoTrader.Core.Redaction
import AlgoTrader.Core.Announcements
import AlgoTrader.Core.RedactedText
import AlgoTrader.Api.Soak
import AlgoTrader.Api.SoakDigest
