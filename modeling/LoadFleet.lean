import LoadFleet.Ack.Acknowledgement
import LoadFleet.Ack.Wire
import LoadFleet.Collection.OrderedMap
import LoadFleet.Coordinator.Error
import LoadFleet.Coordinator.Fleet
import LoadFleet.Coordinator.Local
import LoadFleet.Coordinator.Run
import LoadFleet.Main
import LoadFleet.Number.Decimal
import LoadFleet.Number.Dyadic
import LoadFleet.Number.Scalar
import LoadFleet.Process.Address
import LoadFleet.Process.CommandLine
import LoadFleet.Process.Config
import LoadFleet.Process.Endpoint
import LoadFleet.Process.Layers
import LoadFleet.Process.Logging
import LoadFleet.Process.Program
import LoadFleet.Process.Service
import LoadFleet.Process.Variables
import LoadFleet.Report.Report
import LoadFleet.Report.Summary
import LoadFleet.Report.Verdict
import LoadFleet.Report.Wire
import LoadFleet.Stage.Plan
import LoadFleet.Stage.Settings
import LoadFleet.Stage.Validation
import LoadFleet.Stage.Wire
import LoadFleet.Stats.Accumulator
import LoadFleet.Stats.Distribution
import LoadFleet.Stats.Kind
import LoadFleet.Stats.Moments
import LoadFleet.Stats.Rate
import LoadFleet.Stats.Samples
import LoadFleet.Stats.Sketch
import LoadFleet.Stats.Statistics
import LoadFleet.Stats.ViewWire
import LoadFleet.Stats.Wire
import LoadFleet.Store.Class
import LoadFleet.Store.InMemory
import LoadFleet.Store.Operation
import LoadFleet.Store.Simulated
import LoadFleet.Stressor.Ask
import LoadFleet.Stressor.Crew
import LoadFleet.Stressor.Iterate
import LoadFleet.Stressor.Pool
import LoadFleet.Stressor.Stress
import LoadFleet.Text.Blank
import LoadFleet.Text.Bytes
import LoadFleet.Text.Letter
import LoadFleet.Text.Numeral
import LoadFleet.Text.Pattern
import LoadFleet.Text.Quoted
import LoadFleet.Text.Visible
import LoadFleet.Time.Brief
import LoadFleet.Time.Clock
import LoadFleet.Time.Readable
import LoadFleet.Time.Span
import LoadFleet.Topology.History
import LoadFleet.Topology.Timeline
import LoadFleet.Topology.Wait
import LoadFleet.Wire.Json
import LoadFleet.Wire.JsonReader
import LoadFleet.Wire.Record
import LoadFleet.Wire.Yaml
import LoadFleet.Wire.YamlReader
import LoadFleet.Wire.YamlToken
import LoadFleet.Worker.Error
import LoadFleet.Worker.Worker
import LoadFleet.Proofs.Findings
import LoadFleet.Proofs.Recording
import LoadFleet.Proofs.ReportGrowth
import LoadFleet.Proofs.Verdict
import LoadFleet.Proofs.ExactNumbers
import LoadFleet.Proofs.PlanRun
import LoadFleet.Proofs.FleetReplies
import LoadFleet.Proofs.Summaries
import LoadFleet.Proofs.PoolRun
import LoadFleet.Proofs.Polling
import LoadFleet.Proofs.EventWait
import LoadFleet.Proofs.Markers
import LoadFleet.Proofs.Fillings
import LoadFleet.Proofs.Enforcement
import LoadFleet.Proofs.Merging
import LoadFleet.Proofs.MergeOrder
import LoadFleet.Proofs.Rounds
import LoadFleet.Proofs.Budget
import LoadFleet.Proofs.CrewRun
import LoadFleet.Proofs.JsonText
import LoadFleet.Proofs.SpanText
import LoadFleet.Proofs.StageText
import LoadFleet.Proofs.GivingUp
import LoadFleet.Proofs.Validity
import LoadFleet.Proofs.PoolEnds
import LoadFleet.Proofs.LocalReplies
import LoadFleet.Proofs.LocalWorkers
import LoadFleet.Proofs.Rounding
import LoadFleet.Proofs.Contents
import LoadFleet.Proofs.StatsText
import LoadFleet.Proofs.ReportText
import LoadFleet.Proofs.JointPasses
import LoadFleet.Proofs.PassReplies
import LoadFleet.Proofs.PassReport
import LoadFleet.Proofs.SharedIteration
import LoadFleet.Proofs.QuietHistories
import LoadFleet.Proofs.Histograms
import LoadFleet.Proofs.PassAccounts
import LoadFleet.Proofs.FailedMerges
import LoadFleet.Proofs.FloatOrder
import LoadFleet.Proofs.Percentiles
import LoadFleet.Proofs.StressorFates
import LoadFleet.Proofs.SettleWait
import LoadFleet.Proofs.ElementsResult
import LoadFleet.Proofs.SampleOrder
import LoadFleet.Proofs.RecentChanges
import LoadFleet.Proofs.Streaks
import LoadFleet.Proofs.ClaimWindow
import LoadFleet.Proofs.ByteOrder
import LoadFleet.Proofs.StoreCalls
import LoadFleet.Proofs.StoreHistory
import LoadFleet.Proofs.CursorReading
import LoadFleet.Proofs.PassLength
import LoadFleet.Proofs.StressFootprint
import LoadFleet.Proofs.Counters
import LoadFleet.Proofs.FloatSigns
import LoadFleet.Proofs.Gatherings
import LoadFleet.Proofs.PooledRates
import LoadFleet.Proofs.RoundingErrors
import LoadFleet.Proofs.RateTexts
import LoadFleet.Proofs.AverageOrder
import LoadFleet.Proofs.EventLists
