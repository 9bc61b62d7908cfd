import Autoscaler.Cluster.Scan
import Autoscaler.CommandLine
import Autoscaler.ControlLoop.History
import Autoscaler.ControlLoop.Timeline
import Autoscaler.Endpoints
import Autoscaler.Lifecycle.Timeline
import Autoscaler.Main
import Autoscaler.Metrics.Exposition
import Autoscaler.NodeGroup.Decode
import Autoscaler.NodeGroup.Report
import Autoscaler.Proofs.ReportExactness
import Autoscaler.Proofs.StartupGate
import Autoscaler.Proofs.Runs
import Autoscaler.Proofs.LifecycleStep
import Autoscaler.Proofs.LifecycleInvariant
import Autoscaler.Proofs.ServerIsolation
import Autoscaler.Proofs.LifecycleOrder
import Autoscaler.Proofs.LifecycleOutcome
import Autoscaler.Proofs.WatcherFailure
import Autoscaler.Proofs.LoopStep
import Autoscaler.Proofs.LoopStop
import Autoscaler.Proofs.LoopTies
import Autoscaler.Proofs.LoopPacing
import Autoscaler.Proofs.SeriesLaws
import Autoscaler.Proofs.MetricsLaws
import Autoscaler.Proofs.LoopMetrics
import Autoscaler.Proofs.Exposition
import Autoscaler.Proofs.SoundConfiguration
import Autoscaler.Proofs.DocumentTree
import Autoscaler.Proofs.GroupFields
import Autoscaler.Proofs.ConfigurationTree
import Autoscaler.Proofs.Decoding
import Autoscaler.Proofs.OmittedValues
import Autoscaler.Proofs.ProcessLife
import Autoscaler.Proofs.ExitStatus
import Autoscaler.Proofs.DurationGrammar
import Autoscaler.Proofs.DurationFaults
import Autoscaler.Proofs.FractionCut
import Autoscaler.Proofs.DurationText
import Autoscaler.Proofs.RuleExactness
import Autoscaler.Proofs.SnapshotTotals
import Autoscaler.Proofs.ScanAgreement
import Autoscaler.Proofs.PassIndependence
import Autoscaler.Proofs.StopBroadcast
import Autoscaler.Proofs.SourceText
import Autoscaler.Proofs.EndOfSource
import Autoscaler.Proofs.EndOfStream
import Autoscaler.Proofs.QuotedText
import Autoscaler.Proofs.JsonText
import Autoscaler.Proofs.CursorPasses
import Autoscaler.Proofs.FlowStrings
import Autoscaler.Proofs.FlowWords
import Autoscaler.Proofs.FlowEvents
import Autoscaler.Proofs.FlowLexer
import Autoscaler.Proofs.FlowTokens
import Autoscaler.Proofs.ConfigurationText
import Autoscaler.Proofs.ConfigurationTokens
import Autoscaler.Proofs.JsonRoundTrip
import Autoscaler.Proofs.NumberText
import Autoscaler.Proofs.ScalarValues
import Autoscaler.Proofs.ExactDoubles
import Autoscaler.Proofs.NodeCount
import Autoscaler.Proofs.AddressText
import Autoscaler.Proofs.WholeQuantities
import Autoscaler.Proofs.ListenAddress
