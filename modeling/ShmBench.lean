import ShmBench.Bench.Baseline
import ShmBench.Bench.Frames
import ShmBench.Bench.Harness
import ShmBench.Bench.Metrics
import ShmBench.Bench.Payload
import ShmBench.Bench.Records
import ShmBench.Bench.Report
import ShmBench.Bench.Summary
import ShmBench.Channel.Basic
import ShmBench.Channel.Header
import ShmBench.Channel.Image
import ShmBench.Channel.State
import ShmBench.Channel.Wire
import ShmBench.Cli.Attach
import ShmBench.Cli.Console
import ShmBench.Cli.Grammar
import ShmBench.Cli.Guest
import ShmBench.Cli.Host
import ShmBench.Cli.Invocation
import ShmBench.Cli.Parse
import ShmBench.Cli.Run
import ShmBench.Config
import ShmBench.Counter.Report
import ShmBench.Counter.Source
import ShmBench.Digest
import ShmBench.Digest.Sha256
import ShmBench.Error
import ShmBench.Fault
import ShmBench.Files
import ShmBench.Json
import ShmBench.Json.Number
import ShmBench.Json.Read
import ShmBench.Main
import ShmBench.Message
import ShmBench.Pipeline
import ShmBench.Proofs.AtMostOnce
import ShmBench.Proofs.Codec
import ShmBench.Proofs.ConfigChecks
import ShmBench.Proofs.CounterFacade
import ShmBench.Proofs.Discipline
import ShmBench.Proofs.Finality
import ShmBench.Proofs.GuestOps
import ShmBench.Proofs.HostOps
import ShmBench.Proofs.Initialization
import ShmBench.Proofs.Interleaving
import ShmBench.Proofs.MessageCount
import ShmBench.Proofs.PipelineRuns
import ShmBench.Proofs.RelyGuarantee
import ShmBench.Proofs.RunSummaries
import ShmBench.Proofs.Runs
import ShmBench.Proofs.SampleStatistics
import ShmBench.Proofs.SendOutcomes
import ShmBench.Proofs.SequenceTags
import ShmBench.Proofs.Serving
import ShmBench.Proofs.Shutdown
import ShmBench.Proofs.StateMachines
import ShmBench.Protocol.Guest
import ShmBench.Protocol.Host
import ShmBench.Protocol.Program
import ShmBench.Protocol.Report
import ShmBench.Protocol.ReportJson
import ShmBench.Protocol.Schedule
import ShmBench.Random.Generator
import ShmBench.Region
import ShmBench.Rounding
import ShmBench.Session
import ShmBench.Session.Read
import ShmBench.Session.View
import ShmBench.Text.Decimal
import ShmBench.Text.Format
import ShmBench.Text.Numeral
import ShmBench.Text.Similarity
import ShmBench.Text.Visibility
import ShmBench.Transport
import ShmBench.View
import ShmBench.Yaml.Decode
import ShmBench.Yaml.Load
import ShmBench.Yaml.Parser
import ShmBench.Yaml.Scalar
import ShmBench.Yaml.Scanner
