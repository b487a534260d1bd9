import TerrierScript.Script
import TerrierScript.LogThroughput.Basic
import TerrierScript.LogThroughput.Orchestrator
import TerrierScript.LogThroughput.Cleanup
import TerrierScript.LogThroughput.Lifecycle
import TerrierScript.LogThroughput.Exceptions
import TerrierScript.LogThroughput.Session
import TerrierScript.LogThroughput.Aggregate
import TerrierScript.MicroBench.ArtifactProcessor
import TerrierScript.MicroBench.Accumulation
import TerrierScript.MicroBench.Report
import TerrierScript.MicroBench.Driver
import TerrierScript.MicroBench.Jenkins
import TerrierScript.Model.MiniTrainer
import TerrierScript.Model.Selection
import TerrierScript.Testing.PyStr
import TerrierScript.Testing.Shlex
import TerrierScript.Testing.Common
import TerrierScript.Testing.GBenchRunResult
import TerrierScript.Testing.JsonValue
import TerrierScript.Testing.OltpBench
import TerrierScript.Testing.ReportResult
