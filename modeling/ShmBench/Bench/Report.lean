import ShmBench.Bench.Metrics
import ShmBench.Files

/-!
# The JSON report

A report gathers the results of one benchmark run with the suite's name and
version, the time of the run, and a description of the machine.  It is saved
as indented JSON in a file named by its first result's category and the
time, `latency_2025-01-31T12-00-00Z.json` for instance, or `mixed_…` when
it holds no result (`BenchmarkReport.fileName`).

The machine description and the time come from outside: the report takes
them as values, so a report is a function of what was measured.
-/

namespace ShmBench

/-- **The machine a report was made on.** -/
structure SystemInfo where
  os : String := "Unknown"
  osVersion : String := "Unknown"
  kernelVersion : Option String := none
  cpuModel : String := "Unknown"
  cpuCores : Nat := 0
  memoryBytes : Nat := 0
  hostname : String := "Unknown"
  deriving DecidableEq, Repr, Inhabited

/-- The machine description as an object; a kernel version that is not known
is `null`. -/
def SystemInfo.toJson (s : SystemInfo) : Json :=
  .obj [("os", .str s.os), ("os_version", .str s.osVersion),
    ("kernel_version", Json.opt .str s.kernelVersion), ("cpu_model", .str s.cpuModel),
    ("cpu_cores", .nat s.cpuCores), ("memory_bytes", .nat s.memoryBytes), ("hostname", .str s.hostname)]

/-- **A benchmark report.** -/
structure BenchmarkReport where
  benchmarkSuite : String := "ivmark"
  version : String := "0.1.0"
  /-- The time of the run, as RFC 3339 text. -/
  timestamp : String := ""
  systemInfo : SystemInfo := {}
  results : List BenchmarkResult := []
  deriving Inhabited

namespace BenchmarkReport

/-- The report as an object. -/
def toJson (r : BenchmarkReport) : Json :=
  .obj [("benchmark_suite", .str r.benchmarkSuite), ("version", .str r.version),
    ("timestamp", .str r.timestamp), ("system_info", r.systemInfo.toJson),
    ("results", .arr (r.results.map BenchmarkResult.toJson))]

/-- The file name for a report saved at `stamp`: the first result's category,
or `mixed` when there is none. -/
def fileName (r : BenchmarkReport) (stamp : String) : String :=
  ((r.results.head?.map (·.category.name)).getD "mixed") ++ "_" ++ stamp ++ ".json"

/-- **Save the report** as indented JSON in `dir`, made first if needed; the
path of the file written and the files after. -/
def save (r : BenchmarkReport) (fs : Files) (dir stamp : String) : Except IoError (String × Files) := do
  let fs ← fs.makeDirs dir
  let path := Files.join dir (r.fileName stamp)
  let fs ← fs.writeFile path (Json.pretty 0 r.toJson).toUTF8
  pure (path, fs)

end BenchmarkReport

/-- An empty report is named `mixed`. -/
theorem BenchmarkReport.fileName_empty (r : BenchmarkReport) (stamp : String) (h : r.results = []) :
    r.fileName stamp = "mixed_" ++ stamp ++ ".json" := by
  simp [BenchmarkReport.fileName, h]

end ShmBench
