import ShmBench.Cli.Run

/-!
# The `ivmark` executable

The program is `Cli.run` over the files it may touch: every argument that
names a readable file, and the region files the configurations among them
name, with the defaults.  After the run, its output is printed, every file
that changed is written back, and the run's status is the exit status.
-/

open ShmBench

/-- The bytes of a readable file, if the name is one. -/
def readIfFile (path : String) : IO (Option ByteArray) := do
  let .ok bytes ← (IO.FS.readBinFile path).toBaseIO | return none
  return some bytes

/-- Add the file at `path` to `fs`, when it can be read and is not there yet. -/
def loadInto (fs : Files) (path : String) : IO Files := do
  if path.isEmpty || (fs.file? path).isSome then return fs
  match ← readIfFile path with
  | some bytes => return fs.put path (.file (FileData.ofBytes bytes))
  | none => return fs

/-- The region files a configuration may name. -/
def regionPaths (c : TransportConfig) : List String :=
  [c.pciResource, c.pciResource ++ "_wc", c.fallbackPath]

/-- The configurations among the loaded files. -/
def configsIn (fs : Files) : List TransportConfig :=
  ({} : TransportConfig) :: fs.entries.filterMap fun (_, e) =>
    match e with
    | .file d => match String.fromUTF8? d.contents with
      | some text => (loadString text).toOption.map (·.transport)
      | none => none
    | .dir => none

/-- Whether two files hold the same bytes. -/
def sameContents (a b : FileData) : Bool := a.contents.data == b.contents.data

/-- Write back what the run changed: new directories and new or changed files. -/
def writeBack (before after : Files) : IO Unit := do
  for (name, e) in after.entries.reverse do
    match e with
    | .dir => if before.find name |>.isNone then IO.FS.createDirAll name
    | .file d =>
      let changed := match before.file? name with
        | some old => !sameContents old d
        | none => true
      if changed then IO.FS.writeBinFile name d.contents

/-- Run `ivmark` with its arguments. -/
def main (args : List String) : IO UInt32 := do
  let fs ← args.foldlM loadInto {}
  let fs ← ((configsIn fs).flatMap regionPaths).foldlM loadInto fs
  let outcome := Cli.run {} fs args
  IO.print outcome.out
  IO.eprint outcome.err
  writeBack fs outcome.files
  return outcome.status.toUInt32
