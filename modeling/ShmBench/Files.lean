import ShmBench.Error

/-!
# Files

The file system the command line sees: files and directories under names
relative to the working directory, or absolute names starting with `/`.

A file is its written bytes and its length; the bytes past the written prefix
read as zero, as in a sparse file, so a region file of a gigabyte costs only
what has been written to it.  A directory holds nothing itself: a name is a
directory when it was made one or when some file lives below it.

A name is resolved the way the system walks it (`Files.lookup`): part by
part from the working directory or the root, every part but the last a
directory, `.` staying and `..` going up, so `./a//b`, `d/../a/b` and `a/b`
name the same file when `d` is a directory.  A name that ends in `/` must be
a directory.  `/dev/null` is always there: it reads as empty and keeps
nothing written to it.

Operations:
* `Files.exists`, `Files.isDir`, `Files.find` look a name up;
* `Files.readText` reads a whole file as text, failing as the system does on
  a directory, a missing file or bytes that are not UTF-8;
* `Files.writeFile`, `Files.setLength`, `Files.makeDirs` change the tree;
* `Files.names` lists the files, sorted, as the command line's results do.
-/

namespace ShmBench

/-- **A file's contents**: the written prefix and the length. -/
structure FileData where
  bytes : ByteArray := ByteArray.empty
  length : Nat := 0
  deriving Inhabited

namespace FileData

/-- A file holding exactly `bytes`. -/
def ofBytes (bytes : ByteArray) : FileData := ⟨bytes, bytes.size⟩

/-- All the bytes of the file, the unwritten ones as zeros. -/
def contents (d : FileData) : ByteArray :=
  if d.length ≤ d.bytes.size then d.bytes.extract 0 d.length
  else d.bytes ++ ⟨Array.replicate (d.length - d.bytes.size) 0⟩

/-- `len` bytes from `offset`, zeros past the written prefix and the end. -/
def slice (d : FileData) (offset len : Nat) : ByteArray :=
  let got := d.bytes.extract offset (offset + len)
  if got.size = len then got else got ++ ⟨Array.replicate (len - got.size) 0⟩

/-- Change the length; the bytes past a shorter length are gone. -/
def resize (d : FileData) (n : Nat) : FileData :=
  if n < d.bytes.size then ⟨d.bytes.extract 0 n, n⟩ else { d with length := n }

/-- Write `src` at `offset`, growing the file if it ends past its length. -/
def writeAt (d : FileData) (offset : Nat) (src : ByteArray) : FileData :=
  let base := if offset ≤ d.bytes.size then d.bytes
    else d.bytes ++ ⟨Array.replicate (offset - d.bytes.size) 0⟩
  let bytes := src.copySlice 0 base offset src.size
  ⟨bytes, max d.length (offset + src.size)⟩

end FileData

/-- **An entry** of the file system. -/
inductive Entry where
  | file (data : FileData)
  | dir
  deriving Inhabited

/-- **The file system**: entries by normalized name. -/
structure Files where
  entries : List (String × Entry) := []
  deriving Inhabited

namespace Files

/-- **A name's key** without walking it: empty and `.` parts dropped, a `..`
taking back the part before it, and absolute names keeping their `/`.  It is
the key of a name known to lead where it says, such as a file just read. -/
def normalize (name : String) : String :=
  let absolute := name.startsWith "/"
  let step (acc : List String) (p : String) : List String :=
    if p == "" || p == "." then acc
    else if p == ".." then
      match acc with
      | q :: rest => if q == ".." then p :: acc else rest
      | [] => if absolute then [] else [p]
    else p :: acc
  let body := "/".intercalate ((name.splitOn "/").foldl step []).reverse
  if absolute then "/" ++ body else body

/-- The directories that hold a normalized name, nearest last. -/
def parents (key : String) : List String :=
  let absolute := key.startsWith "/"
  let parts := (key.splitOn "/").filter (· != "")
  let rec go (acc : List String) (done : List String) : List String → List String
    | [] => acc.reverse
    | [_] => acc.reverse
    | p :: rest =>
      let d := done ++ [p]
      let name := (if absolute then "/" else "") ++ "/".intercalate d
      go (name :: acc) d rest
  go [] [] parts

/-- The device that reads as empty and swallows what is written to it. -/
def nullDevice : String := "/dev/null"

/-- Whether a key is a directory: the working directory, the root, `/dev`,
one made as such, or one that holds an entry. -/
def isDirKey (fs : Files) (key : String) : Bool :=
  key == "" || key == "/" || key == "/dev" ||
    fs.entries.any (fun (k, e) => (k == key && match e with | .dir => true | .file _ => false) ||
      (parents k).contains key)

/-- The file under a key, the null device included. -/
def fileAt? (fs : Files) (key : String) : Option FileData :=
  if key == nullDevice then some {}
  else match fs.entries.lookup key with
    | some (.file d) => some d
    | _ => none

/-- **Where a name leads** when the system walks it part by part. -/
inductive Lookup where
  /-- An existing directory, under its key. -/
  | dir (key : String)
  /-- An existing file, under its key. -/
  | file (key : String)
  /-- Nothing, in an existing directory: the key a new file would take. -/
  | absent (key : String)
  /-- The walk stopped on the way: a missing directory or a file used as one. -/
  | broken (e : IoError)

/-- A part below a directory key. -/
def child (dir part : String) : String :=
  if dir == "" then part else if dir == "/" then "/" ++ part else dir ++ "/" ++ part

/-- The directory above a directory key.  Above the working directory lie
directories the file system does not record, keyed by `..` parts. -/
def parentKey (key : String) : String :=
  if key == "/" then "/"
  else if key == "" then ".."
  else if key == ".." || key.endsWith "/.." then key ++ "/.."
  else match parents key with
    | [] => if key.startsWith "/" then "/" else ""
    | ps => ps.getLast!

/-- Whether a key lies above the working directory, where nothing is known. -/
def outside (key : String) : Bool := key == ".." || key.startsWith "../"

/-- **Walk a name** the way the system resolves it: every part but the last
must be a directory, `.` stays and `..` goes up.  A name that ends in `/`,
`.` or `..` must end at a directory, which the second result says. -/
def lookup (fs : Files) (name : String) : Lookup × Bool :=
  let parts := (name.splitOn "/").filter (· != "")
  let lastPart := parts.getLast?.getD ""
  let mustBeDir := name.endsWith "/" || lastPart == "." || lastPart == ".."
  let base := if name.startsWith "/" then "/" else ""
  let kind (key : String) : Lookup :=
    if fs.isDirKey key then .dir key
    else if (fs.fileAt? key).isSome then .file key
    else .absent key
  let step (at_ : Lookup) (p : String) : Lookup :=
    match at_ with
    | .dir d =>
      if p == "." then .dir d
      else if p == ".." then .dir (parentKey d)
      else if outside d then .absent (child d p)
      else kind (child d p)
    | .file _ => .broken .notDirectory
    | .absent _ => .broken .notFound
    | .broken e => .broken e
  (parts.foldl step (.dir base), mustBeDir)

/-- The key a name stands for: where it leads, or its normalized form when
the walk breaks. -/
def keyOf (fs : Files) (name : String) : String :=
  match (fs.lookup name).1 with
  | .dir k | .file k | .absent k => k
  | .broken _ => normalize name

/-- The entry under a name, without the implicit directories. -/
def find (fs : Files) (name : String) : Option Entry := fs.entries.lookup (fs.keyOf name)

/-- Whether a name leads to a directory.  The empty name leads nowhere. -/
def isDir (fs : Files) (name : String) : Bool :=
  name != "" && match (fs.lookup name).1 with
    | .dir _ => true
    | _ => false

/-- Whether a name exists, as the system's status query sees it. -/
def «exists» (fs : Files) (name : String) : Bool :=
  name != "" && match fs.lookup name with
    | (.dir _, _) => true
    | (.file _, mustBeDir) => !mustBeDir
    | _ => false

/-- The file a name leads to. -/
def file? (fs : Files) (name : String) : Option FileData :=
  if name == "" then none
  else match fs.lookup name with
    | (.file k, false) => fs.fileAt? k
    | _ => none

/-- Put an entry under a name, replacing any before; the null device keeps
nothing. -/
def put (fs : Files) (name : String) (e : Entry) : Files :=
  let key := fs.keyOf name
  if key == nullDevice then fs
  else { entries := (key, e) :: fs.entries.filter (fun (k, _) => k != key) }

/-- **Why a file cannot be opened** for reading and writing, creating it when
`create` says so: a broken walk, a directory in its place, a name that must
be a directory but is not, or nothing there to open. -/
def openError (fs : Files) (name : String) (create : Bool) : Option IoError :=
  if name == "" then some .notFound
  else match fs.lookup name with
    | (.broken e, _) => some e
    | (_, true) => if create then some .isDirectory
      else match (fs.lookup name).1 with
        | .dir _ => some .isDirectory
        | .file _ => some .notDirectory
        | _ => some .notFound
    | (.dir _, false) => some .isDirectory
    | (.file _, false) => none
    | (.absent _, false) => if create then none else some .notFound

/-- Read a whole file as text. -/
def readText (fs : Files) (name : String) : Except IoError String :=
  match fs.openError name false with
  | some e => .error e
  | none =>
    match fs.file? name with
    | none => .error .notFound
    | some d =>
      match String.fromUTF8? d.contents with
      | some s => .ok s
      | none => .error (.custom "stream did not contain valid UTF-8")

/-- Replace a file's contents, creating it when its directory exists. -/
def writeFile (fs : Files) (name : String) (bytes : ByteArray) : Except IoError Files :=
  match fs.openError name true with
  | some e => .error e
  | none => .ok (fs.put name (.file (FileData.ofBytes bytes)))

/-- **Make a directory and the ones above it.**  A directory that exists is
left as it is; a file in its place is refused as existing, and a file above
it as not being a directory. -/
def makeDirs (fs : Files) (name : String) : Except IoError Files :=
  let key := normalize name
  if fs.isDir key || key == "" || key == "/" then .ok fs
  else if (fs.file? key).isSome then .error (.os 17)
  else if (parents key).any (fun d => (fs.file? d).isSome) then .error .notDirectory
  else .ok ((parents key ++ [key]).foldl (fun (fs : Files) d => if fs.isDir d then fs else fs.put d .dir) fs)

/-- A name inside a directory: the two joined by one separator. -/
def join (dir name : String) : String :=
  if dir.isEmpty then name else if dir.endsWith "/" then dir ++ name else dir ++ "/" ++ name

/-- The names of all files below the working directory, sorted. -/
def names (fs : Files) : List String :=
  let files := fs.entries.filterMap fun (k, e) =>
    match e with
    | .file _ => if k.startsWith "/" || outside k then none else some k
    | .dir => none
  files.mergeSort (fun a b => decide (a ≤ b))

end Files

end ShmBench
