import ShmBench.Error

/-!
# Shared memory regions

A region is a mapping of 4 KiB to 1 GiB, backed by a named POSIX object, a
file, or nothing (anonymous).  Sizes outside those bounds are refused before
anything is created.

Named objects live in a namespace (`ShmNamespace`).  A name is stored with a
leading slash; the system strips leading slashes and refuses an empty rest, a
rest with a slash, or a rest of 254 bytes or more (`Invalid argument`).
Creation is exclusive, so creating a name twice fails with "Shared memory
already exists"; the creator unlinks the name when its region is dropped, and
opening an unlinked name fails with "No such file or directory".
-/

namespace ShmBench

/-- **What a region is backed by.** -/
inductive Backing where
  | posix (name : String) (owner : Bool)
  | file (path : String)
  | anonymous
  deriving DecidableEq, Repr

/-- The smallest region. -/
def Region.minSize : Nat := 4096

/-- The largest region, 1 GiB. -/
def Region.maxSize : Nat := 1024 * 1024 * 1024

/-- **A mapped region**, never larger than `Region.maxSize`: every way of
making one checks its size first. -/
structure Region where
  backing : Backing
  size : Nat
  size_le : size ≤ Region.maxSize
  deriving DecidableEq, Repr

namespace Region

/-- Refuse sizes outside `[minSize, maxSize]`; an admitted size carries its
upper bound. -/
def validateSize (name : String) (size : Nat) : Except RegionError (PLift (size ≤ maxSize)) :=
  if size < minSize then .error (.createFailed name s!"Size {size} is below minimum {minSize}")
  else if h : size > maxSize then .error (.createFailed name s!"Size {size} exceeds maximum {maxSize}")
  else .ok ⟨Nat.le_of_not_gt h⟩

/-- **An anonymous region** of `size` bytes. -/
def anonymous (size : Nat) : Except RegionError Region := do
  let ⟨h⟩ ← validateSize "anonymous" size
  pure ⟨.anonymous, size, h⟩

/-- How the region names itself in logs and errors. -/
def describe (r : Region) : String :=
  match r.backing with
  | .posix name _ => "shm:/" ++ name
  | .file path => path
  | .anonymous => "anonymous"

end Region

/-- **The named objects that exist**, with their sizes. -/
abbrev ShmNamespace := List (String × Nat)

namespace ShmNamespace

/-- The system name of a region name: a leading slash is added, and a NUL byte is
refused with its byte position in the slashed name. -/
def systemName (name : String) : Except RegionError String :=
  let slashed := "/" ++ name
  match slashed.toUTF8.toList.idxOf? 0 with
  | some pos =>
    .error (.createFailed name s!"Invalid name: nul byte found in provided data at position: {pos}")
  | none => .ok slashed

/-- The object key of a system name, or the error number refusing it. -/
def objectKey (systemName : String) : Except Nat String :=
  let rest := String.ofList (systemName.toList.dropWhile (· == '/'))
  if rest.isEmpty || rest.utf8ByteSize + 1 ≥ 255 || rest.contains '/' then .error 22
  else .ok rest

/-- The text of a failed open call. -/
def openFailure (name : String) (code : Nat) : RegionError :=
  .createFailed name s!"shm_open failed: {(IoError.os code).message}"

/-- Whether a key names an object, counting the directory entries `.` and `..`. -/
def hasObject (ns : ShmNamespace) (key : String) : Bool :=
  key == "." || key == ".." || ns.any (·.1 == key)

/-- **Create a named region** exclusively. -/
def create (ns : ShmNamespace) (name : String) (size : Nat) :
    Except RegionError (Region × ShmNamespace) := do
  let ⟨h⟩ ← Region.validateSize name size
  if name.isEmpty then throw (.createFailed name "Name cannot be empty")
  let sys ← systemName name
  match objectKey sys with
  | .error code => throw (openFailure name code)
  | .ok key =>
    if ns.hasObject key then throw (.createFailed name "Shared memory already exists")
    pure (⟨.posix name true, size, h⟩, (key, size) :: ns)

/-- **Open an existing named region**, mapping `size` bytes of it. -/
def openRegion (ns : ShmNamespace) (name : String) (size : Nat) : Except RegionError Region := do
  let ⟨h⟩ ← Region.validateSize name size
  let sys ← systemName name
  match objectKey sys with
  | .error code => throw (openFailure name code)
  | .ok key =>
    if key == "." || key == ".." then throw (openFailure name 21)
    if ns.any (·.1 == key) then pure ⟨.posix name false, size, h⟩
    else throw (openFailure name 2)

/-- Drop a region: the creator of a named object unlinks it. -/
def drop (ns : ShmNamespace) (r : Region) : ShmNamespace :=
  match r.backing with
  | .posix name true =>
    match systemName name with
    | .ok sys => match objectKey sys with
      | .ok key => ns.filter (·.1 != key)
      | .error _ => ns
    | .error _ => ns
  | _ => ns

end ShmNamespace
end ShmBench
