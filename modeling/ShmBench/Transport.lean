import ShmBench.Config
import ShmBench.Channel.Image

/-!
# Finding the shared region

Inside a virtual machine the shared memory is a device resource file; on the
host, or without a machine at all, it is a plain file.  `Transport.discover`
takes the device resource when it exists and the plain file otherwise, and
reports both names when neither does.  Only the host may make the plain file
(`Transport.createFallback`), at the configured size; a guest that found no
region must not invent its own.

Mapping a transport opens its file for reading and writing and takes the
whole file as the region (`Transport.openPath`), so the file's length must be
a region size, 4 KiB to 1 GiB.
-/

namespace ShmBench

/-- **A discovered transport.** -/
inductive Transport where
  /-- The device's memory resource, seen from inside the guest. -/
  | pciResource (path : String)
  /-- A plain file, seen from the host. -/
  | sharedFile (path : String)
  deriving DecidableEq, Repr

namespace Transport

/-- The variant's name. -/
def name : Transport → String
  | .pciResource _ => "PciResource"
  | .sharedFile _ => "SharedFile"

/-- The file the transport maps. -/
def path : Transport → String
  | .pciResource p => p
  | .sharedFile p => p

/-- **Pick the device resource if it exists, else the plain file.** -/
def discover (fs : Files) (c : TransportConfig) : Except RegionError Transport :=
  let resource := c.resourcePath
  if fs.exists resource then .ok (.pciResource resource)
  else if fs.exists c.fallbackPath then .ok (.sharedFile c.fallbackPath)
  else .error (.transportNotFound [resource, c.fallbackPath])

/-- Make the file at `path` at least `size` bytes long, creating it when it
does not exist; its contents are kept. -/
def ensureFile (fs : Files) (path : String) (size : Nat) : Except RegionError Files :=
  match fs.openError path true with
  | some e => .error (.openFailed path e.message)
  | none =>
    let d := (fs.file? path).getD {}
    .ok (if d.length < size then fs.put path (.file (d.resize size)) else fs.put path (.file d))

/-- **Make the plain file at the configured size**, then use it. -/
def createFallback (fs : Files) (c : TransportConfig) : Except RegionError (Transport × Files) := do
  let fs ← ensureFile fs c.fallbackPath c.regionSize
  pure (.sharedFile c.fallbackPath, fs)

/-- **Map a file in full**: it must open for reading and writing, and its
length must be a region size. -/
def openPath (fs : Files) (path : String) : Except RegionError Region :=
  match fs.openError path false with
  | some e => .error (.openFailed path e.message)
  | none =>
    let size := ((fs.file? path).map FileData.length).getD 0
    if h : size < Region.minSize || size > Region.maxSize then
      .error (.openFailed path s!"Invalid size: {size}")
    else .ok ⟨.file path, size, by simp at h; omega⟩

/-- Map the transport's file. -/
def map (fs : Files) (t : Transport) : Except RegionError Region := openPath fs t.path

end Transport

/-- Discovery prefers the device resource whenever it exists. -/
theorem Transport.discover_resource (fs : Files) (c : TransportConfig) (h : fs.exists c.resourcePath = true) :
    Transport.discover fs c = .ok (.pciResource c.resourcePath) := by
  simp [Transport.discover, h]

end ShmBench
