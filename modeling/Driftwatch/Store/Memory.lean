import Driftwatch.Store.Basic
import Driftwatch.Store.PathMap

/-!
# A file store in memory

Files are kept in a map that is ordered by path. Folders are not stored: they are there as long as
a file is below them, so an empty folder cannot exist, and the same path can name a file and a
folder. A file may be locked, which makes it listed but not readable, and writes to chosen paths may
be refused.

## Main definitions

* `Memory`: a state, an instance of `FileStore`.
* `Memory.put`, `Memory.remove`, `Memory.refuse`: changes from outside.
-/

namespace Driftwatch

/-- What a stored file holds. -/
inductive Content where
  | bytes (data : ByteArray)
  /-- Listed with size zero, and unreadable. -/
  | locked

/-- The size of a file in bytes. -/
def Content.size : Content → Nat
  | bytes data => data.size
  | locked => 0

/-- Files in memory. -/
structure Memory where
  files : PathMap Content := .empty
  /-- Paths that cannot be written. -/
  refused : List Path := []

namespace Memory

/-- The state in which a file has the given content. -/
def put (memory : Memory) (path : Path) (content : Content) : Memory :=
  { memory with files := memory.files.insert path content }

/-- The state without a file. -/
def remove (memory : Memory) (path : Path) : Memory :=
  { memory with files := memory.files.erase path }

/-- The state in which writes to a path fail. -/
def refuse (memory : Memory) (path : Path) : Memory :=
  { memory with refused := path :: memory.refused }

/-- The bytes of a file. -/
def readBytes (memory : Memory) (path : Path) : Except StoreFault ByteArray :=
  match memory.files.find? path with
  | some (.bytes data) => .ok data
  | some .locked => .error (.denied path)
  | none => .error (.fileMissing path)

/-- The text of a file. -/
def readText (memory : Memory) (path : Path) : Except StoreFault String :=
  match memory.readBytes path with
  | .ok data => (decodeUtf8 data).mapError .notUtf8
  | .error fault => .error fault

/-- The state after bytes were written to a file. -/
def writeBytes (memory : Memory) (path : Path) (data : ByteArray) : Except StoreFault Memory :=
  if memory.refused.any (·.same path) then .error (.refused path)
  else .ok (memory.put path (.bytes data))

/-- The state after a text was written to a file. -/
def write (memory : Memory) (path : Path) (text : String) : Except StoreFault Memory :=
  memory.writeBytes path text.toUTF8

/-- Whether a file is at a path or below it. -/
def contains (memory : Memory) (path : Path) : Bool :=
  memory.files.entries.any fun entry => entry.1.startsWith path

/-- Whether some component of a path is one of the given names. -/
def ignores (names : List String) (path : Path) : Bool :=
  path.components.any fun component => (names.map RawText.ofString).contains component.text

/-- The entries for a file and the folders above it, put into a list of entries. -/
def addEntries (names : List String) (relative : Path) (content : Content)
    (entries : PathMap ListedItem) : PathMap ListedItem :=
  if ignores names relative || relative.bytes = [] then entries
  else
    let withFolders := relative.properAncestors.foldl
      (fun entries folder => entries.insertNew folder ⟨folder, true, 0, none⟩) entries
    withFolders.insert relative ⟨relative, false, content.size, some .epoch⟩

/-- The files at or below a folder, with their paths from there. -/
def below (memory : Memory) (root : Path) : List (Path × Content) :=
  memory.files.entries.filterMap fun entry => (entry.1.stripPrefix? root).map (·, entry.2)

/-- What is below a folder. -/
def listing (memory : Memory) (root : Path) (names : List String) :
    Except StoreFault (List ListedItem) :=
  match memory.below root with
  | [] => .error (.directoryMissing root)
  | files =>
    let listed := files.foldl (fun entries file => addEntries names file.1 file.2 entries) .empty
    .ok (listed.entries.map (·.2))

end Memory

instance : FileStore Memory where
  readBytes := Memory.readBytes
  readText := Memory.readText
  write memory path text := orUnchanged memory (memory.write path text)
  contains := Memory.contains
  listing := Memory.listing

end Driftwatch
