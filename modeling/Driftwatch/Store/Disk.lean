import Driftwatch.Store.Basic

/-!
# A file store on a disk

A disk has folders that are there on their own, and each path names at most one thing. A path is
followed from the root or from the current folder, one name after another, and everything before a
slash has to be a folder. Names and paths have a largest length. Failures are those that an
operating system reports. Folders that are missing above a file are created when the file is
written, and those that were created stay when something fails after that.

## Main definitions

* `Disk`: files and folders by location, an instance of `FileStore`.
* `Disk.locate`: what a path names.
* `Disk.createFolders`, `Disk.remove`: changes from outside.
* `Disk.everything`: all that is below the current folder.
* `Disk.changesSince`: what was written.
-/

namespace Driftwatch

/-- Where something is on a disk: the names from the root on. -/
abbrev Location := List RawText

/-- What is at a location. -/
inductive DiskItem where
  | file (data : ByteArray) (modified : Timestamp)
  | folder

/-- Files and folders by location. -/
structure Disk where
  items : List (Location × DiskItem) := []
  /-- The folder from which paths are followed. -/
  here : Location := []
  /-- The time at which files are written. -/
  now : Timestamp := .epoch

namespace Disk

/-- What is at a location. The root is always there. -/
def item? (disk : Disk) (location : Location) : Option DiskItem :=
  if location = [] then some .folder else disk.items.lookup location

/-- The disk with something else at a location. -/
def set (disk : Disk) (location : Location) (item : DiskItem) : Disk :=
  { disk with
    items := (location, item) :: disk.items.filter fun entry => entry.1 != location }

/-- The location that a segment of a path leads to. -/
def step (location : Location) (segment : List UInt8) : Location :=
  if Path.isVoid segment then location
  else if segment = [dot, dot] then location.dropLast
  else location ++ [⟨segment⟩]

/-- The largest number of bytes in a name. -/
def nameLimit : Nat :=
  255

/-- The largest number of bytes in a path. -/
def pathLimit : Nat :=
  4095

/-- Whether a segment of a path is too long for a name. -/
def isTooLong (segment : List UInt8) : Bool :=
  nameLimit < segment.length

/-- What is wrong with a path whatever is on the disk. -/
def pathFault? (path : Path) : Option SystemFault :=
  if path.bytes.contains 0 then some .zeroInPath
  else if path.bytes = [] then some .noEntry
  else if pathLimit < path.bytes.length then some .nameTooLong
  else none

/-- Follows the segments of a path. Everything that is passed has to be a folder. -/
def follow (disk : Disk) (location : Location) :
    List (List UInt8) → Except SystemFault (Location × DiskItem)
  | [] =>
    match disk.item? location with
    | some item => .ok (location, item)
    | none => .error .noEntry
  | segment :: rest =>
    match disk.item? location with
    | some .folder =>
      if isTooLong segment then .error .nameTooLong
      else disk.follow (step location segment) rest
    | some (.file ..) => .error .notDirectory
    | none => .error .noEntry

/-- The location at which following a path starts. -/
def start (disk : Disk) (path : Path) : Location :=
  if path.isAbsolute then [] else disk.here

/-- What a path names, and where that is. -/
def locate (disk : Disk) (path : Path) : Except SystemFault (Location × DiskItem) :=
  match pathFault? path with
  | some fault => .error fault
  | none => disk.follow (disk.start path) (splitOn slash path.bytes)

/-- Whether a path names a folder. -/
def isFolder (disk : Disk) (path : Path) : Bool :=
  match disk.locate path with
  | .ok (_, .folder) => true
  | _ => false

/-! ### Reading -/

/-- The bytes of a file. -/
def readBytes (disk : Disk) (path : Path) : Except StoreFault ByteArray :=
  match disk.locate path with
  | .ok (_, .file data _) => .ok data
  | .ok (_, .folder) => .error (.system .isDirectory)
  | .error fault => .error (.system fault)

/-- The text of a file. -/
def readText (disk : Disk) (path : Path) : Except StoreFault String :=
  match disk.readBytes path with
  | .ok data => (decodeUtf8 data).mapError fun _ => .notText
  | .error fault => .error fault

/-- Whether a path names something. -/
def contains (disk : Disk) (path : Path) : Bool :=
  (disk.locate path).isOk

/-! ### Writing -/

/-- The folder in which the last of some segments is, and its name. There is no name where the last
one is dots or where there are no segments. -/
def lastOf (disk : Disk) (start : Location) (segments : List (List UInt8)) :
    Except SystemFault (Location × Option RawText) :=
  match segments.getLast? with
  | none => .ok ([], none)
  | some last =>
    match disk.follow start segments.dropLast with
    | .error fault => .error fault
    | .ok (_, .file ..) => .error .notDirectory
    | .ok (location, .folder) =>
      if last == [dot] || last == [dot, dot] then .ok (location, none)
      else if isTooLong last then .error .nameTooLong
      else .ok (location, some ⟨last⟩)

/-- The folder in which the last name of a path is, and that name. There is no name where a path
ends with dots or is a slash. -/
def lastName (disk : Disk) (path : Path) : Except SystemFault (Location × Option RawText) :=
  match pathFault? path with
  | some fault => .error fault
  | none =>
    let segments := splitOn slash path.bytes
    disk.lastOf (disk.start path) (segments.reverse.dropWhile (· == [])).reverse

/-- Creates one folder. -/
def createFolder (disk : Disk) (path : Path) : Except SystemFault Disk :=
  match disk.lastName path with
  | .error fault => .error fault
  | .ok (_, none) => .error .exists
  | .ok (location, some name) =>
    let place := location ++ [name]
    if (disk.item? place).isSome then .error .exists else .ok (disk.set place .folder)

/-- Creates one folder unless it is there. -/
def ensureFolder (disk : Disk) (path : Path) : Except SystemFault Disk :=
  match disk.createFolder path with
  | .ok disk => .ok disk
  | .error fault => if disk.isFolder path then .ok disk else .error fault

/-- Creates a folder, and before it the folders above it that are missing. These are given, the
nearest first. -/
def createChain (disk : Disk) : List Path → Except SystemFault Unit × Disk
  | [] => (.ok (), disk)
  | path :: above =>
    match disk.createFolder path with
    | .error .noEntry =>
      match disk.createChain above with
      | (.error fault, disk) => (.error fault, disk)
      | (.ok (), disk) => orUnchanged disk (disk.ensureFolder path)
    | _ => orUnchanged disk (disk.ensureFolder path)

/-- Creates a folder with all the folders above it. -/
def createFolders (disk : Disk) (path : Path) : Except SystemFault Unit × Disk :=
  if path.bytes = [] then (.ok (), disk) else disk.createChain (path :: path.properAncestors)

/-- Writes a file in a folder that is there. A path that ends with a slash does not name a file. -/
def putFile (disk : Disk) (path : Path) (data : ByteArray) : Except SystemFault Disk :=
  match disk.lastName path with
  | .error fault => .error fault
  | .ok (_, none) => .error .isDirectory
  | .ok (location, some name) =>
    let place := location ++ [name]
    match disk.item? place with
    | some .folder => .error .isDirectory
    | some (.file ..) =>
      if path.endsWithSlash then .error .notDirectory
      else .ok (disk.set place (.file data disk.now))
    | none =>
      if path.endsWithSlash then .error .isDirectory
      else .ok (disk.set place (.file data disk.now))

/-- Creates the folders above a path. -/
def createParents (disk : Disk) (path : Path) : Except SystemFault Unit × Disk :=
  match path.parent? with
  | some parent => disk.createFolders parent
  | none => (.ok (), disk)

/-- Writes a file and creates the folders above it. -/
def writeBytes (disk : Disk) (path : Path) (data : ByteArray) : Except StoreFault Unit × Disk :=
  match disk.createParents path with
  | (.error fault, disk) => (.error (.system fault), disk)
  | (.ok (), disk) => orUnchanged disk ((disk.putFile path data).mapError .system)

/-- Writes a text to a file. -/
def write (disk : Disk) (path : Path) (text : String) : Except StoreFault Unit × Disk :=
  disk.writeBytes path text.toUTF8

/-- Removes a file. -/
def remove (disk : Disk) (path : Path) : Except SystemFault Disk :=
  match disk.locate path with
  | .ok (location, .file ..) =>
    .ok { disk with items := disk.items.filter fun entry => entry.1 != location }
  | .ok (_, .folder) => .error .isDirectory
  | .error fault => .error fault

/-! ### Listing -/

/-- The names from a location to another one below it. -/
def below? (base : Location) (location : Location) : Option Location :=
  if base.isPrefixOf location then some (location.drop base.length) else none

/-- All that is below a location, with the names from there. -/
def itemsBelow (disk : Disk) (base : Location) : List (Location × DiskItem) :=
  disk.items.filterMap fun entry =>
    match below? base entry.1 with
    | some (name :: names) => some (name :: names, entry.2)
    | _ => none

/-- The entry for something in a listing. -/
def entryOf (names : Location) (item : DiskItem) : ListedItem :=
  let path : Path := ⟨⟨joinWith [slash] (names.map RawText.bytes)⟩⟩
  match item with
  | .file data modified => ⟨path, false, data.size, some modified⟩
  | .folder => ⟨path, true, 0, none⟩

/-- What is below a folder. There is nothing below a file. -/
def listing (disk : Disk) (root : Path) (ignore : List String) :
    Except StoreFault (List ListedItem) :=
  match disk.locate root with
  | .error fault => .error (.system fault)
  | .ok (_, .file ..) => .ok []
  | .ok (location, .folder) =>
    let ignored := ignore.map RawText.ofString
    let entries := (disk.itemsBelow location).filter fun entry => !entry.1.any ignored.contains
    let listed := entries.map fun entry => entryOf entry.1 entry.2
    .ok (listed.mergeSort fun a b => (a.path.compare b.path).isLE)

/-- The paths of all that is below the current folder, with a slash after those of folders. -/
def everything (disk : Disk) : List String :=
  let paths := (disk.itemsBelow disk.here).map fun entry =>
    "/".intercalate (entry.1.map RawText.shown) ++
      match entry.2 with
      | .folder => "/"
      | .file .. => ""
  paths.mergeSort fun a b => decide (a ≤ b)

/-- The locations that following a path passes, from the one after its first segment on. -/
def passed (disk : Disk) (path : Path) : List Location :=
  let locations := (splitOn slash path.bytes).foldl
    (fun (passed : List Location × Location) segment =>
      let location := step passed.2 segment
      (location :: passed.1, location))
    ([], disk.start path)
  locations.1.reverse

/-- Whether something is on a disk as it is. -/
def holds (disk : Disk) (location : Location) (item : DiskItem) : Bool :=
  match disk.item? location, item with
  | some .folder, .folder => true
  | some (.file old _), .file new _ => old == new
  | _, _ => false

/-- What is on a disk and was not, or not like that, on an earlier one. Folders stand before what is
in them. -/
def changesSince (disk earlier : Disk) : List (Location × DiskItem) :=
  (disk.items.filter fun entry => !earlier.holds entry.1 entry.2).reverse

/-- The bytes of the nearest file with a name in a folder or above it. The folders are given by
their names in reverse. -/
def nearestFile? (disk : Disk) (name : RawText) : Location → Option ByteArray
  | [] =>
    match disk.item? [name] with
    | some (.file data _) => some data
    | _ => none
  | folder :: above =>
    match disk.item? ((folder :: above).reverse ++ [name]) with
    | some (.file data _) => some data
    | _ => disk.nearestFile? name above

/-- The bytes of the nearest file with a name in the current folder or above it. -/
def nearest? (disk : Disk) (name : RawText) : Option ByteArray :=
  disk.nearestFile? name disk.here.reverse

end Disk

instance : FileStore Disk where
  readBytes := Disk.readBytes
  readText := Disk.readText
  write := Disk.write
  contains := Disk.contains
  listing := Disk.listing

end Driftwatch
