import Driftwatch.Proofs.Classification
import Driftwatch.Proofs.Listing
import Driftwatch.Proofs.ShownNames

/-!
# Files with the same fingerprint

A file has drifted when its fingerprint is the same as before and its declarations are not. Reports
have a list for such files. Between two scans that list is empty, of whatever folders and whenever
they are made, as long as no two of the byte sequences that they read have the same fingerprint.

## The shape of the argument

The analysis of a record is a function of its path and of the bytes that were read, if any. All
files that are recorded under one path have one language, whatever folder they were listed from
(`Language.ofPath_eq_of_slashed`). An unreadable file has the empty text in place of a fingerprint,
and no fingerprint is empty (`fingerprint_ne_empty`), so records with the same fingerprint were read
both or neither.

## Main definitions

* `bytesRead`: the byte sequences that a scan reads.

## Main results

* `analysis_eq_of_fileHash`: records with the same path and the same fingerprint have the same
  analysis.
* `no_drift_between_scans`: the list of drifted files is empty.
-/

namespace Driftwatch

/-! ### Fingerprints -/

/-- The hexadecimal form of a digest has eight digits for each of its eight words. -/
theorem length_fingerprint (bytes : ByteArray) : (fingerprint bytes).length = 64 := by
  rw [fingerprint, Sha256.Words.hex, String.length_ofList]
  rfl

/-- The mark of an unreadable file is no fingerprint. -/
theorem fingerprint_ne_empty (bytes : ByteArray) : fingerprint bytes ≠ "" := by
  intro h
  have hlength := length_fingerprint bytes
  rw [h] at hlength
  cases hlength

/-! ### Records -/

/-- The byte sequences of the files that a scan lists. -/
def bytesRead (workspace : Workspace Memory) (config : Config) : Set ByteArray :=
  {bytes | ∃ items, workspace.store.listing config.target config.ignore = .ok items ∧
    ∃ item ∈ items, item.isDir = false ∧
      workspace.store.readBytes (config.target.join item.path) = .ok bytes}

section

variable {first second : ListedItem} {bytes bytes' : Option ByteArray}

/-- Records that were made of the same bytes, or of none, have the same analysis. -/
theorem analysis_ofListed (h : first.path.slashed = second.path.slashed) :
    (ScannedFile.ofListed first bytes).analysis = (ScannedFile.ofListed second bytes).analysis := by
  have hlanguage := Language.ofPath_eq_of_slashed h
  cases bytes with
  | none =>
    show Extraction.ofLineCount first.path.slashed 0 = .ofLineCount second.path.slashed 0
    rw [h]
  | some bytes =>
    show (Language.ofPath first.path).analyse first.path.slashed (repairUtf8 bytes) =
      (Language.ofPath second.path).analyse second.path.slashed (repairUtf8 bytes)
    rw [hlanguage, h]

/-- Records with the same fingerprint were made of the same bytes, or of none. -/
theorem eq_of_fileHash_ofListed {involved : Set ByteArray} (hinjective : involved.InjOn fingerprint)
    (hbytes : ∀ data ∈ bytes, data ∈ involved) (hbytes' : ∀ data ∈ bytes', data ∈ involved)
    (h : (ScannedFile.ofListed first bytes).fileHash =
      (ScannedFile.ofListed second bytes').fileHash) : bytes = bytes' := by
  have hhash : (bytes.map fingerprint).getD "" = (bytes'.map fingerprint).getD "" := h
  cases bytes with
  | none =>
    cases bytes' with
    | none => rfl
    | some data' => exact absurd hhash.symm (fingerprint_ne_empty data')
  | some data =>
    cases bytes' with
    | none => exact absurd hhash (fingerprint_ne_empty data)
    | some data' => rw [hinjective (hbytes data rfl) (hbytes' data' rfl) hhash]

end

section

variable {workspace second : Workspace Memory} {config config' : Config} {snapshot again : Snapshot}

/-- A record of a scan, with the item that was listed and the bytes that were read. -/
theorem exists_ofListed_of_mem_files (h : scanTarget workspace config = .ok snapshot)
    {file : ScannedFile} (hfile : file ∈ snapshot.files) :
    ∃ item bytes, file = .ofListed item bytes ∧
      ∀ data ∈ bytes, data ∈ bytesRead workspace config := by
  obtain ⟨items, hitems, rfl⟩ := scanTarget_eq_ok_iff.1 h
  obtain ⟨item, hitem, rfl⟩ := List.mem_map.1 hfile
  obtain ⟨hmem, hdir⟩ := List.mem_filter.1 hitem
  refine ⟨item, _, rfl, fun data hdata => ⟨items, hitems, item, hmem, by simpa using hdir, ?_⟩⟩
  cases hread : workspace.store.readBytes (config.target.join item.path) with
  | error fault =>
    have hnone : FileStore.readBytes workspace.store (config.target.join item.path) =
      .error fault := hread
    rw [hnone] at hdata
    cases hdata
  | ok found =>
    have hsome : FileStore.readBytes workspace.store (config.target.join item.path) =
      .ok found := hread
    rw [hsome] at hdata
    cases hdata
    rfl

/-- Records of two scans with the same path and the same fingerprint have the same analysis. -/
theorem analysis_eq_of_fileHash (hscan : scanTarget workspace config = .ok snapshot)
    (hagain : scanTarget second config' = .ok again)
    (hinjective : (bytesRead workspace config ∪ bytesRead second config').InjOn fingerprint)
    {old file : ScannedFile} (hold : old ∈ snapshot.files) (hfile : file ∈ again.files)
    (hpath : file.filePath = old.filePath) (hhash : file.fileHash = old.fileHash) :
    file.analysis = old.analysis := by
  obtain ⟨item, bytes, rfl, hbytes⟩ := exists_ofListed_of_mem_files hscan hold
  obtain ⟨item', bytes', rfl, hbytes'⟩ := exists_ofListed_of_mem_files hagain hfile
  obtain rfl := eq_of_fileHash_ofListed hinjective (fun data hdata => .inr (hbytes' data hdata))
    (fun data hdata => .inl (hbytes data hdata)) hhash
  exact analysis_ofListed hpath

/-- **No file drifts between two scans.** Where fingerprints tell apart the byte sequences that two
scans read, no file is reported as drifted: two records with the same path and the same fingerprint
have the same signatures, whether the file could be read or not. -/
theorem no_drift_between_scans (hscan : scanTarget workspace config = .ok snapshot)
    (hagain : scanTarget second config' = .ok again)
    (hinjective : (bytesRead workspace config ∪ bytesRead second config').InjOn fingerprint) :
    (again.changesSince (some snapshot)).driftedFiles = [] ∧
      ∀ old ∈ snapshot.files, ∀ file ∈ again.files, file.filePath = old.filePath →
        file.fileHash = old.fileHash → file.analysis.signatures = old.analysis.signatures := by
  have hsame : ∀ old ∈ snapshot.files, ∀ file ∈ again.files, file.filePath = old.filePath →
      file.fileHash = old.fileHash → file.analysis.signatures = old.analysis.signatures := by
    intro old hold file hfile hpath hhash
    rw [analysis_eq_of_fileHash hscan hagain hinjective hold hfile hpath hhash]
  refine ⟨?_, hsame⟩
  have hlisted : (compareFiles again.files snapshot.files).listed .drifted = [] := by
    refine List.eq_nil_iff_forall_not_mem.2 fun path hmem => ?_
    obtain ⟨file, hfile, old, hold, rfl, hpath, hkind⟩ :=
      exists_records_of_mem_listed (by decide) (by decide) hmem
    obtain ⟨hhash, hother⟩ := ScannedFile.kindSince_eq_drifted_iff.1 hkind
    exact hother (hsame old hold file hfile hpath.symm hhash)
  exact List.map_eq_nil_iff.1 hlisted

end

/-! ### Two scans of different folders -/

/-- A function, and a byte after it that is no text. -/
def brokenSource : ByteArray :=
  "function f() \x7b\x7d\n".toUTF8.push 0xff

/-- A workspace with three files: a source whose bytes are no text, one that cannot be read, and
notes. -/
def threeFiles (folder notes : String) : Workspace Memory where
  store := ({} : Memory)
    |>.put ⟨folder ++ "/a.js"⟩ (.bytes brokenSource)
    |>.put ⟨folder ++ "/b.js"⟩ .locked
    |>.put ⟨folder ++ "/c.md"⟩ (.bytes notes.toUTF8)
  now := .epoch
  label := fun _ => "scan"

/-- What a scan of the three files lists. -/
def threeItems (notes : String) : List ListedItem :=
  [.file ⟨"a.js"⟩ (.bytes brokenSource), .file ⟨"b.js"⟩ .locked,
    .file ⟨"c.md"⟩ (.bytes notes.toUTF8)]

theorem eq_of_mem_bytesRead_threeFiles {folder notes : String} {config : Config} {bytes : ByteArray}
    (h : bytes ∈ bytesRead (threeFiles folder notes) config) :
    bytes = brokenSource ∨ bytes = notes.toUTF8 := by
  let IsKnown (content : Content) : Prop :=
    ∀ bytes, content = .bytes bytes → bytes = brokenSource ∨ bytes = notes.toUTF8
  have hsource : IsKnown (.bytes brokenSource) :=
    fun bytes heq => .inl (Content.bytes.inj heq).symm
  have hlocked : IsKnown .locked := fun bytes heq => nomatch heq
  have hnotes : IsKnown (.bytes notes.toUTF8) := fun bytes heq => .inr (Content.bytes.inj heq).symm
  have hnone : ∀ entry ∈ (.empty : PathMap Content).entries, IsKnown entry.2 :=
    List.forall_mem_nil _
  have hall : ∀ entry ∈ (threeFiles folder notes).store.files.entries, IsKnown entry.2 :=
    PathMap.forall_insert
      (PathMap.forall_insert (PathMap.forall_insert hnone hsource) hlocked) hnotes
  obtain ⟨items, -, item, -, -, hread⟩ := h
  obtain ⟨path, hmem, -⟩ := PathMap.exists_mem_of_find? (Memory.find?_of_readBytes hread)
  exact hall _ hmem bytes rfl

theorem no_drift_between_scans_twoFolders :
    ∃ snapshot again, scanTarget (threeFiles "src" "old") (.ofTarget ⟨"src"⟩) = .ok snapshot ∧
      scanTarget (threeFiles "lib" "new") (.ofTarget ⟨"lib"⟩) = .ok again ∧
      snapshot.files.map (·.filePath) = ["a.js", "b.js", "c.md"] ∧
      (bytesRead (threeFiles "src" "old") (.ofTarget ⟨"src"⟩) ∪
        bytesRead (threeFiles "lib" "new") (.ofTarget ⟨"lib"⟩)).InjOn fingerprint ∧
      (again.changesSince (some snapshot)).driftedFiles = [] := by
  have hscan : scanTarget (threeFiles "src" "old") (.ofTarget ⟨"src"⟩) =
      .ok (takeSnapshot (threeFiles "src" "old") ⟨"src"⟩ (threeItems "old")) := by
    with_unfolding_all rfl
  have hagain : scanTarget (threeFiles "lib" "new") (.ofTarget ⟨"lib"⟩) =
      .ok (takeSnapshot (threeFiles "lib" "new") ⟨"lib"⟩ (threeItems "new")) := by
    with_unfolding_all rfl
  have hnodup : ([brokenSource, "old".toUTF8, "new".toUTF8].map fingerprint).Nodup := by
    decide +kernel
  have hinjective : (bytesRead (threeFiles "src" "old") (.ofTarget ⟨"src"⟩) ∪
      bytesRead (threeFiles "lib" "new") (.ofTarget ⟨"lib"⟩)).InjOn fingerprint := by
    have hmem : ∀ bytes ∈ bytesRead (threeFiles "src" "old") (.ofTarget ⟨"src"⟩) ∪
        bytesRead (threeFiles "lib" "new") (.ofTarget ⟨"lib"⟩),
        bytes ∈ [brokenSource, "old".toUTF8, "new".toUTF8] := by
      rintro bytes (hbytes | hbytes)
      · rcases eq_of_mem_bytesRead_threeFiles hbytes with rfl | rfl
        · exact List.mem_cons_self
        · exact List.mem_cons_of_mem _ List.mem_cons_self
      · rcases eq_of_mem_bytesRead_threeFiles hbytes with rfl | rfl
        · exact List.mem_cons_self
        · exact List.mem_cons_of_mem _ (List.mem_cons_of_mem _ List.mem_cons_self)
    intro bytes hbytes bytes' hbytes' heq
    exact List.inj_on_of_nodup_map hnodup (hmem bytes hbytes) (hmem bytes' hbytes') heq
  exact ⟨_, _, hscan, hagain, by with_unfolding_all rfl, hinjective,
    (no_drift_between_scans hscan hagain hinjective).1⟩

end Driftwatch
