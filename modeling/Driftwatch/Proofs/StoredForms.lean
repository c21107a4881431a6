import Driftwatch.Proofs.JsonText
import Driftwatch.Proofs.Moments
import Driftwatch.Scan.History

/-!
# Stored forms read back

A snapshot is read back from its stored form as long as its counts fit a word and its moments can be
stored. The bounds matter: a count that no word holds would make a whole history unreadable, and an
unreadable history counts as an empty one.

## The shape of the argument

`Stores height a` says two things about a value: its stored form gives it back, and that form can be
written where `height` more levels of nesting are allowed. One lemma for each kind of record builds
`Stores` from that of the fields. All records go through `Json.fields?_obj`, which says that an
object with different names has exactly the fields that it was made of.

## Main definitions

* `Stores`: values that are read back from their stored forms.
* `FunctionEntity.IsStorable` up to `Snapshot.IsStorable`: the counts and moments within bounds.

## Main results

* `Snapshot.stores`: snapshots.
* `History.decode?_encode`: whole histories.
-/

namespace Driftwatch

/-! ### Fields of records -/

namespace Json

/-- The only member with a name is the one that is found. -/
theorem uniqueMember?_of_mem {members : List (String × Json)}
    (hnames : (members.map Prod.fst).Nodup) {member : String × Json} (h : member ∈ members) :
    uniqueMember? members member.1 = some (some member.2) := by
  have hfilter : members.filter (·.1 == member.1) = [member] := by
    induction members with
    | nil => cases h
    | cons first members ih =>
      rw [List.map_cons, List.nodup_cons] at hnames
      rcases List.mem_cons.1 h with rfl | hmem
      · have hnone : members.filter (·.1 == member.1) = [] := by
          rw [List.filter_eq_nil_iff]
          intro other hother heq
          exact hnames.1 (eq_of_beq heq ▸ List.mem_map_of_mem hother)
        rw [List.filter_cons_of_pos (by simp), hnone]
      · have hne : (first.1 == member.1) = false := by
          refine beq_eq_false_iff_ne.2 fun heq => hnames.1 ?_
          exact heq ▸ List.mem_map_of_mem hmem
        rw [List.filter_cons_of_neg (by simp [hne]), ih hnames.2 hmem]
  rw [uniqueMember?, hfilter]

/-- An object with different names has the fields that it was made of. -/
theorem fields?_obj {members : List (String × Json)} (h : (members.map Prod.fst).Nodup) :
    (obj members).fields? (members.map Prod.fst) =
      some (members.map fun member => some member.2) := by
  rw [fields?, List.mapM_map]
  exact mapM_eq_some_map fun member hmem => uniqueMember?_of_mem h hmem

mutual

/-- A value that the reader can give back has a meaning in all its parts. -/
theorem Fits.isReadable {level : Nat} {value : Json} (h : value.Fits level) :
    value.isReadable = true := by
  cases h with
  | null | bool | int | str => rfl
  | arr _ hitems => exact itemsReadable_of_fits hitems
  | obj _ hmembers => exact membersReadable_of_fits hmembers

theorem itemsReadable_of_fits {level : Nat} {items : List Json}
    (h : ∀ item ∈ items, item.Fits level) : itemsReadable items = true := by
  match items with
  | [] => rfl
  | item :: items =>
    rw [itemsReadable, (h item List.mem_cons_self).isReadable,
      itemsReadable_of_fits fun other hother => h other (List.mem_cons_of_mem _ hother)]
    rfl

theorem membersReadable_of_fits {level : Nat} {members : List (String × Json)}
    (h : ∀ member ∈ members, member.2.Fits level) : membersReadable members = true := by
  match members with
  | [] => rfl
  | (name, value) :: members =>
    rw [membersReadable, Fits.isReadable (h (name, value) List.mem_cons_self),
      membersReadable_of_fits fun other hother => h other (List.mem_cons_of_mem _ hother)]
    rfl

end

end Json

/-! ### Values that are read back -/

/-- A value is given back by its stored form, which has at most `height` levels of nesting. -/
structure Stores {α : Type} [Stored α] (height : Nat) (a : α) : Prop where
  reads : ofJson? (toJson a) = some a
  fits : ∀ level, level + height ≤ Json.levelLimit → (toJson a).Fits level

namespace Stores

theorem string (text : String) : Stores 0 text :=
  ⟨rfl, fun _ _ => .str text⟩

theorem count {n : Nat} (hn : n < wordLimit) : Stores 0 n := by
  refine ⟨?_, fun _ _ => .int (Int.le_trans (by decide) (Int.natCast_nonneg n)) (by omega)⟩
  show (if 0 ≤ (n : Int) ∧ (n : Int) < wordLimit then some (n : Int).toNat else none) = some n
  rw [if_pos ⟨Int.natCast_nonneg n, by omega⟩, Int.toNat_natCast]

theorem moment {time : Timestamp} (h : time.IsStorable) : Stores 0 time :=
  ⟨Timestamp.parse?_written h, fun _ _ => .str _⟩

theorem optionalMoment {time : Option Timestamp}
    (h : ∀ moment, time = some moment → moment.IsStorable) : Stores 0 time := by
  cases time with
  | none => exact ⟨rfl, fun _ _ => .null⟩
  | some moment =>
    have hmoment := Stores.moment (h moment rfl)
    refine ⟨?_, hmoment.fits⟩
    show (ofJson? (toJson moment)).map some = some (some moment)
    rw [hmoment.reads, Option.map_some]

variable {α : Type} [Stored α] {height : Nat}

theorem mono {a : α} (h : Stores height a) {larger : Nat} (hle : height ≤ larger) :
    Stores larger a :=
  ⟨h.reads, fun level hlevel => h.fits level (by omega)⟩

theorem list {items : List α} (h : ∀ item ∈ items, Stores height item) :
    Stores (height + 1) items := by
  constructor
  · show (items.map toJson).mapM ofJson? = some items
    exact mapM_map_eq_some fun item hitem => (h item hitem).reads
  · intro level hlevel
    refine .arr (by omega) fun value hvalue => ?_
    obtain ⟨item, hitem, rfl⟩ := List.mem_map.1 hvalue
    exact (h item hitem).fits (level + 1) (by omega)

theorem required {a : α} (h : Stores height a) : Json.required? (some (toJson a)) = some a :=
  h.reads

end Stores

/-- An object of values that are read back can be written one level further out. -/
theorem fits_obj {height level : Nat} {members : List (String × Json)}
    (hlevel : level + (height + 1) ≤ Json.levelLimit)
    (h : ∀ member ∈ members, ∀ inner, inner + height ≤ Json.levelLimit → member.2.Fits inner) :
    (Json.obj members).Fits level :=
  .obj (by omega) fun member hmember => h member hmember (level + 1) (by omega)

/-! ### Declarations -/

namespace FunctionEntity

/-- The lines of a function fit words. -/
structure IsStorable (entity : FunctionEntity) : Prop where
  lineStart : entity.lineStart < wordLimit
  lineEnd : entity.lineEnd < wordLimit

variable {entity : FunctionEntity}

theorem stores_kind (kind : FunctionKind) : Stores 0 kind := by
  refine ⟨?_, fun _ _ => .str _⟩
  show FunctionKind.ofTag? kind.tag = some kind
  exact FunctionKind.ofTag?_tag kind

theorem ofJson?_members (h : entity.IsStorable) :
    FunctionEntity.ofJson? (.obj entity.members) = some entity := by
  have hfields :
      (Json.obj entity.members).fields? ["name", "kind", "line_start", "line_end", "args"] =
        some [some (toJson entity.name), some (toJson entity.kind), some (toJson entity.lineStart),
          some (toJson entity.lineEnd), some (toJson entity.args)] :=
    Json.fields?_obj (by simp [members])
  simp only [FunctionEntity.ofJson?, hfields, (Stores.string _).required, (stores_kind _).required,
    (Stores.count h.lineStart).required, (Stores.count h.lineEnd).required,
    (Stores.list fun text _ => Stores.string text).required, Option.bind_eq_bind, Option.bind_some]
  rfl

theorem fits_members (h : entity.IsStorable) :
    ∀ member ∈ entity.members, ∀ inner, inner + 1 ≤ Json.levelLimit → member.2.Fits inner := by
  simp only [members, List.forall_mem_cons]
  refine ⟨((Stores.string _).mono (by omega)).fits, ((stores_kind _).mono (by omega)).fits,
    ((Stores.count h.lineStart).mono (by omega)).fits,
    ((Stores.count h.lineEnd).mono (by omega)).fits,
    (Stores.list fun text _ => Stores.string text).fits, List.forall_mem_nil _⟩

theorem stores (h : entity.IsStorable) : Stores 2 entity :=
  ⟨ofJson?_members h, fun _ hlevel => fits_obj hlevel (fits_members h)⟩

end FunctionEntity

namespace ClassEntity

/-- The lines of a class and of its methods fit words. -/
structure IsStorable (entity : ClassEntity) : Prop where
  lineStart : entity.lineStart < wordLimit
  lineEnd : entity.lineEnd < wordLimit
  methods : ∀ method ∈ entity.methods, method.IsStorable

variable {entity : ClassEntity}

theorem stores_kind (kind : ClassKind) : Stores 0 kind := by
  refine ⟨?_, fun _ _ => .str _⟩
  show ClassKind.ofTag? kind.tag = some kind
  exact ClassKind.ofTag?_tag kind

theorem stores_methods (h : entity.IsStorable) : Stores 3 entity.methods :=
  Stores.list fun method hmethod => FunctionEntity.stores (h.methods method hmethod)

theorem ofJson?_members (h : entity.IsStorable) :
    ClassEntity.ofJson? (.obj entity.members) = some entity := by
  have hfields :
      (Json.obj entity.members).fields? ["name", "kind", "line_start", "line_end", "methods"] =
        some [some (toJson entity.name), some (toJson entity.kind), some (toJson entity.lineStart),
          some (toJson entity.lineEnd), some (toJson entity.methods)] :=
    Json.fields?_obj (by simp [members])
  simp only [ClassEntity.ofJson?, hfields, (Stores.string _).required, (stores_kind _).required,
    (Stores.count h.lineStart).required, (Stores.count h.lineEnd).required,
    (stores_methods h).required, Option.bind_eq_bind, Option.bind_some]
  rfl

theorem fits_members (h : entity.IsStorable) :
    ∀ member ∈ entity.members, ∀ inner, inner + 3 ≤ Json.levelLimit → member.2.Fits inner := by
  simp only [members, List.forall_mem_cons]
  refine ⟨((Stores.string _).mono (by omega)).fits, ((stores_kind _).mono (by omega)).fits,
    ((Stores.count h.lineStart).mono (by omega)).fits,
    ((Stores.count h.lineEnd).mono (by omega)).fits, (stores_methods h).fits, List.forall_mem_nil _⟩

end ClassEntity

namespace Entity

/-- The lines of a declaration and of its methods fit words. -/
def IsStorable : Entity → Prop
  | function entity => entity.IsStorable
  | classLike entity => entity.IsStorable

/-- A tag before other members leads to the reader for that tag, which sees only the others. -/
theorem ofReadable?_tagged {tag : String} {members : List (String × Json)}
    (h : ∀ member ∈ members, member.1 ≠ "entity") :
    ofReadable? (.obj (("entity", .str tag) :: members)) = ofTagged? tag (.obj members) := by
  have hnone : members.filter (·.1 == "entity") = [] := by
    simpa [List.filter_eq_nil_iff] using h
  have hall : members.filter (·.1 != "entity") = members := by
    simpa [List.filter_eq_self] using h
  have htag : Json.uniqueMember? (("entity", .str tag) :: members) "entity" =
      some (some (.str tag)) := by
    rw [Json.uniqueMember?, List.filter_cons_of_pos (by simp), hnone]
  simp only [ofReadable?, htag]
  rw [List.filter_cons_of_neg (by simp), hall]

/-- A tag before members that are read back is read back with them. -/
theorem stores_tagged {entity : Entity} {tag : String} {members : List (String × Json)}
    {height : Nat} (hform : toJson entity = .obj (("entity", .str tag) :: members))
    (hnames : ∀ member ∈ members, member.1 ≠ "entity") (hheight : height + 1 ≤ Json.levelLimit)
    (hfits : ∀ member ∈ members, ∀ inner, inner + height ≤ Json.levelLimit → member.2.Fits inner)
    (hreads : ofTagged? tag (.obj members) = some entity) : Stores (height + 1) entity := by
  have hall : ∀ level, level + (height + 1) ≤ Json.levelLimit → (toJson entity).Fits level := by
    intro level hlevel
    rw [hform]
    refine fits_obj hlevel ?_
    rw [List.forall_mem_cons]
    exact ⟨fun _ _ => .str tag, hfits⟩
  refine ⟨?_, hall⟩
  show Entity.ofJson? (toJson entity) = some entity
  rw [Entity.ofJson?, if_pos (hall 0 (by omega)).isReadable, hform, ofReadable?_tagged hnames,
    hreads]

theorem stores {entity : Entity} (h : entity.IsStorable) : Stores 4 entity := by
  cases entity with
  | function entity =>
    refine (stores_tagged rfl ?_ (by decide) (FunctionEntity.fits_members h) ?_).mono (by omega)
    · simp [FunctionEntity.members]
    · rw [ofTagged?, FunctionEntity.ofJson?_members h]
      rfl
  | classLike entity =>
    refine stores_tagged rfl ?_ (by decide) (ClassEntity.fits_members h) ?_
    · simp [ClassEntity.members]
    · rw [ofTagged?, ClassEntity.ofJson?_members h]
      rfl

end Entity

namespace Extraction

/-- The lines of all declarations and their number fit words. -/
structure IsStorable (extraction : Extraction) : Prop where
  entities : ∀ entity ∈ extraction.entities, entity.IsStorable
  totalLines : extraction.totalLines < wordLimit

variable {extraction : Extraction}

theorem stores (h : extraction.IsStorable) : Stores 6 extraction := by
  have hentities : Stores 5 extraction.entities :=
    Stores.list fun entity hentity => Entity.stores (h.entities entity hentity)
  constructor
  · have hfields : (toJson extraction).fields? ["file_path", "entities", "total_lines"] =
        some [some (toJson extraction.filePath), some (toJson extraction.entities),
          some (toJson extraction.totalLines)] :=
      Json.fields?_obj (by simp)
    show Extraction.ofJson? (toJson extraction) = some extraction
    simp only [Extraction.ofJson?, hfields, (Stores.string _).required, hentities.required,
      (Stores.count h.totalLines).required, Option.bind_eq_bind, Option.bind_some]
    rfl
  · intro level hlevel
    refine fits_obj hlevel ?_
    simp only [List.forall_mem_cons]
    refine ⟨((Stores.string _).mono (by omega)).fits, hentities.fits,
      ((Stores.count h.totalLines).mono (by omega)).fits, List.forall_mem_nil _⟩

end Extraction

/-! ### Scans -/

theorem Language.stores (language : Language) : Stores 0 language := by
  refine ⟨?_, fun _ _ => .str _⟩
  cases language <;> decide

theorem ScannedFolder.stores (folder : ScannedFolder) : Stores 1 folder := by
  constructor
  · have hfields : (toJson folder).fields? ["folder_path", "folder_name"] =
        some [some (toJson folder.folderPath), some (toJson folder.folderName)] :=
      Json.fields?_obj (by simp)
    show ScannedFolder.ofJson? (toJson folder) = some folder
    simp only [ScannedFolder.ofJson?, hfields, (Stores.string _).required, Option.bind_eq_bind,
      Option.bind_some]
    rfl
  · intro level hlevel
    refine fits_obj hlevel ?_
    simp only [List.forall_mem_cons]
    exact ⟨(Stores.string _).fits, (Stores.string _).fits, List.forall_mem_nil _⟩

namespace ScannedFile

/-- The size, the time and the analysis of a file are within their bounds. -/
structure IsStorable (file : ScannedFile) : Prop where
  fileSize : file.fileSize < wordLimit
  modifiedTime : ∀ time, file.modifiedTime = some time → time.IsStorable
  analysis : file.analysis.IsStorable

variable {file : ScannedFile}

theorem stores (h : file.IsStorable) : Stores 7 file := by
  have htime : Stores 0 file.modifiedTime := Stores.optionalMoment h.modifiedTime
  have hanalysis : Stores 6 file.analysis := Extraction.stores h.analysis
  constructor
  · have hfields : (toJson file).fields? fieldNames =
        some [some (toJson file.filePath), some (toJson file.fileName), some (toJson file.fileSize),
          some (toJson file.modifiedTime), some (toJson file.fileHash), some (toJson file.language),
          some (toJson file.analysis)] :=
      Json.fields?_obj (by simp)
    show ScannedFile.ofJson? (toJson file) = some file
    simp only [ScannedFile.ofJson?, hfields, (Stores.string _).required,
      (Stores.count h.fileSize).required, htime.required, (Language.stores _).required,
      hanalysis.required, Option.bind_eq_bind, Option.bind_some]
    rfl
  · intro level hlevel
    refine fits_obj hlevel ?_
    simp only [List.forall_mem_cons]
    exact ⟨((Stores.string _).mono (by omega)).fits, ((Stores.string _).mono (by omega)).fits,
      ((Stores.count h.fileSize).mono (by omega)).fits, (htime.mono (by omega)).fits,
      ((Stores.string _).mono (by omega)).fits, ((Language.stores _).mono (by omega)).fits,
      hanalysis.fits, List.forall_mem_nil _⟩

end ScannedFile

namespace Summary

/-- All totals fit words. -/
structure IsStorable (summary : Summary) : Prop where
  totalFiles : summary.totalFiles < wordLimit
  totalFolders : summary.totalFolders < wordLimit
  totalLines : summary.totalLines < wordLimit
  braceFamilyFiles : summary.braceFamilyFiles < wordLimit
  pythonFiles : summary.pythonFiles < wordLimit
  otherFiles : summary.otherFiles < wordLimit

variable {summary : Summary}

-- The fields are variables here. With counts in their places, checking the proof would compare
-- numbers with the bound of a word one by one.
theorem ofJson?_of_fields {value : Json} {files folders lines braces pythons others : Option Json}
    (hfields : value.fields? fieldNames = some [files, folders, lines, braces, pythons, others])
    (hfiles : Json.required? files = some summary.totalFiles)
    (hfolders : Json.required? folders = some summary.totalFolders)
    (hlines : Json.required? lines = some summary.totalLines)
    (hbraces : Json.required? braces = some summary.braceFamilyFiles)
    (hpythons : Json.required? pythons = some summary.pythonFiles)
    (hothers : Json.required? others = some summary.otherFiles) :
    Summary.ofJson? value = some summary := by
  simp only [Summary.ofJson?, hfields, hfiles, hfolders, hlines, hbraces, hpythons, hothers,
    Option.bind_eq_bind, Option.bind_some]
  rfl

theorem stores (h : summary.IsStorable) : Stores 1 summary := by
  constructor
  · have hfields : (toJson summary).fields? fieldNames =
        some [some (toJson summary.totalFiles), some (toJson summary.totalFolders),
          some (toJson summary.totalLines), some (toJson summary.braceFamilyFiles),
          some (toJson summary.pythonFiles), some (toJson summary.otherFiles)] :=
      Json.fields?_obj (by simp)
    exact ofJson?_of_fields hfields (Stores.count h.totalFiles).required
      (Stores.count h.totalFolders).required (Stores.count h.totalLines).required
      (Stores.count h.braceFamilyFiles).required (Stores.count h.pythonFiles).required
      (Stores.count h.otherFiles).required
  · intro level hlevel
    refine fits_obj hlevel ?_
    simp only [List.forall_mem_cons]
    exact ⟨(Stores.count h.totalFiles).fits, (Stores.count h.totalFolders).fits,
      (Stores.count h.totalLines).fits, (Stores.count h.braceFamilyFiles).fits,
      (Stores.count h.pythonFiles).fits, (Stores.count h.otherFiles).fits, List.forall_mem_nil _⟩

end Summary

namespace Snapshot

/-- The moment, the files and the totals of a snapshot are within their bounds. -/
structure IsStorable (snapshot : Snapshot) : Prop where
  timestamp : snapshot.timestamp.IsStorable
  files : ∀ file ∈ snapshot.files, file.IsStorable
  summary : snapshot.summary.IsStorable

variable {snapshot : Snapshot}

theorem stores (h : snapshot.IsStorable) : Stores 9 snapshot := by
  have hfiles : Stores 8 snapshot.files :=
    Stores.list fun file hfile => ScannedFile.stores (h.files file hfile)
  have hfolders : Stores 2 snapshot.folders := Stores.list fun folder _ => folder.stores
  have hsummary : Stores 1 snapshot.summary := Summary.stores h.summary
  constructor
  · have hfields : (toJson snapshot).fields? fieldNames =
        some [some (toJson snapshot.scanId), some (toJson snapshot.timestamp),
          some (toJson snapshot.targetFolder), some (toJson snapshot.files),
          some (toJson snapshot.folders), some (toJson snapshot.summary)] :=
      Json.fields?_obj (by simp)
    show Snapshot.ofJson? (toJson snapshot) = some snapshot
    simp only [Snapshot.ofJson?, hfields, (Stores.string _).required,
      (Stores.moment h.timestamp).required, hfiles.required, hfolders.required, hsummary.required,
      Option.bind_eq_bind, Option.bind_some]
    rfl
  · intro level hlevel
    refine fits_obj hlevel ?_
    simp only [List.forall_mem_cons]
    exact ⟨((Stores.string _).mono (by omega)).fits,
      ((Stores.moment h.timestamp).mono (by omega)).fits, ((Stores.string _).mono (by omega)).fits,
      hfiles.fits, (hfolders.mono (by omega)).fits, (hsummary.mono (by omega)).fits,
      List.forall_mem_nil _⟩

end Snapshot

/-- **A history is read back from its text.** -/
theorem History.decode?_encode {scans : List Snapshot} (h : ∀ scan ∈ scans, scan.IsStorable) :
    decode? (encode scans) = some scans := by
  have hstores : Stores 10 scans := Stores.list fun scan hscan => Snapshot.stores (h scan hscan)
  have hparse : Json.parse? (encode scans) = some (toJson scans) :=
    Json.parse?_pretty (hstores.fits 0 (by decide))
  rw [decode?, hparse]
  exact hstores.reads

end Driftwatch
