import Driftwatch.Proofs.Paths
import Driftwatch.Proofs.Repair
import Driftwatch.Scan.Snapshot

/-!
# Names as they are shown

A scan records the paths of files as texts. A name that encodes a text is recorded as this text, so
paths that consist of such names are told apart by their records. Other names are recorded as they
are shown, and different ones may be shown alike.

What all names have in common is their language. It depends on the extension, which is a text of
characters of one byte in every case that matters, and these are shown as they are. So files that
are recorded under one path have one language, whatever their names are.

## The shape of the argument

The components of a path with slashes between them are bytes, and the recorded text is what is shown
of these bytes (`Path.slashed_eq`). Bytes are split at slashes and dots where their text is
(`splitOn_repairFrom`). So the recorded text gives the last segment as it is shown, and this gives
the extension as it is shown.

## Main definitions

* `RawText.IsText`, `Path.IsText`: names that encode texts.

## Main results

* `RawText.text?_eq_some_iff`, `RawText.IsText.ofString_shown`: bytes of texts.
* `Path.components_eq_of_slashed`: paths of texts are told apart by their records.
* `Language.ofPath_eq_of_slashed`: files that are recorded under one path have one language.
-/

namespace Driftwatch

/-! ### Bytes of texts -/

namespace RawText

variable {raw : RawText} {text : String}

theorem bytes_ofString (text : String) :
    (ofString text).bytes = text.toList.flatMap String.utf8EncodeChar :=
  toList_toUTF8 text

theorem text?_ofString (text : String) : (ofString text).text? = some text :=
  dif_pos text.isValidUTF8

/-- The bytes of a text are the only ones that encode it. -/
theorem text?_eq_some_iff : raw.text? = some text ↔ raw = ofString text := by
  constructor
  · intro h
    refine RawText.ext ?_
    rw [ofString, toUTF8_of_fromUTF8? h]
    rfl
  · rintro rfl
    exact text?_ofString text

theorem toList_shown (raw : RawText) : raw.shown.toList = repairFrom 0 raw.bytes :=
  toList_repairUtf8 raw.packed

theorem shown_ofString (text : String) : (ofString text).shown = text :=
  repairUtf8_toUTF8 text

/-- The bytes encode a text. -/
def IsText (raw : RawText) : Prop :=
  raw.text?.isSome = true

instance (raw : RawText) : Decidable raw.IsText :=
  inferInstanceAs (Decidable (_ = true))

theorem isText_ofString (text : String) : (ofString text).IsText := by
  rw [IsText, text?_ofString, Option.isSome_some]

/-- What encodes a text is known by what is shown of it. -/
theorem IsText.ofString_shown (h : raw.IsText) : ofString raw.shown = raw := by
  obtain ⟨text, htext⟩ := Option.isSome_iff_exists.1 h
  rw [text?_eq_some_iff.1 htext, shown_ofString]

theorem utf8EncodeChar_ofNat {b : UInt8} (h : b.toNat < 0x80) :
    String.utf8EncodeChar (Char.ofNat b.toNat) = [b] := by
  have hvalue : (Char.ofNat b.toNat).val.toNat = b.toNat :=
    toNat_ofNat_of_isValidChar (.inl (by omega))
  rw [String.utf8EncodeChar, hvalue, if_pos (by omega), UInt8.ofNat_toNat]

/-- What is shown as characters of one byte encodes a text. -/
theorem isText_of_forall_lt (h : ∀ c ∈ raw.shown.toList, c.toNat < 0x80) : raw.IsText := by
  rw [toList_shown] at h
  obtain ⟨hbytes, hlow⟩ := map_ofNat_eq_repairFrom h
  have hraw : raw = ofString raw.shown := by
    refine RawText.ext ?_
    rw [bytes_ofString, toList_shown, ← hbytes, List.flatMap_map]
    have hsingle : raw.bytes.map (fun b => String.utf8EncodeChar (Char.ofNat b.toNat)) =
        raw.bytes.map fun b => [b] :=
      List.map_congr_left fun b hb => utf8EncodeChar_ofNat (hlow b hb)
    rw [List.flatMap_def, hsingle, ← List.flatMap_def, List.flatMap_singleton']
  rw [hraw]
  exact isText_ofString _

end RawText

/-! ### Paths -/

namespace Path

variable {path first second : Path}

/-- Every name in a path encodes a text. -/
def IsText (path : Path) : Prop :=
  ∀ component ∈ path.components, component.text.IsText

instance (path : Path) : Decidable path.IsText :=
  inferInstanceAs (Decidable (∀ component ∈ path.components, component.text.IsText))

/-- The names at the end of a path of texts are texts. -/
theorem IsText.of_append (h : path.IsText) {root : List Component}
    (hsplit : path.components = root ++ first.components) : first.IsText := by
  intro component hcomponent
  exact h component (hsplit ▸ List.mem_append_right root hcomponent)

/-- The recorded text of a path is what is shown of its components with slashes between them. -/
theorem slashed_eq (path : Path) : path.slashed = (⟨path.joined⟩ : RawText).shown := by
  rw [← String.toList_inj, RawText.toList_shown, joined, repairFrom_joinWith (by decide), slashed,
    String.toList_intercalate, joinWith_eq]
  simp only [List.map_map, Function.comp_def, RawText.toList_shown]
  rfl

theorem isText_joined (h : path.IsText) : (⟨path.joined⟩ : RawText).IsText := by
  have hpieces : path.components.map (·.text.bytes) = (path.components.map fun component =>
      component.text.shown.toList).map (·.flatMap String.utf8EncodeChar) := by
    rw [List.map_map]
    refine List.map_congr_left fun component hcomponent => ?_
    rw [Function.comp_apply, ← RawText.bytes_ofString, (h component hcomponent).ofString_shown]
  have hjoined : path.joined = (joinWith ['/'] (path.components.map fun component =>
      component.text.shown.toList)).flatMap String.utf8EncodeChar := by
    rw [joined, hpieces, flatMap_joinWith]
    rfl
  rw [hjoined, ← String.toList_ofList (l := joinWith _ _), ← RawText.bytes_ofString]
  exact RawText.isText_ofString _

/-- **The recorded text of a path of texts has the components of the path.** -/
theorem components_mk_slashed (h : path.IsText) :
    (mk path.slashed).components = path.components := by
  have hraw : (mk path.slashed).toRawText = ⟨path.joined⟩ := by
    rw [slashed_eq]
    exact (isText_joined h).ofString_shown
  rw [show mk path.slashed = ⟨⟨path.joined⟩⟩ from congrArg ofRaw hraw, components_joined]

/-- Paths of texts are told apart by their recorded texts. -/
theorem components_eq_of_slashed (hfirst : first.IsText) (hsecond : second.IsText)
    (h : first.slashed = second.slashed) : first.components = second.components := by
  rw [← components_mk_slashed hfirst, ← components_mk_slashed hsecond, h]

end Path

/-- A file of `src` whose name is a single byte. -/
def byteNamed (byte : UInt8) : Path :=
  (⟨"src"⟩ : Path).join ⟨⟨[byte]⟩⟩

/-- Names that are no texts can have the same recorded text. -/
example : (byteNamed 0xFE).slashed = (byteNamed 0xFF).slashed ∧
    (byteNamed 0xFE).components ≠ (byteNamed 0xFF).components := by
  decide +kernel

/-! ### Last segments -/

namespace Path

variable {path first second : Path}

theorem slash_not_mem_of_name {name : RawText} (h : .name name ∈ path.components) :
    slash ∉ name.bytes := by
  rw [components, List.mem_append, Option.mem_toList] at h
  rcases h with hlead | hsegment
  · have hmem := path.isParts_trim.lead_mem
    rw [hlead] at hmem
    simp at hmem
  · obtain ⟨segment, hmem, hcomponent⟩ := List.mem_filterMap.1 hsegment
    have hbytes : name.bytes = segment := bytes_of_segmentComponent? hcomponent
    rw [hbytes]
    exact slash_not_mem_of_mem_parts hmem

/-- What follows the last slash between the components. -/
def lastSegment (path : Path) : List UInt8 :=
  (splitOn slash path.joined).getLastD []

/-- The last component ends in the last segment. -/
theorem lastSegment_eq {initial : List Component} {last : Component}
    (h : path.components = initial ++ [last]) :
    path.lastSegment = (splitOn slash last.text.bytes).getLastD [] := by
  have hne := splitOn_ne_nil slash last.text.bytes
  rw [lastSegment, joined, h, List.map_append]
  by_cases hinitial : initial = []
  · rw [hinitial]
    rfl
  · rw [List.map_singleton, joinWith_append_singleton _ (by simpa using hinitial),
      List.append_assoc, List.singleton_append, splitOn_append_cons, List.getLastD_eq_getLast?,
      List.getLastD_eq_getLast?, List.getLast?_append, List.getLast?_eq_some_getLast hne]
    rfl

theorem map_repairFrom_splitOn_joined (h : first.slashed = second.slashed) :
    (splitOn slash first.joined).map (repairFrom 0) =
      (splitOn slash second.joined).map (repairFrom 0) := by
  have hshown := congrArg String.toList h
  rw [slashed_eq, slashed_eq, RawText.toList_shown, RawText.toList_shown] at hshown
  rw [← splitOn_repairFrom (by decide), ← splitOn_repairFrom (by decide), hshown]

/-- Paths that are recorded alike end in names that are shown alike. -/
theorem repairFrom_lastSegment (h : first.slashed = second.slashed) :
    repairFrom 0 first.lastSegment = repairFrom 0 second.lastSegment := by
  have hlast := congrArg (·.getLastD []) (map_repairFrom_splitOn_joined h)
  have hmap : ∀ segments : List (List UInt8),
      (segments.map (repairFrom 0)).getLastD [] = repairFrom 0 (segments.getLastD []) := by
    intro segments
    rw [List.getLastD_eq_getLast?, List.getLastD_eq_getLast?, List.getLast?_map]
    cases segments.getLast? <;> rfl
  rwa [hmap, hmap] at hlast

/-- Names that are shown alike have extensions that are shown alike. -/
theorem map_shown_extensionOf? {a b : List UInt8} (h : repairFrom 0 a = repairFrom 0 b) :
    (extensionOf? ⟨a⟩).map RawText.shown = (extensionOf? ⟨b⟩).map RawText.shown := by
  have hpieces : (splitOn dot a).reverse.map (repairFrom 0) =
      (splitOn dot b).reverse.map (repairFrom 0) := by
    rw [List.map_reverse, List.map_reverse, ← splitOn_repairFrom (by decide),
      ← splitOn_repairFrom (by decide), h]
  unfold extensionOf?
  -- The two lists of pieces are equally long, and the same pieces are empty.
  match (splitOn dot a).reverse, (splitOn dot b).reverse, hpieces with
  | [], [], _ => rfl
  | [_], [_], _ => rfl
  | p :: p' :: ps, q :: q' :: qs, hpieces =>
    obtain ⟨hlast, hrest⟩ := List.cons.inj hpieces
    obtain ⟨hbefore, hmore⟩ := List.cons.inj hrest
    have hempty : p' = [] ∧ ps = [] ↔ q' = [] ∧ qs = [] := by
      rw [← repairFrom_eq_nil_iff, hbefore, repairFrom_eq_nil_iff,
        ← List.map_eq_nil_iff (f := repairFrom 0), hmore, List.map_eq_nil_iff]
    have hshown : (⟨p⟩ : RawText).shown = (⟨q⟩ : RawText).shown := by
      rw [← String.toList_inj, RawText.toList_shown, RawText.toList_shown, hlast]
    simp only [hempty]
    split
    · rfl
    · exact congrArg some hshown
  | [_], _ :: _ :: _, hpieces => cases (List.cons.inj hpieces).2
  | _ :: _ :: _, [_], hpieces => cases (List.cons.inj hpieces).2

end Path

/-! ### Languages -/

namespace Language

/-- The letters of an extension that counts are characters of one byte. -/
theorem toNat_lt_of_toLower {c : Char} (h : c.toLower.toNat < 0x80) : c.toNat < 0x80 := by
  unfold Char.toLower at h
  split at h
  · next hupper =>
    have hle : c.toNat ≤ 'Z'.toNat := hupper.2
    exact Nat.lt_of_le_of_lt hle (by decide)
  · exact h

/-- What is shown of an extension that is no text is no extension that counts. -/
theorem map_toLower_shown_not_mem {raw : RawText} (h : ¬raw.IsText) :
    raw.shown.map Char.toLower ∉ "py" :: braceExtensions := by
  intro hmem
  have hlow : ∀ text ∈ "py" :: braceExtensions,
      text.toList.all fun c => decide (c.toNat < 0x80) := by decide
  refine h (RawText.isText_of_forall_lt fun c hc => toNat_lt_of_toLower ?_)
  refine of_decide_eq_true (List.all_eq_true.1 (hlow _ hmem) _ ?_)
  rw [String.toList_map]
  exact List.mem_map_of_mem hc

/-- The language of an extension is that of what is shown of it. -/
theorem ofExtension_shown (raw : RawText) :
    ofExtension (some raw) = ofExtension (some (.ofString raw.shown)) := by
  by_cases htext : raw.IsText
  · rw [htext.ofString_shown]
  · have hnone : raw.text? = none := Option.not_isSome_iff_eq_none.1 htext
    obtain ⟨hpython, hbrace⟩ := not_or.1 (mt List.mem_cons.2 (map_toLower_shown_not_mem htext))
    have hright : ofExtension (some (.ofString raw.shown)) = other := by
      simp only [ofExtension, Option.bind_some, RawText.text?_ofString, Option.getD_some]
      rw [if_neg (by simpa using hbrace), if_neg (by simpa using hpython)]
    rw [hright, ofExtension, Option.bind_some, hnone]
    decide +kernel

theorem ofExtension_congr {first second : Option RawText}
    (h : first.map RawText.shown = second.map RawText.shown) :
    ofExtension first = ofExtension second := by
  cases first with
  | none =>
    cases second with
    | none => rfl
    | some raw => cases h
  | some raw =>
    cases second with
    | none => cases h
    | some other =>
      rw [ofExtension_shown raw, ofExtension_shown other, Option.some.inj h]

/-- The language of a file depends on what follows the last slash of its path. -/
theorem ofPath_eq (path : Path) :
    ofPath path = ofExtension (Path.extensionOf? ⟨path.lastSegment⟩) := by
  rcases List.eq_nil_or_concat path.components with hnil | ⟨initial, last, hlast⟩
  · rw [ofPath, Path.extension?, Path.fileName?, Path.lastSegment, Path.joined, hnil]
    rfl
  · rw [List.concat_eq_append] at hlast
    rw [ofPath, Path.extension?, Path.fileName?, Path.lastSegment_eq hlast, hlast,
      List.getLast?_concat]
    cases last with
    | root => decide +kernel
    | here => decide +kernel
    | up => decide +kernel
    | name name =>
      have hslash := Path.slash_not_mem_of_name
        (hlast ▸ List.mem_append_right initial (List.mem_singleton_self _))
      have hsingle : splitOn slash name.bytes = [name.bytes] :=
        splitOn_joinWith (List.forall_mem_singleton.2 hslash) (List.cons_ne_nil _ _)
      show _ = ofExtension (Path.extensionOf? ⟨(splitOn slash name.bytes).getLastD []⟩)
      rw [hsingle]
      rfl

/-- **Files that are recorded under one path have one language.** -/
theorem ofPath_eq_of_slashed {first second : Path} (h : first.slashed = second.slashed) :
    ofPath first = ofPath second := by
  rw [ofPath_eq, ofPath_eq]
  exact ofExtension_congr (Path.map_shown_extensionOf? (Path.repairFrom_lastSegment h))

end Language

end Driftwatch
