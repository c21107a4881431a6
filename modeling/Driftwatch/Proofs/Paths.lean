import Driftwatch.Path
import Driftwatch.Proofs.Splitting

/-!
# Components of paths

The bytes of a path matter only through their components, so everything that later proofs need of
joining and stripping is said here about components. Joining puts the components of a path without a
beginning after those of the base, and stripping takes them away again.

## The shape of the argument

The bytes of a path have one of four beginnings (`parts_cases`). After the beginning they are split
at slashes, and splitting commutes with putting bytes together at a slash. Bytes that are made from
a beginning and segments are read back as long as the two could be those of a path (`IsParts`,
`components_ofParts`). Parts of a path are such bytes, and so is a path that is written with slashes
between its components.

## Main definitions

* `Path.IsPlain`: bytes without a beginning.
* `Path.IsParts`: a beginning and segments that make a path.
* `Path.joined`: the components with slashes between them.

## Main results

* `Path.components_join`: joining.
* `Path.stripPrefix?_spec`, `Path.components_join_stripPrefix?`: stripping, and joining again.
* `Path.length_components_le`: a path has no more components than bytes.
* `Path.components_joined`: with slashes between them, the components are those of the path.
-/

namespace Driftwatch

/-- A first piece is empty only at the end or before a slash. -/
theorem eq_nil_or_slash_of_splitOn {bytes : List UInt8} {pieces : List (List UInt8)}
    (h : splitOn slash bytes = [] :: pieces) : bytes = [] ∨ ∃ rest, bytes = slash :: rest := by
  cases bytes with
  | nil => exact .inl rfl
  | cons c rest =>
    obtain ⟨piece, pieces, -, hcons⟩ := splitOn_cons slash c rest
    rw [hcons] at h
    split at h
    · next hc => exact .inr ⟨rest, by rw [hc]⟩
    · cases h

namespace Path

/-! ### Beginnings -/

/-- Bytes without a beginning of their own: there are none, or their first segment has a
component. -/
def IsPlain (bytes : List UInt8) : Prop :=
  bytes = [] ∨ ∃ first following, splitOn slash bytes = first :: following ∧ isVoid first = false

theorem IsPlain.ne_slash {bytes : List UInt8} (h : IsPlain bytes) (rest : List UInt8) :
    bytes ≠ slash :: rest := by
  rintro rfl
  obtain h | ⟨first, following, hsplit, hvoid⟩ := h
  · cases h
  · rw [splitOn_self_cons] at hsplit
    cases hsplit
    cases hvoid

theorem IsPlain.ne_dot {bytes : List UInt8} (h : IsPlain bytes) : bytes ≠ [dot] := by
  rintro rfl
  obtain h | ⟨first, following, hsplit, hvoid⟩ := h
  · cases h
  · cases hsplit
    cases hvoid

theorem IsPlain.ne_dot_slash {bytes : List UInt8} (h : IsPlain bytes) (rest : List UInt8) :
    bytes ≠ dot :: slash :: rest := by
  rintro rfl
  obtain h | ⟨first, following, hsplit, hvoid⟩ := h
  · cases h
  · rw [show dot :: slash :: rest = [dot] ++ slash :: rest from rfl, splitOn_append_cons] at hsplit
    cases hsplit
    cases hvoid

theorem parts_of_isPlain {path : Path} (h : IsPlain path.bytes) :
    path.parts = (none, splitOn slash path.bytes) := by
  unfold parts
  split
  · next rest heq => exact absurd heq (h.ne_slash rest)
  · next heq => exact absurd heq h.ne_dot
  · next rest heq => exact absurd heq (h.ne_dot_slash rest)
  · rfl

/-- The four beginnings of a path. -/
theorem parts_cases (path : Path) :
    (∃ rest, path.bytes = slash :: rest ∧ path.parts = (some .root, splitOn slash rest)) ∨
    (path.bytes = [dot] ∧ path.parts = (some .here, [])) ∨
    (∃ rest, path.bytes = dot :: slash :: rest ∧
      path.parts = (some .here, [] :: splitOn slash rest)) ∨
    (IsPlain path.bytes ∧ path.parts = (none, splitOn slash path.bytes)) := by
  by_cases hplain : IsPlain path.bytes
  · exact .inr (.inr (.inr ⟨hplain, parts_of_isPlain hplain⟩))
  unfold parts
  split
  · next rest heq => exact .inl ⟨rest, heq, rfl⟩
  · next heq => exact .inr (.inl ⟨heq, rfl⟩)
  · next rest heq => exact .inr (.inr (.inl ⟨rest, heq, by rw [splitOn_self_cons]⟩))
  · next hslash hdot hdotSlash =>
    refine absurd ?_ hplain
    cases hbytes : path.bytes with
    | nil => exact .inl rfl
    | cons c rest =>
      rw [hbytes] at hslash hdot hdotSlash
      obtain ⟨piece, pieces, hpieces, hcons⟩ := splitOn_cons slash c rest
      have hc : c ≠ slash := by
        rintro rfl
        exact hslash rest rfl
      refine .inr ⟨c :: piece, pieces, by rw [hcons, if_neg hc], ?_⟩
      -- The first segment is a lone dot only where the path is one or a slash follows.
      simp only [isVoid, Bool.or_eq_false_iff, beq_eq_false_iff_ne]
      refine ⟨by simp, fun heq => ?_⟩
      cases heq
      obtain rfl | ⟨following, rfl⟩ := eq_nil_or_slash_of_splitOn hpieces
      · exact hdot rfl
      · exact hdotSlash following rfl

/-! ### Joining -/

theorem components_eq {path : Path} {lead : Option Component} {segments : List (List UInt8)}
    (h : path.parts = (lead, segments)) :
    path.components = lead.toList ++ segments.filterMap segmentComponent? := by
  rw [components, h]

theorem components_of_isPlain {path : Path} (h : IsPlain path.bytes) :
    path.components = (splitOn slash path.bytes).filterMap segmentComponent? := by
  rw [components_eq (parts_of_isPlain h)]
  rfl

/-- An empty segment has no component. -/
theorem filterMap_nil_cons (segments : List (List UInt8)) :
    ([] :: segments).filterMap segmentComponent? = segments.filterMap segmentComponent? :=
  List.filterMap_cons_none rfl

/-- Behind a slash that is not the first byte, there is no beginning. -/
theorem components_append_slash (path base : Path) {rest : List UInt8}
    (hpath : path.bytes = base.bytes ++ slash :: rest) (hbase : base.bytes ≠ []) :
    path.components = base.components ++ (splitOn slash rest).filterMap segmentComponent? := by
  obtain ⟨inner, hbytes, hparts⟩ | ⟨hbytes, hparts⟩ | ⟨inner, hbytes, hparts⟩ | ⟨hplain, hparts⟩ :=
    base.parts_cases
  · have hall : path.parts = (some .root, splitOn slash (inner ++ slash :: rest)) := by
      rw [parts, hpath, hbytes]
      rfl
    rw [components_eq hall, components_eq hparts, splitOn_append_cons, List.filterMap_append,
      List.append_assoc]
  · have hall : path.parts = (some .here, splitOn slash (slash :: rest)) := by
      rw [parts, hpath, hbytes]
      rfl
    rw [components_eq hall, components_eq hparts, splitOn_self_cons, filterMap_nil_cons]
    rfl
  · have hall : path.parts = (some .here, splitOn slash ((slash :: inner) ++ slash :: rest)) := by
      rw [parts, hpath, hbytes]
      rfl
    rw [components_eq hall, components_eq hparts, splitOn_append_cons, splitOn_self_cons,
      List.filterMap_append, List.append_assoc]
  · obtain hnil | ⟨first, following, hsplit, hvoid⟩ := hplain
    · exact absurd hnil hbase
    have hplain : IsPlain path.bytes := by
      refine .inr ⟨first, following ++ splitOn slash rest, ?_, hvoid⟩
      rw [hpath, splitOn_append_cons, hsplit, List.cons_append]
    rw [components_of_isPlain hplain, components_eq hparts, hpath, splitOn_append_cons,
      List.filterMap_append]
    rfl

theorem components_of_bytes_eq_nil (path : Path) (h : path.bytes = []) : path.components = [] := by
  rw [components_of_isPlain (.inl h), h]
  rfl

theorem isAbsolute_eq_false {path : Path} (h : IsPlain path.bytes) : path.isAbsolute = false := by
  unfold isAbsolute
  cases hbytes : path.bytes with
  | nil => rfl
  | cons first rest =>
    have hfirst : first ≠ slash := by
      rintro rfl
      exact h.ne_slash rest hbytes
    simpa using hfirst

theorem endsWithSlash_iff {path : Path} :
    path.endsWithSlash = true ↔ ∃ left, path.bytes = left ++ [slash] := by
  rw [endsWithSlash, beq_iff_eq, List.getLast?_eq_some_iff]

/-- **A path without a beginning is joined behind the components of the base.** -/
theorem components_join (base : Path) {path : Path} (h : IsPlain path.bytes) :
    (base.join path).components = base.components ++ path.components := by
  rw [components_of_isPlain h, join, isAbsolute_eq_false h]
  simp only [Bool.false_eq_true, if_false, Bool.or_eq_true, decide_eq_true_eq]
  split
  · next hbase =>
    rcases hbase with hempty | hends
    · rw [components_of_bytes_eq_nil base hempty, hempty, List.nil_append, List.nil_append,
        components_of_isPlain h]
    · obtain ⟨left, hleft⟩ := endsWithSlash_iff.1 hends
      have hjoined : base.bytes ++ path.bytes = left ++ slash :: path.bytes := by
        rw [hleft, List.append_assoc]
        rfl
      by_cases hnil : left = []
      · -- The base is the root, which is a beginning.
        subst hnil
        have hroot : base.parts = (some .root, [[]]) := by
          rw [parts, hleft]
          rfl
        have hall : parts ⟨⟨base.bytes ++ path.bytes⟩⟩ =
            (some .root, splitOn slash path.bytes) := by
          rw [parts, hjoined]
          rfl
        rw [components_eq hall, components_eq hroot]
        rfl
      · have hbase := components_append_slash base ⟨⟨left⟩⟩ hleft hnil
        rw [components_append_slash _ ⟨⟨left⟩⟩ hjoined hnil, hbase, List.append_assoc]
        rfl
  · next hbase => exact components_append_slash _ base rfl fun hnil => hbase (.inl hnil)

/-! ### Stripping -/

theorem segmentComponent?_eq_none_iff {segment : List UInt8} :
    segmentComponent? segment = none ↔ isVoid segment = true := by
  unfold segmentComponent?
  split
  · next h => simp [h]
  · next h => split <;> simp [h]

/-- Void segments have no components. -/
theorem filterMap_dropWhile (segments : List (List UInt8)) :
    (segments.dropWhile isVoid).filterMap segmentComponent? =
      segments.filterMap segmentComponent? := by
  induction segments with
  | nil => rfl
  | cons segment segments ih =>
    rw [List.dropWhile_cons]
    split
    · next hvoid => rw [ih, List.filterMap_cons_none (segmentComponent?_eq_none_iff.2 hvoid)]
    · rfl

theorem filterMap_trimSegments (segments : List (List UInt8)) :
    (trimSegments segments).filterMap segmentComponent? =
      segments.filterMap segmentComponent? := by
  rw [trimSegments, List.filterMap_reverse, filterMap_dropWhile, ← List.filterMap_reverse,
    List.reverse_reverse]

theorem isPrefix_trimSegments (segments : List (List UInt8)) :
    trimSegments segments <+: segments := by
  rw [← List.reverse_suffix, trimSegments, List.reverse_reverse]
  exact List.dropWhile_suffix isVoid

theorem filterMap_dropComponents (count : Nat) (segments : List (List UInt8)) :
    (dropComponents count segments).filterMap segmentComponent? =
      (segments.filterMap segmentComponent?).drop count := by
  fun_induction dropComponents count segments with
  | case1 segments => rfl
  | case2 => rfl
  | case3 count segment segments hvoid ih =>
    rw [ih, List.filterMap_cons_none (segmentComponent?_eq_none_iff.2 hvoid)]
  | case4 count segment segments hvoid ih =>
    obtain ⟨component, hcomponent⟩ := Option.ne_none_iff_exists'.1
      (mt segmentComponent?_eq_none_iff.1 hvoid)
    rw [ih, List.filterMap_cons_some hcomponent, List.drop_succ_cons]

theorem mem_of_mem_dropComponents {count : Nat} {segment : List UInt8}
    {segments : List (List UInt8)} (h : segment ∈ dropComponents count segments) :
    segment ∈ segments := by
  fun_induction dropComponents count segments with
  | case1 segments => exact h
  | case2 => cases h
  | case3 count first segments hvoid ih => exact List.mem_cons_of_mem _ (ih h)
  | case4 count first segments hvoid ih => exact List.mem_cons_of_mem _ (ih h)

theorem filterMap_splitOn_joinWith {segments : List (List UInt8)}
    (h : ∀ segment ∈ segments, slash ∉ segment) :
    (splitOn slash (joinWith [slash] segments)).filterMap segmentComponent? =
      segments.filterMap segmentComponent? := by
  by_cases hne : segments = []
  · subst hne
    rfl
  · rw [splitOn_joinWith h hne]

theorem bytes_ofParts (lead : Option Component) (segments : List (List UInt8)) :
    (ofParts lead segments).bytes =
      (lead.map fun component => component.text.bytes).getD [] ++ joinWith [slash] segments :=
  rfl

/-- Segments that start with a component make a path without a beginning. -/
theorem isPlain_ofParts {segments : List (List UInt8)} (h : ∀ segment ∈ segments, slash ∉ segment)
    (hfirst : ∀ first, segments.head? = some first → isVoid first = false) :
    IsPlain (ofParts none segments).bytes := by
  rw [bytes_ofParts]
  cases segments with
  | nil => exact .inl rfl
  | cons first following =>
    exact .inr ⟨first, following, splitOn_joinWith h (List.cons_ne_nil _ _), hfirst first rfl⟩

theorem components_ofParts_none {segments : List (List UInt8)}
    (h : ∀ segment ∈ segments, slash ∉ segment)
    (hfirst : ∀ first, segments.head? = some first → isVoid first = false) :
    (ofParts none segments).components = segments.filterMap segmentComponent? := by
  rw [components_of_isPlain (isPlain_ofParts h hfirst), bytes_ofParts]
  exact filterMap_splitOn_joinWith h

/-- Parts from which a path is made that has these parts: the segments follow a beginning, or the
first of them has a component. -/
structure IsParts (lead : Option Component) (segments : List (List UInt8)) : Prop where
  slash_not_mem : ∀ segment ∈ segments, slash ∉ segment
  lead_mem : lead ∈ [none, some .root, some .here]
  first : ∀ first, segments.head? = some first →
    (lead = none → isVoid first = false) ∧ (lead = some .here → first = [])

theorem IsParts.of_initial {lead : Option Component} {initial segments : List (List UInt8)}
    (h : IsParts lead segments) (hinitial : initial <+: segments) : IsParts lead initial := by
  obtain ⟨rest, rfl⟩ := hinitial
  refine ⟨fun segment hmem => h.slash_not_mem segment (List.mem_append_left rest hmem),
    h.lead_mem, fun first hfirst => h.first first ?_⟩
  rw [List.head?_append, hfirst, Option.some_or]

theorem components_ofParts {lead : Option Component} {segments : List (List UInt8)}
    (h : IsParts lead segments) :
    (ofParts lead segments).components = lead.toList ++ segments.filterMap segmentComponent? := by
  have hlead : lead = none ∨ lead = some .root ∨ lead = some .here := by simpa using h.lead_mem
  rcases hlead with rfl | rfl | rfl
  · exact components_ofParts_none h.slash_not_mem fun first hfirst => (h.first first hfirst).1 rfl
  · have hparts : parts (ofParts (some .root) segments) =
        (some .root, splitOn slash (joinWith [slash] segments)) := by
      rw [parts, bytes_ofParts]
      rfl
    rw [components_eq hparts, filterMap_splitOn_joinWith h.slash_not_mem]
  · -- A slash follows the dot, unless the dot is all there is.
    match segments with
    | [] => rfl
    | [first] =>
      obtain rfl := (h.first first rfl).2 rfl
      rfl
    | first :: next :: following =>
      obtain rfl := (h.first first rfl).2 rfl
      have hparts : parts (ofParts (some .here) ([] :: next :: following)) =
          (some .here, splitOn slash (slash :: joinWith [slash] (next :: following))) := by
        rw [parts, bytes_ofParts]
        rfl
      rw [components_eq hparts, splitOn_self_cons, filterMap_nil_cons, filterMap_nil_cons,
        filterMap_splitOn_joinWith fun segment hmem =>
          h.slash_not_mem segment (List.mem_cons_of_mem _ hmem)]

/-- The parts of a path, without the void segments at its end, make a path with these parts. -/
theorem isParts_trim (path : Path) : IsParts path.parts.1 (trimSegments path.parts.2) := by
  obtain ⟨rest, -, hparts⟩ | ⟨-, hparts⟩ | ⟨rest, -, hparts⟩ | ⟨hplain, hparts⟩ := path.parts_cases
  all_goals rw [hparts]
  · refine IsParts.of_initial ?_ (isPrefix_trimSegments _)
    exact ⟨fun segment => not_mem_of_mem_splitOn, by simp, by simp⟩
  · exact ⟨by simp [trimSegments], by simp, by simp [trimSegments]⟩
  · refine IsParts.of_initial ⟨?_, by simp, by simp⟩ (isPrefix_trimSegments _)
    exact List.forall_mem_cons.2 ⟨List.not_mem_nil, fun segment => not_mem_of_mem_splitOn⟩
  · obtain hnil | ⟨first, following, hsplit, hvoid⟩ := hplain
    · rw [hnil]
      exact ⟨by decide, by simp, by decide⟩
    · refine IsParts.of_initial ⟨fun segment => not_mem_of_mem_splitOn, by simp, ?_⟩
        (isPrefix_trimSegments _)
      rw [hsplit]
      simp [hvoid]

theorem components_eq_trim (path : Path) : path.components = path.parts.1.toList ++
    (trimSegments path.parts.2).filterMap segmentComponent? := by
  rw [filterMap_trimSegments]
  exact components_eq rfl

/-- A path without void segments at its end has the components of the path. -/
theorem components_ofParts_trim (path : Path) :
    (ofParts path.parts.1 (trimSegments path.parts.2)).components = path.components := by
  rw [components_ofParts path.isParts_trim, ← components_eq_trim]

/-- Segments without the void ones at both ends make a path without a beginning. -/
theorem ofParts_dropWhile (segments : List (List UInt8))
    (h : ∀ segment ∈ segments, slash ∉ segment) :
    IsPlain (ofParts none (trimSegments (segments.dropWhile isVoid))).bytes ∧
      (ofParts none (trimSegments (segments.dropWhile isVoid))).components =
        segments.filterMap segmentComponent? := by
  have hslash : ∀ segment ∈ trimSegments (segments.dropWhile isVoid), slash ∉ segment :=
    fun segment hmem => h segment
      ((List.dropWhile_sublist _).subset ((isPrefix_trimSegments _).subset hmem))
  have hfirst : ∀ first, (trimSegments (segments.dropWhile isVoid)).head? = some first →
      isVoid first = false := by
    intro first hhead
    have hnot := List.head?_dropWhile_not isVoid segments
    obtain ⟨rest, hrest⟩ := isPrefix_trimSegments (segments.dropWhile isVoid)
    rw [← hrest, List.head?_append, hhead] at hnot
    exact hnot
  refine ⟨isPlain_ofParts hslash hfirst, ?_⟩
  rw [components_ofParts_none hslash hfirst, filterMap_trimSegments, filterMap_dropWhile]

theorem slash_not_mem_of_mem_parts {path : Path} {segment : List UInt8}
    (h : segment ∈ path.parts.2) : slash ∉ segment := by
  obtain ⟨rest, -, hparts⟩ | ⟨-, hparts⟩ | ⟨rest, -, hparts⟩ | ⟨-, hparts⟩ := path.parts_cases
  all_goals rw [hparts] at h
  · exact not_mem_of_mem_splitOn h
  · cases h
  · rcases List.mem_cons.1 h with rfl | h
    · exact List.not_mem_nil
    · exact not_mem_of_mem_splitOn h
  · exact not_mem_of_mem_splitOn h

/-- What is left of a path after a base: the other components, in a path that can be joined to the
base again. -/
theorem stripPrefix?_spec {path base relative : Path} (h : path.stripPrefix? base = some relative) :
    path.components = base.components ++ relative.components ∧
      (base.components = [] ∨ IsPlain relative.bytes) := by
  unfold stripPrefix? at h
  split at h
  · next hprefix =>
    obtain ⟨rest, hrest⟩ := List.isPrefixOf_iff_prefix.1 hprefix
    simp only at h
    split at h
    · next hcount =>
      have hnil : base.components = [] := List.eq_nil_of_length_eq_zero hcount
      obtain rfl := Option.some.inj h
      rw [components_ofParts_trim, hnil]
      exact ⟨rfl, .inl rfl⟩
    · next count hcount =>
      obtain rfl := Option.some.inj h
      obtain ⟨hplain, hcomponents⟩ := ofParts_dropWhile
        (dropComponents (if path.parts.1.isSome then count else count + 1) path.parts.2)
        fun segment hmem => slash_not_mem_of_mem_parts (mem_of_mem_dropComponents hmem)
      have hdrop : path.components.drop (count + 1) = rest := by
        rw [← hrest, List.drop_left' hcount]
      have hpath : path.components = path.parts.1.toList ++
          path.parts.2.filterMap segmentComponent? := components_eq rfl
      refine ⟨?_, .inr hplain⟩
      rw [hcomponents, filterMap_dropComponents, ← hrest, ← hdrop, hpath]
      cases path.parts.1 with
      | none => rfl
      | some lead => rfl
  · cases h

theorem stripPrefix?_eq_none_iff {path base : Path} :
    path.stripPrefix? base = none ↔ path.startsWith base = false := by
  unfold stripPrefix?
  split
  · next h =>
    simp only [h, Bool.true_eq_false, iff_false]
    split <;> simp
  · next h => simpa using h

/-- A path that starts with the components of a base can be stripped of them. -/
theorem exists_stripPrefix? {path base : Path} {rest : List Component}
    (h : path.components = base.components ++ rest) :
    ∃ relative, path.stripPrefix? base = some relative ∧ relative.components = rest := by
  have hstarts : path.startsWith base = true := List.isPrefixOf_iff_prefix.2 ⟨rest, h.symm⟩
  cases hstrip : path.stripPrefix? base with
  | none =>
    rw [stripPrefix?_eq_none_iff.1 hstrip] at hstarts
    cases hstarts
  | some relative =>
    refine ⟨relative, rfl, ?_⟩
    rw [(stripPrefix?_spec hstrip).1] at h
    exact List.append_cancel_left h

/-- Only the empty path has no components. -/
theorem bytes_eq_nil_of_components {path : Path} (h : path.components = []) : path.bytes = [] := by
  obtain ⟨rest, -, hparts⟩ | ⟨-, hparts⟩ | ⟨rest, -, hparts⟩ | ⟨hplain, hparts⟩ := path.parts_cases
  all_goals rw [components_eq hparts] at h
  · cases h
  · cases h
  · cases h
  · obtain hnil | ⟨first, following, hsplit, hvoid⟩ := hplain
    · exact hnil
    · have hnone := List.filterMap_eq_nil_iff.1 (List.append_eq_nil_iff.1 h).2 first
        (hsplit ▸ List.mem_cons_self)
      rw [segmentComponent?_eq_none_iff, hvoid] at hnone
      cases hnone

theorem join_of_bytes_eq_nil {base : Path} (h : base.bytes = []) (path : Path) :
    base.join path = path := by
  rw [join, h]
  simp

/-- Joining the rest of a path to the base leads back to the path. -/
theorem components_join_stripPrefix? {path base relative : Path}
    (h : path.stripPrefix? base = some relative) :
    (base.join relative).components = path.components := by
  obtain ⟨hcomponents, hnil | hplain⟩ := stripPrefix?_spec h
  · rw [join_of_bytes_eq_nil (bytes_eq_nil_of_components hnil), hcomponents, hnil,
      List.nil_append]
  · rw [components_join base hplain, hcomponents]

/-! ### Sizes -/

theorem length_filterMap_splitOn_le (bytes : List UInt8) :
    ((splitOn slash bytes).filterMap segmentComponent?).length ≤ bytes.length := by
  induction bytes with
  | nil => exact Nat.le_refl _
  | cons c rest ih =>
    obtain ⟨piece, pieces, hpieces, hcons⟩ := splitOn_cons slash c rest
    rw [hpieces] at ih
    rw [hcons, List.length_cons]
    split
    · rw [filterMap_nil_cons]
      omega
    · have hpiece : (pieces.filterMap segmentComponent?).length ≤
          ((piece :: pieces).filterMap segmentComponent?).length :=
        ((List.sublist_cons_self piece pieces).filterMap _).length_le
      have hone : (((c :: piece) :: pieces).filterMap segmentComponent?).length ≤
          1 + (pieces.filterMap segmentComponent?).length := by
        cases hcomponent : segmentComponent? (c :: piece) with
        | none =>
          rw [List.filterMap_cons_none hcomponent]
          omega
        | some component =>
          rw [List.filterMap_cons_some hcomponent, List.length_cons]
          omega
      omega

/-- A path has no more components than bytes. -/
theorem length_components_le (path : Path) : path.components.length ≤ path.bytes.length := by
  obtain ⟨rest, hbytes, hparts⟩ | ⟨hbytes, hparts⟩ | ⟨rest, hbytes, hparts⟩ | ⟨-, hparts⟩ :=
    path.parts_cases
  · have hle := length_filterMap_splitOn_le rest
    rw [components_eq hparts, hbytes]
    simp only [Option.toList_some, List.length_append, List.length_cons, List.length_nil]
    omega
  · rw [components_eq hparts, hbytes]
    exact Nat.le_refl _
  · have hle := length_filterMap_splitOn_le rest
    rw [components_eq hparts, hbytes, filterMap_nil_cons]
    simp only [Option.toList_some, List.length_append, List.length_cons, List.length_nil]
    omega
  · rw [components_eq hparts]
    exact length_filterMap_splitOn_le _

theorem length_properAncestors_le (path : Path) :
    path.properAncestors.length ≤ path.components.length := by
  have hbound : ∀ count path, (properAncestorsFrom count path).length ≤ count := by
    intro count
    induction count with
    | zero => exact fun _ => Nat.le_refl _
    | succ count ih =>
      intro path
      rw [properAncestorsFrom]
      split
      · exact Nat.zero_le _
      · split
        · exact Nat.zero_le _
        · exact Nat.succ_le_succ (ih _)
  exact hbound _ _

end Path

/-! ### Slashes between components -/

namespace Path

/-- A component is written as the segment that it was read from. -/
theorem bytes_of_segmentComponent? {segment : List UInt8} {component : Component}
    (h : segmentComponent? segment = some component) : component.text.bytes = segment := by
  unfold segmentComponent? at h
  split at h
  · cases h
  · split at h
    · next hup =>
      cases h
      exact hup.symm
    · cases h
      rfl

theorem map_bytes_filterMap (segments : List (List UInt8)) :
    (segments.filterMap segmentComponent?).map (·.text.bytes) = segments.filter (!isVoid ·) := by
  induction segments with
  | nil => rfl
  | cons segment segments ih =>
    cases hcomponent : segmentComponent? segment with
    | none =>
      rw [List.filterMap_cons_none hcomponent, ih, List.filter_cons_of_neg]
      simp [segmentComponent?_eq_none_iff.1 hcomponent]
    | some component =>
      have hvoid := mt segmentComponent?_eq_none_iff.2 (hcomponent ▸ Option.some_ne_none component)
      rw [List.filterMap_cons_some hcomponent, List.map_cons, ih,
        bytes_of_segmentComponent? hcomponent, List.filter_cons_of_pos (by simpa using hvoid)]

theorem filterMap_filter_isVoid (segments : List (List UInt8)) :
    (segments.filter (!isVoid ·)).filterMap segmentComponent? =
      segments.filterMap segmentComponent? := by
  rw [List.filterMap_filter]
  congr 1
  funext segment
  by_cases hvoid : isVoid segment = true
  · simp [hvoid, segmentComponent?_eq_none_iff.2 hvoid]
  · simp [hvoid]

/-- The components with a slash between any two. -/
def joined (path : Path) : List UInt8 :=
  joinWith [slash] (path.components.map (·.text.bytes))

/-- The segments of the components with a slash between any two. A slash follows the beginning of a
path, so an empty segment comes first there. -/
def joinedSegments (path : Path) : List (List UInt8) :=
  path.parts.1.toList.map (fun _ => []) ++ path.parts.2.filter (!isVoid ·)

theorem isParts_joinedSegments (path : Path) : IsParts path.parts.1 path.joinedSegments := by
  refine ⟨?_, path.isParts_trim.lead_mem, fun first hfirst => ⟨fun hnone => ?_, fun hhere => ?_⟩⟩
  · intro segment hmem
    rcases List.mem_append.1 hmem with hmem | hmem
    · obtain ⟨-, -, rfl⟩ := List.mem_map.1 hmem
      exact List.not_mem_nil
    · exact slash_not_mem_of_mem_parts (List.mem_filter.1 hmem).1
  · rw [joinedSegments, hnone] at hfirst
    have hmem := List.mem_of_head? hfirst
    simpa using (List.mem_filter.1 hmem).2
  · rw [joinedSegments, hhere] at hfirst
    exact (Option.some.inj hfirst).symm

theorem joined_eq (path : Path) :
    path.joined = (ofParts path.parts.1 path.joinedSegments).bytes := by
  rw [bytes_ofParts, joinedSegments, ← map_bytes_filterMap, joined, components]
  simp only [joinWith_eq]
  cases path.parts.1 with
  | none => rfl
  | some lead =>
    cases path.parts.2.filterMap segmentComponent? with
    | nil => simp
    | cons component rest => simp [List.intercalate_cons_cons]

/-- **The components with a slash between any two have the components of the path.** -/
theorem components_joined (path : Path) :
    (⟨⟨path.joined⟩⟩ : Path).components = path.components := by
  have hcomponents : path.components = path.parts.1.toList ++
      path.parts.2.filterMap segmentComponent? := components_eq rfl
  rw [joined_eq]
  show (ofParts path.parts.1 path.joinedSegments).components = path.components
  rw [components_ofParts path.isParts_joinedSegments, joinedSegments, List.filterMap_append,
    filterMap_filter_isVoid, hcomponents]
  cases path.parts.1 with
  | none => rfl
  | some lead => rfl

end Path

end Driftwatch
