import Driftwatch.Text.Number
import Driftwatch.Text.Raw
import Driftwatch.Text.Split

/-!
# Paths

A path is kept as it was given, as bytes, and it is understood through its components. Repeated
slashes and inner dots have no component, so different paths can name the same place. Paths are
compared and ordered component by component, and a part of a path keeps the bytes that it had.

A path becomes a text only to be shown or recorded. Names that encode no text are shown with their
faults replaced, so different paths can have the same text.

## Main definitions

* `Path`, `Component`, `Path.components`.
* `Path.compare`: the order, which `Path.same` and sorted stores use.
* `Path.stripPrefix?`, `Path.parent?`, `Path.properAncestors`: parts of a path.
* `Path.join`, `Path.fileName?`, `Path.extension?`.
* `Path.text`, `Path.slashed`: the text of a path as it was given, and of its components.

## Main results

* `Path.compare_eq_iff`, `Path.compare_lt_trans`, `Path.compare_gt_iff`: the order.
-/

namespace Driftwatch

/-- A path, as it was given. -/
structure Path extends RawText where ofRaw ::
  deriving Repr, DecidableEq

/-- The byte between the names of a path. -/
@[match_pattern]
abbrev slash : UInt8 :=
  0x2F

/-- The byte before an extension. -/
@[match_pattern]
abbrev dot : UInt8 :=
  0x2E

/-- A component of a path. -/
inductive Component where
  /-- A slash at the beginning. -/
  | root
  /-- A dot at the beginning. -/
  | here
  /-- Two dots. -/
  | up
  | name (text : RawText)
  deriving Repr, DecidableEq

namespace Component

/-- The text of a component. -/
def text : Component → RawText
  | root => ⟨[slash]⟩
  | here => ⟨[dot]⟩
  | up => ⟨[dot, dot]⟩
  | name text => text

/-- The order of components: the special ones first, then names. -/
def rank : Component → Nat
  | root => 0
  | here => 1
  | up => 2
  | name _ => 3

/-- Compares two components. -/
def compare (a b : Component) : Ordering :=
  (Ord.compare a.rank b.rank).then (Ord.compare a.text.bytes b.text.bytes)

end Component

namespace Path

/-- The path with a given text. -/
def mk (text : String) : Path :=
  ⟨text⟩

/-- A segment between slashes that has no component. -/
def isVoid (segment : List UInt8) : Bool :=
  segment == [] || segment == [dot]

/-- The component of a segment after the beginning of a path. -/
def segmentComponent? (segment : List UInt8) : Option Component :=
  if isVoid segment then none
  else if segment = [dot, dot] then some .up
  else some (.name ⟨segment⟩)

/-- The component that stands for the beginning of a path, if it has one, and the segments that
follow. -/
def parts (path : Path) : Option Component × List (List UInt8) :=
  match path.bytes with
  | slash :: rest => (some .root, splitOn slash rest)
  | [dot] => (some .here, [])
  | dot :: slash :: rest => (some .here, splitOn slash (slash :: rest))
  | bytes => (none, splitOn slash bytes)

/-- The path with given parts. -/
def ofParts (lead : Option Component) (segments : List (List UInt8)) : Path :=
  ⟨⟨((lead.map fun component => component.text.bytes).getD []) ++ joinWith [slash] segments⟩⟩

/-- The components of a path. -/
def components (path : Path) : List Component :=
  let (lead, segments) := path.parts
  lead.toList ++ segments.filterMap segmentComponent?

/-- Compares two lists of components, the first difference deciding. -/
def compareComponents : List Component → List Component → Ordering
  | [], [] => .eq
  | [], _ :: _ => .lt
  | _ :: _, [] => .gt
  | a :: as, b :: bs => (a.compare b).then (compareComponents as bs)

/-- The order of paths. -/
def compare (a b : Path) : Ordering :=
  compareComponents a.components b.components

/-- Whether two paths have the same components. -/
def same (a b : Path) : Bool :=
  a.components == b.components

/-- Whether the components of `base` are the first ones of `path`. -/
def startsWith (path base : Path) : Bool :=
  base.components.isPrefixOf path.components

/-- The segments without void ones at the end. -/
def trimSegments (segments : List (List UInt8)) : List (List UInt8) :=
  (segments.reverse.dropWhile isVoid).reverse

/-- The segments after the first `count` components. -/
def dropComponents : Nat → List (List UInt8) → List (List UInt8)
  | 0, segments => segments
  | _ + 1, [] => []
  | count + 1, segment :: segments =>
    if isVoid segment then dropComponents (count + 1) segments
    else dropComponents count segments

/-- The rest of a path after `base`, as it was given. -/
def stripPrefix? (path base : Path) : Option Path :=
  if path.startsWith base then
    let (lead, segments) := path.parts
    match base.components.length with
    | 0 => some (ofParts lead (trimSegments segments))
    | count + 1 =>
      let inner := if lead.isSome then count else count + 1
      some (ofParts none (trimSegments ((dropComponents inner segments).dropWhile isVoid)))
  else none

/-- The path without its last component. -/
def parent? (path : Path) : Option Path :=
  let (lead, segments) := path.parts
  match trimSegments segments, lead with
  | [], some .here => some ⟨⟨[]⟩⟩
  | [], _ => none
  | segments, lead => some (ofParts lead (trimSegments segments.dropLast))

/-- The parents of a path that are not empty, the nearest first. The first argument bounds their
number. -/
def properAncestorsFrom : Nat → Path → List Path
  | 0, _ => []
  | count + 1, path =>
    match path.parent? with
    | none => []
    | some parent => if parent.bytes = [] then [] else parent :: properAncestorsFrom count parent

/-- The parents of a path that are not empty, the nearest first. -/
def properAncestors (path : Path) : List Path :=
  properAncestorsFrom path.components.length path

/-- The last component, if it is a name. -/
def fileName? (path : Path) : Option RawText :=
  match path.components.getLast? with
  | some (.name text) => some text
  | _ => none

/-- What follows the last dot of a name. A dot at its very beginning does not count. -/
def extensionOf? (name : RawText) : Option RawText :=
  match (splitOn dot name.bytes).reverse with
  | last :: before :: more => if before = [] ∧ more = [] then none else some ⟨last⟩
  | _ => none

/-- The extension of the last component. -/
def extension? (path : Path) : Option RawText :=
  path.fileName?.bind extensionOf?

/-- Whether a path starts at the root. -/
def isAbsolute (path : Path) : Bool :=
  path.bytes.head? == some slash

/-- Whether a path ends with a slash. -/
def endsWithSlash (path : Path) : Bool :=
  path.bytes.getLast? == some slash

/-- A path below `base`. A path from the root replaces `base`. -/
def join (base path : Path) : Path :=
  if path.isAbsolute then path
  else if base.bytes = [] || base.endsWithSlash then ⟨⟨base.bytes ++ path.bytes⟩⟩
  else ⟨⟨base.bytes ++ slash :: path.bytes⟩⟩

/-- The text of a path as it was given. -/
def text (path : Path) : String :=
  path.shown

/-- The texts of the components with a slash between any two. -/
def slashed (path : Path) : String :=
  "/".intercalate (path.components.map (·.text.shown))

end Path

/-! ### The order -/

instance : Std.TransCmp Component.compare :=
  inferInstanceAs
    (Std.TransCmp (compareLex (compareOn Component.rank) (compareOn (·.text.bytes))))

instance : Std.LawfulEqCmp Component.compare where
  compare_self := Std.ReflCmp.compare_self
  eq_of_compare {a b} h := by
    obtain ⟨hrank, htext⟩ := Ordering.then_eq_eq.1 h
    have hrank : a.rank = b.rank := Std.LawfulEqCmp.eq_of_compare hrank
    have htext : a.text.bytes = b.text.bytes := Std.LawfulEqCmp.eq_of_compare htext
    cases a <;> cases b <;> simp_all [Component.rank, Component.text, RawText.ext_iff]

namespace Path

theorem compareComponents_eq (as bs : List Component) :
    compareComponents as bs = List.compareLex Component.compare as bs := by
  fun_induction compareComponents as bs with
  | case1 => rfl
  | case2 => rfl
  | case3 => rfl
  | case4 a as b bs ih => rw [ih, List.compareLex_cons_cons]

/-- Common components at the beginning do not matter. -/
theorem compareComponents_append_left (root as bs : List Component) :
    compareComponents (root ++ as) (root ++ bs) = compareComponents as bs := by
  induction root with
  | nil => rfl
  | cons component root ih =>
    have hself : component.compare component = .eq := Std.ReflCmp.compare_self
    rw [List.cons_append, List.cons_append, compareComponents, hself, ih]
    rfl

theorem compare_eq_iff {a b : Path} : a.compare b = .eq ↔ a.components = b.components := by
  rw [compare, compareComponents_eq, Std.LawfulEqCmp.compare_eq_iff_eq]

theorem compare_lt_trans {a b c : Path} (hab : a.compare b = .lt) (hbc : b.compare c = .lt) :
    a.compare c = .lt := by
  rw [compare, compareComponents_eq] at *
  exact Std.TransCmp.lt_trans hab hbc

theorem compare_gt_iff {a b : Path} : a.compare b = .gt ↔ b.compare a = .lt := by
  rw [compare, compare, compareComponents_eq, compareComponents_eq]
  exact Std.OrientedCmp.gt_iff_lt

end Path

end Driftwatch
