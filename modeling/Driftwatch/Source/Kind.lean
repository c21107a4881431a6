/-!
# Kinds of declarations

Every declaration that is found in source text is of one of fourteen kinds: eight for functions and
methods, six for classes, interfaces and type aliases. A kind has a tag, which signatures, reports
and stored scans use. No two kinds share one.

## Main definitions

* `FunctionKind`, `ClassKind`, each with `tag` and its inverse `ofTag?`.
* `ClassKind.hasMethods`: whether a body is searched for methods.
-/

namespace Driftwatch

/-- How a function was written. -/
inductive FunctionKind where
  /-- `function name(…)` -/
  | function
  /-- `const name = function(…)` -/
  | functionExpression
  /-- `const name = (…) =>`, and the form with a bare parameter. -/
  | arrowFunction
  /-- A method of a class or of an object. -/
  | method
  /-- `async function name(…)` -/
  | asyncFunction
  /-- `const name = async (…) =>` -/
  | asyncArrow
  /-- `export function name(…)` -/
  | exportFunction
  /-- `export const name = (…) =>` -/
  | exportArrow
  deriving Repr, DecidableEq

namespace FunctionKind

/-- The tag of a kind. -/
def tag : FunctionKind → String
  | function => "function"
  | functionExpression => "function_expression"
  | arrowFunction => "arrow_function"
  | method => "method"
  | asyncFunction => "async_function"
  | asyncArrow => "async_arrow"
  | exportFunction => "export_function"
  | exportArrow => "export_arrow"

/-- All kinds. -/
def all : List FunctionKind :=
  [function, functionExpression, arrowFunction, method, asyncFunction, asyncArrow, exportFunction,
    exportArrow]

/-- The kind with a given tag. -/
def ofTag? (tag : String) : Option FunctionKind :=
  all.find? (·.tag == tag)

@[simp] theorem ofTag?_tag (kind : FunctionKind) : ofTag? kind.tag = some kind := by
  cases kind <;> decide

theorem tag_injective {a b : FunctionKind} (h : a.tag = b.tag) : a = b := by
  rw [← Option.some_inj, ← ofTag?_tag a, h, ofTag?_tag]

end FunctionKind

/-- How a class, an interface or a type was written. -/
inductive ClassKind where
  /-- `class Name {` -/
  | plainClass
  /-- `export class Name {` -/
  | exportClass
  /-- `interface Name` -/
  | interface
  /-- `export interface Name` -/
  | exportInterface
  /-- `type Name` -/
  | type
  /-- `export type Name` -/
  | exportType
  deriving Repr, DecidableEq

namespace ClassKind

/-- The tag of a kind. -/
def tag : ClassKind → String
  | plainClass => "class"
  | exportClass => "export_class"
  | interface => "interface"
  | exportInterface => "export_interface"
  | type => "type"
  | exportType => "export_type"

/-- All kinds. -/
def all : List ClassKind :=
  [plainClass, exportClass, interface, exportInterface, type, exportType]

/-- The kind with a given tag. -/
def ofTag? (tag : String) : Option ClassKind :=
  all.find? (·.tag == tag)

@[simp] theorem ofTag?_tag (kind : ClassKind) : ofTag? kind.tag = some kind := by
  cases kind <;> decide

theorem tag_injective {a b : ClassKind} (h : a.tag = b.tag) : a = b := by
  rw [← Option.some_inj, ← ofTag?_tag a, h, ofTag?_tag]

/-- Classes have a body in braces that is searched for methods. Interfaces and types do not. -/
def hasMethods : ClassKind → Bool
  | plainClass | exportClass => true
  | _ => false

end ClassKind

end Driftwatch
