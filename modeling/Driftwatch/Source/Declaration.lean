import Driftwatch.Source.Form
import Driftwatch.Source.Kind
import Driftwatch.Source.Parameter

/-!
# Declarations on a line

Three tables of forms say which lines declare something: one for functions, one for classes,
interfaces and types, and one for methods in a class body. Within a table the first form that fits
decides. The order matters: the form for arrows with a bare parameter stands before the one for
asynchronous arrows and takes most of its lines.

## Main definitions

* `functionForms`, `classForms`, `methodForms`: the tables.
* `functionOn?`, `classOn?`, `methodOn?`: what a line declares.
-/

namespace Driftwatch

/-- A function or method that a line declares. -/
structure FunctionDeclaration where
  kind : FunctionKind
  name : String
  args : List String
  deriving Repr, DecidableEq

/-- A class, interface or type that a line declares. -/
structure ClassDeclaration where
  kind : ClassKind
  name : String
  deriving Repr, DecidableEq

namespace Piece

/-- A word or symbol, given as a string. -/
def word (text : String) : Piece :=
  .literal text.toList

end Piece

open Piece

/-- A binding of a name: the introducing word, the name and the equals sign. -/
def bindingPieces : List Piece :=
  [blanks, binder, gap, name, blanks, word "=", blanks]

/-- A name with parameters and an opening brace. -/
def bodyPieces : List Piece :=
  [name, blanks, parameters, blanks, word "\x7b"]

/-- A name with parameters after the given words. -/
def functionPieces (words : List Piece) : List Piece :=
  blanks :: words ++ [name, blanks, parameters]

/-- Forms of functions. -/
def functionForms : List (Form FunctionKind) :=
  [⟨.function, functionPieces [word "function", gap]⟩,
   ⟨.functionExpression, bindingPieces ++ [word "function", blanks, parameters]⟩,
   ⟨.arrowFunction, bindingPieces ++ [parameters, blanks, word "=>"]⟩,
   ⟨.arrowFunction, bindingPieces ++ [bareParameters]⟩,
   ⟨.method, [blanks, name, blanks, word ":", blanks, word "function", blanks, parameters]⟩,
   ⟨.method, blanks :: bodyPieces⟩,
   ⟨.asyncFunction, functionPieces [word "async", gap, word "function", gap]⟩,
   ⟨.asyncArrow, bindingPieces ++ [word "async", blanks, parameters, blanks, word "=>"]⟩,
   ⟨.exportFunction, functionPieces [word "export", gap, word "function", gap]⟩,
   ⟨.exportArrow, [blanks, word "export", gap, word "const", gap, name, blanks, word "=", blanks,
     parameters, blanks, word "=>"]⟩]

/-- The header of a class after the given words. -/
def classPieces (words : List Piece) : List Piece :=
  blanks :: words ++ [word "class", gap, name, heritage, blanks, word "\x7b"]

/-- A name after the given words. -/
def namePieces (words : List Piece) : List Piece :=
  blanks :: words ++ [gap, name]

/-- Forms of classes, interfaces and types. -/
def classForms : List (Form ClassKind) :=
  [⟨.plainClass, classPieces []⟩,
   ⟨.exportClass, classPieces [word "export", gap]⟩,
   ⟨.interface, namePieces [word "interface"]⟩,
   ⟨.exportInterface, namePieces [word "export", gap, word "interface"]⟩,
   ⟨.type, namePieces [word "type"]⟩,
   ⟨.exportType, namePieces [word "export", gap, word "type"]⟩]

/-- A method after a modifier. -/
def modifiedMethod (modifier : String) : Form FunctionKind :=
  ⟨.method, [blanks, word modifier, gap] ++ bodyPieces⟩

/-- Forms of methods in a class body. -/
def methodForms : List (Form FunctionKind) :=
  ⟨.method, blanks :: bodyPieces⟩ ::
    ["async", "static", "private", "public", "protected"].map modifiedMethod

/-- The first form of a table that fits a line, with what it captures. -/
def firstReading {κ : Type} (forms : List (Form κ)) (line : List Char) : Option (κ × Captures) :=
  forms.findSome? fun form => (form.read line).map (form.kind, ·)

/-- The declaration of a function from its kind and what its form captured. -/
def FunctionDeclaration.ofCaptures (found : FunctionKind × Captures) : FunctionDeclaration where
  kind := found.1
  name := String.ofList found.2.name
  args := (parameterNames found.2.parameters).map String.ofList

/-- The function that a line declares. -/
def functionOn? (line : List Char) : Option FunctionDeclaration :=
  (firstReading functionForms line).map FunctionDeclaration.ofCaptures

/-- The method that a line in a class body declares. -/
def methodOn? (line : List Char) : Option FunctionDeclaration :=
  (firstReading methodForms line).map FunctionDeclaration.ofCaptures

/-- The class, interface or type that a line declares. -/
def classOn? (line : List Char) : Option ClassDeclaration :=
  (firstReading classForms line).map fun found => ⟨found.1, String.ofList found.2.name⟩

end Driftwatch
