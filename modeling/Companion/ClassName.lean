import Companion.BindingError
import Companion.Declaration.Basic

/-!
# Class names

A class is named by its package and by the simple names from its outermost class inward.  A text
does not say where the package ends; it is taken to end before the first segment in upper case.
-/

namespace Companion

open Text

/-- The name of a class. -/
structure ClassName where
  /-- The package, empty for the unnamed one. -/
  package : String
  /-- The simple name of the outermost class. -/
  outer : String
  /-- The simple names of the classes nested in it, down to this one. -/
  inner : List String
  deriving DecidableEq, Repr

namespace ClassName

/-- The simple names from the outermost class inward. -/
def names (name : ClassName) : List String := name.outer :: name.inner

/-- The name of a class that is not nested. -/
def ofOuter (package outer : String) : ClassName := ⟨package, outer, []⟩

/-- The class of given simple names, none of which may be empty. -/
def ofNames (package : String) (names : List String) : Except BindingError ClassName :=
  match names with
  | outer :: inner =>
    if "" ∈ names then .error (.invalidClassName (package ++ "." ++ dotted names))
    else .ok ⟨package, outer, inner⟩
  | [] => .error (.invalidClassName (package ++ "."))

/-- The class that a dotted text names. -/
def ofText (text : String) : Except BindingError ClassName :=
  let names := segments text
  if "" ∈ names then .error (.invalidClassName text)
  else
    let package := packageLength names
    ofNames (dotted (names.take package)) (names.drop package)

/-- The innermost simple name. -/
def simpleName (name : ClassName) : String := name.inner.getLast?.getD name.outer

/-- The outermost class. -/
def topLevel (name : ClassName) : ClassName := { name with inner := [] }

/-- A class nested in this one. -/
def nested (name : ClassName) (simple : String) : ClassName :=
  { name with inner := name.inner ++ [simple] }

/-- A text with the package in front of it. -/
def inPackage (name : ClassName) (text : String) : String :=
  if name.package = "" then text else name.package ++ "." ++ text

/-- The name as it stands in source text: `pkg.Outer.Inner`. -/
def canonical (name : ClassName) : String := name.inPackage (dotted name.names)

/-- The binary name: `pkg.Outer$Inner`. -/
def reflection (name : ClassName) : String := name.inPackage (joined "$" name.names)

end ClassName
end Companion
