import Companion.ResourceId

/-!
# Resources

What a field that is bound to a resource is loaded as.
-/

namespace Companion

/-- The style of a typeface. -/
inductive TypefaceStyle where
  | normal
  | bold
  | italic
  | boldItalic
  deriving DecidableEq, Repr

namespace TypefaceStyle

/-- The constant of a style. -/
def constant : TypefaceStyle → String
  | .normal => "NORMAL"
  | .bold => "BOLD"
  | .italic => "ITALIC"
  | .boldItalic => "BOLD_ITALIC"

/-- The style of a constant. -/
def ofConstant : String → Except BindingError TypefaceStyle
  | "NORMAL" => .ok .normal
  | "BOLD" => .ok .bold
  | "ITALIC" => .ok .italic
  | "BOLD_ITALIC" => .ok .boldItalic
  | other => .error (.unknownTypefaceStyle other)

/-- The style of a number. -/
def ofValue? (value : Int32) : Option TypefaceStyle :=
  if value = 0 then some .normal
  else if value = 1 then some .bold
  else if value = 2 then some .italic
  else if value = 3 then some .boldItalic
  else none

@[simp]
theorem ofConstant_constant (style : TypefaceStyle) : ofConstant style.constant = .ok style := by
  cases style <;> rfl

end TypefaceStyle

/-- What a resource is loaded as. -/
inductive ResourceKind where
  | animation
  | bitmap
  | bool
  | color
  | colorStateList
  | dimenAsInt
  | dimenAsFloat
  | drawable (tint : Option ResourceId)
  | float
  | int
  | intArray
  | string
  | stringArray
  | textArray
  | typedArray
  | typeface (style : TypefaceStyle)
  | attrColor
  | attrColorStateList
  deriving DecidableEq, Repr

namespace ResourceKind

/-- The first API level on which a context gives colors. -/
def contextColorLevel : Nat := 23

/-- The first API level on which a context gives drawables. -/
def contextDrawableLevel : Nat := 21

/-- The first API level on which resources give fonts. -/
def resourcesFontLevel : Nat := 26

/-- Whether the resource is read from the resources of the context rather than the context. -/
def needsResources (minSdk : Nat) : ResourceKind → Bool
  | .bitmap | .bool | .dimenAsInt | .dimenAsFloat | .int | .intArray | .string | .stringArray
  | .textArray | .typedArray => true
  | .typeface _ => resourcesFontLevel ≤ minSdk
  | .animation | .color | .colorStateList | .drawable _ | .float | .attrColor
  | .attrColorStateList => false

end ResourceKind

/-- A field that is bound to a resource. -/
structure ResourceBinding where
  /-- The id of the resource. -/
  id : ResourceId
  /-- The name of the field. -/
  name : String
  /-- What the resource is loaded as. -/
  kind : ResourceKind
  deriving DecidableEq, Repr

end Companion
