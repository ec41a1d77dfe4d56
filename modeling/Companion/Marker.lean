import Companion.Listener.Basic

/-!
# Markers

The annotations that ask for a binding.  Those of fields are processed in a fixed order, before
those of listeners.
-/

namespace Companion

/-- An annotation that binds a field. -/
inductive FieldMarker where
  | bindAnim
  | bindArray
  | bindAttr
  | bindBitmap
  | bindBool
  | bindColor
  | bindDimen
  | bindDrawable
  | bindFloat
  | bindFont
  | bindInt
  | bindString
  | bindView
  | bindViews
  deriving DecidableEq, Repr

namespace FieldMarker

/-- The annotations of fields, in processing order. -/
def all : List FieldMarker :=
  [.bindAnim, .bindArray, .bindAttr, .bindBitmap, .bindBool, .bindColor, .bindDimen,
    .bindDrawable, .bindFloat, .bindFont, .bindInt, .bindString, .bindView, .bindViews]

/-- The simple name of the annotation. -/
def name : FieldMarker → String
  | .bindAnim => "BindAnim"
  | .bindArray => "BindArray"
  | .bindAttr => "BindAttr"
  | .bindBitmap => "BindBitmap"
  | .bindBool => "BindBool"
  | .bindColor => "BindColor"
  | .bindDimen => "BindDimen"
  | .bindDrawable => "BindDrawable"
  | .bindFloat => "BindFloat"
  | .bindFont => "BindFont"
  | .bindInt => "BindInt"
  | .bindString => "BindString"
  | .bindView => "BindView"
  | .bindViews => "BindViews"

/-- Whether the field is bound to views. -/
def bindsViews : FieldMarker → Bool
  | .bindView | .bindViews => true
  | _ => false

end FieldMarker

namespace Marker

/-- The simple names of all annotations that ask for a binding, those of fields first. -/
def names (kinds : List ListenerKind) : List String :=
  FieldMarker.all.map FieldMarker.name ++ kinds.map ListenerKind.marker

/-- Whether the companion of a class that uses the annotation takes a view. -/
def needsView (kinds : List ListenerKind) (marker : String) : Bool :=
  (FieldMarker.all.any fun field => field.bindsViews && field.name = marker) ||
    kinds.any fun kind => kind.marker = marker

/-- Whether the annotation binds a resource, which takes no view. -/
def isResource (marker : String) : Bool :=
  FieldMarker.all.any fun field => !field.bindsViews && field.name = marker

end Marker
end Companion
