/-!
# Errors of bindings

What can be wrong with a binding that is asked for.
-/

namespace Companion

/-- Why a binding cannot be made. -/
inductive BindingError where
  | invalidClassName (name : String)
  | fieldAlreadyBound (id : Int32) (existing requested : String)
  | unknownTypefaceStyle (style : String)
  deriving DecidableEq, Repr

/-- The error in words. -/
def BindingError.message : BindingError → String
  | .invalidClassName name => "Invalid class name '" ++ name ++ "'"
  | .fieldAlreadyBound id existing requested =>
    "Field binding '" ++ existing ++ "' already occupies ID " ++ toString id.toInt ++
      "; cannot also bind '" ++ requested ++ "'"
  | .unknownTypefaceStyle style => "Unknown typeface style '" ++ style ++ "'"

end Companion
