import Companion.ClassName

/-!
# Classes of the runtime and the platform

The classes that every companion may refer to.
-/

namespace Companion
namespace Known

/-- Helpers that look views up and load resources. -/
def utils : ClassName := .ofOuter "butterknife.internal" "Utils"

/-- What a companion without a parent implements. -/
def unbinder : ClassName := .ofOuter "butterknife" "Unbinder"

/-- Views. -/
def view : ClassName := .ofOuter "android.view" "View"

/-- Contexts. -/
def context : ClassName := .ofOuter "android.content" "Context"

/-- The resources of a context. -/
def resources : ClassName := .ofOuter "android.content.res" "Resources"

/-- The mark of constructors that run on the thread of the user interface. -/
def uiThread : ClassName := .ofOuter "androidx.annotation" "UiThread"

/-- The mark of methods whose overriding methods must call them. -/
def callSuper : ClassName := .ofOuter "androidx.annotation" "CallSuper"

/-- The mark that turns warnings of the platform's checker off. -/
def suppressLint : ClassName := .ofOuter "android.annotation" "SuppressLint"

/-- Loads animations. -/
def animationUtils : ClassName := .ofOuter "android.view.animation" "AnimationUtils"

/-- Loads bitmaps. -/
def bitmapFactory : ClassName := .ofOuter "android.graphics" "BitmapFactory"

/-- Loads colors and drawables on old platforms. -/
def contextCompat : ClassName := .ofOuter "androidx.core.content" "ContextCompat"

/-- Loads fonts on old platforms. -/
def resourcesCompat : ClassName := .ofOuter "androidx.core.content.res" "ResourcesCompat"

/-- Typefaces. -/
def typeface : ClassName := .ofOuter "android.graphics" "Typeface"

/-- The package of the platform's own resource index, which is always written in full. -/
def platformPackage : String := "android"

end Known
end Companion
