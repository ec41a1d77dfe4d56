import Companion.Declaration.Basic

/-!
# Platform types

The framework types that bindings depend on, with the parts of their hierarchy that matter.  They
stand in for declarations that a round does not describe.
-/

namespace Companion
namespace Platform

/-- A class of the platform with its superclass. -/
def subclass (name superclass : String) : TypeDecl :=
  ((TypeDecl.ofName .classType name).extending (.named superclass)).onClasspath

/-- A class that extends the root of the hierarchy. -/
def plainClass (name : String) : TypeDecl := subclass name "java.lang.Object"

/-- A class whose superclass has one type argument. -/
def genericSubclass (name superclass argument : String) : TypeDecl :=
  ((TypeDecl.ofName .classType name).extending (.declared superclass [.named argument])).onClasspath

/-- An interface of the platform with the interfaces that it extends. -/
def interface (name : String) (parents : List String) : TypeDecl :=
  { (TypeDecl.ofName .interfaceType name).onClasspath with interfaces := parents.map .named }

/-- The types of the platform. -/
def declarations : List TypeDecl :=
  [(TypeDecl.ofName .classType "java.lang.Object").onClasspath,
    interface "java.lang.CharSequence" [],
    (plainClass "java.lang.String").implementing (.named "java.lang.CharSequence"),
    interface "java.util.List" [],
    interface "java.lang.Runnable" [],
    plainClass "android.content.Context",
    subclass "android.content.ContextWrapper" "android.content.Context",
    subclass "android.view.ContextThemeWrapper" "android.content.ContextWrapper",
    subclass "android.app.Activity" "android.view.ContextThemeWrapper",
    subclass "androidx.activity.ComponentActivity" "android.app.Activity",
    subclass "androidx.fragment.app.FragmentActivity" "androidx.activity.ComponentActivity",
    subclass "androidx.appcompat.app.AppCompatActivity" "androidx.fragment.app.FragmentActivity",
    plainClass "android.app.Dialog",
    subclass "androidx.appcompat.app.AppCompatDialog" "android.app.Dialog",
    plainClass "android.view.View",
    subclass "android.view.ViewGroup" "android.view.View",
    subclass "android.widget.FrameLayout" "android.view.ViewGroup",
    subclass "android.widget.LinearLayout" "android.view.ViewGroup",
    subclass "android.widget.TextView" "android.view.View",
    subclass "android.widget.EditText" "android.widget.TextView",
    subclass "android.widget.Button" "android.widget.TextView",
    subclass "android.widget.CompoundButton" "android.widget.Button",
    subclass "android.widget.CheckBox" "android.widget.CompoundButton",
    subclass "android.widget.ImageView" "android.view.View",
    subclass "android.widget.ImageButton" "android.widget.ImageView",
    subclass "android.widget.AdapterView" "android.view.ViewGroup",
    genericSubclass "android.widget.AbsListView" "android.widget.AdapterView"
      "android.widget.ListAdapter",
    subclass "android.widget.ListView" "android.widget.AbsListView",
    subclass "android.widget.GridView" "android.widget.AbsListView",
    genericSubclass "android.widget.AbsSpinner" "android.widget.AdapterView"
      "android.widget.SpinnerAdapter",
    subclass "android.widget.Spinner" "android.widget.AbsSpinner",
    interface "android.widget.Adapter" [],
    interface "android.widget.ListAdapter" ["android.widget.Adapter"],
    interface "android.widget.SpinnerAdapter" ["android.widget.Adapter"],
    subclass "android.widget.ProgressBar" "android.view.View",
    subclass "android.widget.AbsSeekBar" "android.widget.ProgressBar",
    subclass "android.widget.SeekBar" "android.widget.AbsSeekBar",
    subclass "android.widget.RatingBar" "android.widget.AbsSeekBar",
    subclass "android.widget.NumberPicker" "android.widget.LinearLayout",
    subclass "androidx.viewpager.widget.ViewPager" "android.view.ViewGroup",
    plainClass "android.view.KeyEvent",
    plainClass "android.view.MotionEvent",
    interface "android.text.Editable" ["java.lang.CharSequence"],
    interface "android.text.TextWatcher" [],
    plainClass "android.content.res.ColorStateList",
    plainClass "android.content.res.TypedArray",
    plainClass "android.graphics.Bitmap",
    plainClass "android.graphics.drawable.Drawable",
    plainClass "android.graphics.Typeface",
    plainClass "android.view.animation.Animation"]

/-- The names of the platform types. -/
def names : List String := declarations.map TypeDecl.name

/-- Whether a name is that of a platform type. -/
def isPlatformName (name : String) : Bool := names.contains name

end Platform
end Companion
