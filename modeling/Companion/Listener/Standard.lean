import Companion.CodeType.Basic
import Companion.Listener.Basic

/-!
# The standard listeners

The listener kinds of the platform's widgets, in the order in which they are processed.
-/

namespace Companion
namespace ListenerKind

/-- The spelled type of plain views. -/
private def view : String := CodeType.viewSpelling

/-- The spelled type of views over an adapter. -/
private def adapterView : String := "android.widget.AdapterView<?>"

/-- A listener with a single method. -/
def single (marker targetType setter listenerType : String) (method : Callback) : ListenerKind :=
  ⟨marker, targetType, setter, none, listenerType, [method], [], none⟩

/-- A listener with several callbacks, one of which is selected by default. -/
def several (marker targetType setter : String) (remover : Option String) (listenerType : String)
    (callbacks : List Callback) (defaultCallback : String) : ListenerKind :=
  ⟨marker, targetType, setter, remover, listenerType, [], callbacks, some defaultCallback⟩

/-- Changes of a compound button's state. -/
def onCheckedChanged : ListenerKind :=
  single "OnCheckedChanged" "android.widget.CompoundButton" "setOnCheckedChangeListener"
    "android.widget.CompoundButton.OnCheckedChangeListener"
    (.method "onCheckedChanged" ["android.widget.CompoundButton", "boolean"])

/-- Clicks, of which repeated ones are dropped. -/
def onClick : ListenerKind :=
  single "OnClick" view "setOnClickListener" "butterknife.internal.DebouncingOnClickListener"
    (.method "doClick" [view])

/-- Actions of a text editor. -/
def onEditorAction : ListenerKind :=
  single "OnEditorAction" "android.widget.TextView" "setOnEditorActionListener"
    "android.widget.TextView.OnEditorActionListener"
    ((Callback.method "onEditorAction"
      ["android.widget.TextView", "int", "android.view.KeyEvent"]).returning "boolean" "false")

/-- Changes of the focus. -/
def onFocusChange : ListenerKind :=
  single "OnFocusChange" view "setOnFocusChangeListener" "android.view.View.OnFocusChangeListener"
    (.method "onFocusChange" [view, "boolean"])

/-- Clicks on an item of an adapter view. -/
def onItemClick : ListenerKind :=
  single "OnItemClick" adapterView "setOnItemClickListener"
    "android.widget.AdapterView.OnItemClickListener"
    (.method "onItemClick" [adapterView, view, "int", "long"])

/-- Long clicks on an item of an adapter view. -/
def onItemLongClick : ListenerKind :=
  single "OnItemLongClick" adapterView "setOnItemLongClickListener"
    "android.widget.AdapterView.OnItemLongClickListener"
    ((Callback.method "onItemLongClick" [adapterView, view, "int", "long"]).returning
      "boolean" "false")

/-- Selections of an item of an adapter view. -/
def onItemSelected : ListenerKind :=
  several "OnItemSelected" adapterView "setOnItemSelectedListener" none
    "android.widget.AdapterView.OnItemSelectedListener"
    [(Callback.method "onItemSelected" [adapterView, view, "int", "long"]).selectedBy
        "ITEM_SELECTED",
      (Callback.method "onNothingSelected" [adapterView]).selectedBy "NOTHING_SELECTED"]
    "ITEM_SELECTED"

/-- Key presses. -/
def onKey : ListenerKind :=
  single "OnKey" view "setOnKeyListener" "android.view.View.OnKeyListener"
    ((Callback.method "onKey" [view, "int", "android.view.KeyEvent"]).returning "boolean" "false")

/-- Long clicks. -/
def onLongClick : ListenerKind :=
  single "OnLongClick" view "setOnLongClickListener" "android.view.View.OnLongClickListener"
    ((Callback.method "onLongClick" [view]).returning "boolean" "true")

/-- Changes of the page of a pager. -/
def onPageChange : ListenerKind :=
  several "OnPageChange" "androidx.viewpager.widget.ViewPager" "addOnPageChangeListener"
    (some "removeOnPageChangeListener")
    "androidx.viewpager.widget.ViewPager.OnPageChangeListener"
    [(Callback.method "onPageSelected" ["int"]).selectedBy "PAGE_SELECTED",
      (Callback.method "onPageScrolled" ["int", "float", "int"]).selectedBy "PAGE_SCROLLED",
      (Callback.method "onPageScrollStateChanged" ["int"]).selectedBy
        "PAGE_SCROLL_STATE_CHANGED"]
    "PAGE_SELECTED"

/-- Changes of a rating. -/
def onRatingBarChange : ListenerKind :=
  single "OnRatingBarChange" "android.widget.RatingBar" "setOnRatingBarChangeListener"
    "android.widget.RatingBar.OnRatingBarChangeListener"
    (.method "onRatingChanged" ["android.widget.RatingBar", "float", "boolean"])

/-- Movements of a seek bar. -/
def onSeekBarChange : ListenerKind :=
  several "OnSeekBarChange" "android.widget.SeekBar" "setOnSeekBarChangeListener" none
    "android.widget.SeekBar.OnSeekBarChangeListener"
    [(Callback.method "onProgressChanged" ["android.widget.SeekBar", "int", "boolean"]).selectedBy
        "PROGRESS_CHANGED",
      (Callback.method "onStartTrackingTouch" ["android.widget.SeekBar"]).selectedBy
        "START_TRACKING_TOUCH",
      (Callback.method "onStopTrackingTouch" ["android.widget.SeekBar"]).selectedBy
        "STOP_TRACKING_TOUCH"]
    "PROGRESS_CHANGED"

/-- Changes of a text. -/
def onTextChanged : ListenerKind :=
  several "OnTextChanged" "android.widget.TextView" "addTextChangedListener"
    (some "removeTextChangedListener") "android.text.TextWatcher"
    [(Callback.method "onTextChanged" ["java.lang.CharSequence", "int", "int", "int"]).selectedBy
        "TEXT_CHANGED",
      (Callback.method "beforeTextChanged"
        ["java.lang.CharSequence", "int", "int", "int"]).selectedBy "BEFORE_TEXT_CHANGED",
      (Callback.method "afterTextChanged" ["android.text.Editable"]).selectedBy
        "AFTER_TEXT_CHANGED"]
    "TEXT_CHANGED"

/-- Touches. -/
def onTouch : ListenerKind :=
  single "OnTouch" view "setOnTouchListener" "android.view.View.OnTouchListener"
    ((Callback.method "onTouch" [view, "android.view.MotionEvent"]).returning "boolean" "false")

/-- Changes of a number picker's value. -/
def onValueChange : ListenerKind :=
  single "OnValueChange" "android.widget.NumberPicker" "setOnValueChangedListener"
    "android.widget.NumberPicker.OnValueChangeListener"
    (.method "onValueChange" ["android.widget.NumberPicker", "int", "int"])

/-- The standard listener kinds, in processing order. -/
def standard : List ListenerKind :=
  [onCheckedChanged, onClick, onEditorAction, onFocusChange, onItemClick, onItemLongClick,
    onItemSelected, onKey, onLongClick, onPageChange, onRatingBarChange, onSeekBarChange,
    onTextChanged, onTouch, onValueChange]

/-- The kind that an annotation asks for. -/
def ofMarker? (kinds : List ListenerKind) (marker : String) : Option ListenerKind :=
  kinds.find? fun kind => kind.marker = marker

end ListenerKind
end Companion
