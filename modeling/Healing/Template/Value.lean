/-
  Values as templates see them.

  1. **Truth** - `isTruthy`: what a condition makes of a value.
  2. **Text** - `shown`: what a tag shows of a value.
  3. **Order** - `order?` compares two values, if they can be compared.
  4. **Size** - `length` counts items, fields or bytes.
-/
import Healing.Json.Writer
import Healing.Decimal.Numeral

namespace Healing.Template

/-! ## Truth -/

/-- Whether a value counts as true: what is empty does not, nor does a number too close to zero,
    unless zeros are to be included. -/
def isTruthy (includeZero : Bool) : Json → Bool
  | .null => false
  | .bool b => b
  | .int n => includeZero || n ≠ 0
  | .float x => includeZero || x.isNormal
  | .str s => !s.isEmpty
  | .arr items => !items.isEmpty
  | .obj fields => !fields.isEmpty

/-! ## Text -/

mutual

/-- The text of a value: a string as it is, nothing for null, a list in brackets, and a word for an
    object. -/
def shown : Json → String
  | .null => ""
  | .bool true => "true"
  | .bool false => "false"
  | .int n => toString n
  | .float x => Json.floatFormat.write x
  | .str s => s
  | .arr items => "[" ++ shownItems items ++ "]"
  | .obj _ => "[object]"

/-- The texts of the items of a list, with commas between them. -/
def shownItems : List Json → String
  | [] => ""
  | [j] => shown j
  | j :: r => shown j ++ ", " ++ shownItems r

end

/-! ## Order -/

/-- The floating-point number nearest to a number. -/
def nearest? : Json → Option Binary64
  | .int n => some (.ofInt n)
  | .float x => some x
  | _ => none

/-- Compare a number with a text that spells out a number. -/
def orderToText? (x : Json) (text : String) : Option Ordering :=
  match nearest? x, Numeral.float? text.toList with
  | some a, some (.finite b) => some (a.compare b)
  | some _, some (.infinite negative) => some (if negative then .gt else .lt)
  | _, _ => none

/-- The order of two values: numbers by their exact value, texts by their characters, flags with
    `false` first, a number and a text if the text spells out a number. -/
def order? : Json → Json → Option Ordering
  | .int a, .int b => some (compare a b)
  | .int a, .float b => some (Binary64.compareInt a b)
  | .float a, .int b => some (Binary64.compareInt b a).swap
  | .float a, .float b => some (a.compare b)
  | .str a, .str b => some (compare a b)
  | .bool a, .bool b => some (compare a b)
  | .int a, .str b => orderToText? (.int a) b
  | .float a, .str b => orderToText? (.float a) b
  | .str a, .int b => (orderToText? (.int b) a).map Ordering.swap
  | .str a, .float b => (orderToText? (.float b) a).map Ordering.swap
  | _, _ => none

/-! ## Size -/

/-- The number of items or fields, or of the bytes of a text in UTF-8; zero for other values. -/
def length : Json → Nat
  | .str s => s.utf8ByteSize
  | .arr items => items.length
  | .obj fields => fields.length
  | _ => 0

end Healing.Template
