import Junctor.Number.Decimal
import Junctor.Number.Scalar
import Junctor.Text.Lowercase
import Junctor.Text.Quoted

/-!
# Values Handed In

Variables may be bound to more than the two truth values, and options and sizes may be given
as anything a caller can write down. A `Value` is such a thing; a `Cell` is one of the two
kinds that a truth table holds.

Every value counts as true or false, and every value has two texts: the plain one, and the
literal one in which texts are quoted. A value that holds an integer with too many digits can
be handed in and compared, but it cannot be written out in either way.

## Main results

* `Value.isTrue`: which values count as true.
* `Value.equalsInt`: which values are equal to an integer; `Value.same`: which to another
  value.
* `Value.plain`, `Value.literal`: the two texts.
* `Value.isWritable`: which values can be written out.
-/

namespace Junctor

/-- A **value** of any type that a caller can write down, since nothing keeps a caller from
giving one where another is meant. -/
inductive Value where
  | null
  | truth (b : Bool)
  | int (i : Int)
  | float (x : Float)
  | text (s : String)
  | list (items : List Value)
  | record (fields : List (String × Value))

instance : Inhabited Value := ⟨.null⟩

/-- An entry of a truth table as it is given: a **truth value or an integer**. -/
inductive Cell where
  | truth (b : Bool)
  | int (i : Int)
  deriving DecidableEq

namespace Cell

/-- The cell as a number: false is 0 and true is 1. -/
def toInt : Cell → Int
  | .truth b => b.toInt
  | .int i => i

/-- The cell as a value. -/
def toValue : Cell → Value
  | .truth b => .truth b
  | .int i => .int i

instance : Coe Bool Cell := ⟨.truth⟩

instance : Coe Int Cell := ⟨.int⟩

end Cell

namespace Value

/-! ### Truth and equality -/

/-- Does the value **count as true**? Zero and whatever is empty does not, and everything
else does. -/
def isTrue : Value → Bool
  | .null => false
  | .truth b => b
  | .int i => i != 0
  | .float x => x != 0
  | .text s => s != ""
  | .list items => !items.isEmpty
  | .record fields => !fields.isEmpty

/-- The value as a cell, if it is one. -/
def toCell? : Value → Option Cell
  | .truth b => some (.truth b)
  | .int i => some (.int i)
  | _ => none

/-- Is the value **equal to the integer** `i`? A truth value is equal to 0 or 1, a text to
none. -/
def equalsInt (i : Int) : Value → Bool
  | .truth b => b.toInt == i
  | .int j => j == i
  | .float x => x.isFinite && (Number.Binary.ofFloat x).compareInt i == .eq
  | _ => false

/-- The value as a scalar, if it is a number. -/
def toScalar? : Value → Option Number.Scalar
  | .truth b => some (.whole b.toInt)
  | .int i => some (.whole i)
  | .float x => some (.float x)
  | _ => none

/-- Are two numbers equal? Truth values and integers count as numbers, other values do not. -/
def sameNumber : Value → Value → Bool
  | .truth b, value => value.equalsInt b.toInt
  | .int i, value => value.equalsInt i
  | .float x, .float y => x == y
  | .float x, .truth b => (float x).equalsInt b.toInt
  | .float x, .int i => (float x).equalsInt i
  | _, _ => false

mutual

/-- Are two values **equal**? The fields of a record may be in any order. -/
def same : Value → Value → Bool
  | .null, .null => true
  | .text s, .text t => s == t
  | .list xs, .list ys => sameItems xs ys
  | .record fs, .record gs => fs.length == gs.length && sameFields fs gs
  | v, w => sameNumber v w

/-- Are the items of two lists equal, one by one? -/
def sameItems : List Value → List Value → Bool
  | [], [] => true
  | x :: xs, y :: ys => same x y && sameItems xs ys
  | _, _ => false

/-- Have all fields an equal one of the same name in another record? -/
def sameFields : List (String × Value) → List (String × Value) → Bool
  | [], _ => true
  | (name, value) :: fs, gs =>
    (match gs.lookup name with
      | some other => same value other
      | none => false) && sameFields fs gs

end

/-! ### Texts -/

/-- The name of the value's type. -/
def typeName : Value → String
  | .null => "NoneType"
  | .truth _ => "bool"
  | .int _ => "int"
  | .float _ => "float"
  | .text _ => "str"
  | .list _ => "list"
  | .record _ => "dict"

/-- A truth value written out as a literal. -/
def truthLiteral (b : Bool) : String := if b then "True" else "False"

mutual

/-- The **literal text** of a value, in which texts are quoted. -/
def literal : Value → String
  | .null => "None"
  | .truth b => truthLiteral b
  | .int i => toString i
  | .float x => Number.decimal x
  | .text s => Text.quoted s
  | .list items => "[" ++ ", ".intercalate (itemLiterals items) ++ "]"
  | .record fields => "\x7b" ++ ", ".intercalate (fieldLiterals fields) ++ "\x7d"

/-- The literal texts of the items of a list. -/
def itemLiterals : List Value → List String
  | [] => []
  | item :: items => literal item :: itemLiterals items

/-- The literal texts of the fields of a record. -/
def fieldLiterals : List (String × Value) → List String
  | [] => []
  | (name, value) :: fields =>
    (Text.quoted name ++ ": " ++ literal value) :: fieldLiterals fields

end

/-- The **plain text** of a value: a text stands for itself. -/
def plain : Value → String
  | .text s => s
  | value => literal value

mutual

/-- Can a value be **written out**? What is in the way is an integer with too many digits, in
whatever depth of lists and records it stands. -/
def isWritable : Value → Bool
  | .int i => Number.isWritable i
  | .list items => itemsWritable items
  | .record fields => fieldsWritable fields
  | _ => true

/-- Can all items of a list be written out? -/
def itemsWritable : List Value → Bool
  | [] => true
  | item :: items => isWritable item && itemsWritable items

/-- Can all fields of a record be written out? -/
def fieldsWritable : List (String × Value) → Bool
  | [] => true
  | (_, value) :: fields => isWritable value && fieldsWritable fields

end

end Value

/-- The plain text of a cell. -/
def Cell.plain (cell : Cell) : String := cell.toValue.plain

end Junctor
