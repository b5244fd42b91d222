import TangleGateway.Number.Binary64
import TangleGateway.Value.Entries

/-! # Dynamic values

What a caller may hand to an operation and what a decoded reply may hold. A decoded reply is
built from null, booleans, numbers, texts, lists and dictionaries only.
-/

namespace TangleGateway

inductive Value where
  | null
  | bool (b : Bool)
  | int (i : Int)
  | float (x : Binary64)
  | text (t : Text)
  | bytes (bs : List UInt8)
  | byteArray (bs : List UInt8)
  | list (items : List Value)
  | tuple (items : List Value)
  | set (items : List Value)
  | range (start stop step : Int)
  | dict (entries : List (Text × Value))
  /-- A dictionary of which some keys are no texts. -/
  | keyed (entries : List (Value × Value))
  deriving Inhabited

namespace Value

def typeName : Value → String
  | null => "NoneType"
  | bool _ => "bool"
  | int _ => "int"
  | float _ => "float"
  | text _ => "str"
  | bytes _ => "bytes"
  | byteArray _ => "bytearray"
  | list _ => "list"
  | tuple _ => "tuple"
  | set _ => "set"
  | range .. => "range"
  | dict _ | keyed _ => "dict"

def rangeLength (start stop step : Int) : Nat :=
  if 0 < step then ((stop - start + step - 1) / step).toNat
  else if step < 0 then ((start - stop - step - 1) / -step).toNat
  else 0

/-- The integers from a start in steps, as long as they do not reach a stop. -/
def rangeItems (start stop step : Int) : List Value :=
  (List.range (rangeLength start stop step)).map fun (i : Nat) => int (start + step * i)

def byteItems (bs : List UInt8) : List Value :=
  bs.map fun b => int b.toNat

/-- The elements of a value that can be iterated, in order: the characters of a text, the keys of
a dictionary, the numbers of bytes. -/
def elements? : Value → Option (List Value)
  | text t => some (t.map fun c => text [c])
  | bytes bs | byteArray bs => some (byteItems bs)
  | list xs | tuple xs | set xs => some xs
  | range start stop step => some (rangeItems start stop step)
  | dict es => some (es.map fun e => text e.1)
  | keyed es => some (es.map Prod.fst)
  | null | bool _ | int _ | float _ => none

/-- The elements of a value that is a sequence of other values; texts and bytes are not. -/
def sequence? : Value → Option (List Value)
  | list xs | tuple xs => some xs
  | range start stop step => some (rangeItems start stop step)
  | byteArray bs => some (byteItems bs)
  | _ => none

/-- Null, false, zero or without elements. -/
def isFalsy : Value → Bool
  | null => true
  | bool b => !b
  | int i => i == 0
  | float x => x.isZero
  | text t => t.isEmpty
  | bytes bs | byteArray bs => bs.isEmpty
  | list xs | tuple xs | set xs => xs.isEmpty
  | range start stop step => rangeLength start stop step == 0
  | dict es => es.isEmpty
  | keyed es => es.isEmpty

/-- Numeric equality with an integer; true counts as one and false as zero. -/
def equalsInt (v : Value) (i : Int) : Bool :=
  match v with
  | bool b => (if b then 1 else 0) = i
  | int j => j = i
  | float x => x.equalsInt i
  | _ => false

def isNull : Value → Bool
  | null => true
  | _ => false

end Value

end TangleGateway
