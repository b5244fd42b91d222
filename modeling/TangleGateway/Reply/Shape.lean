import TangleGateway.Value.Basic

/-! # Shapes of fields

Readers for the fields of a decoded reply. A field that is missing has a default; one of the
wrong shape is refused. A list that is null, false, zero or empty counts as no items.
-/

namespace TangleGateway

inductive ShapeFault where
  | notObject (typeName : String)
  | notTextList (field : String)
  | notText (field : String)
  | notInteger (field : String)
  | notList (field : String)
  | notFlagList (field : String)
  deriving DecidableEq

def ShapeFault.message : ShapeFault → String
  | notObject typeName => "expected JSON object, got " ++ typeName
  | notTextList field => "'" ++ field ++ "' must be a list of strings"
  | notText field => "'" ++ field ++ "' must be a string"
  | notInteger field => "'" ++ field ++ "' must be an integer"
  | notList field => "'" ++ field ++ "' must be a list"
  | notFlagList field => "'" ++ field ++ "' must be a list of booleans"

namespace Shape

abbrev Fields := Entries Value

/-- The entries of which the key is a text. -/
def named (es : List (Value × Value)) : Fields :=
  es.filterMap fun
    | (.text name, v) => some (name, v)
    | _ => none

def fields : Value → Except ShapeFault Fields
  | .dict es => .ok es
  | .keyed es => .ok (named es)
  | v => .error (.notObject v.typeName)

/-- The items all read by a reader of one item, or none. -/
def allItems? {α : Type} (item? : Value → Option α) : List Value → Option (List α)
  | [] => some []
  | v :: vs => do
    let a ← item? v
    let as ← allItems? item? vs
    return a :: as

def text? : Value → Option Text
  | .text t => some t
  | _ => none

def flag? : Value → Option Bool
  | .bool b => some b
  | _ => none

def items? (es : Fields) (field : String) : Option (List Value) :=
  match es.get? field with
  | none => some []
  | some v =>
    if v.isFalsy then some []
    else
      match v with
      | .list vs => some vs
      | _ => none

def list (es : Fields) (field : String) : Except ShapeFault (List Value) :=
  match items? es field with
  | some vs => .ok vs
  | none => .error (.notList field)

def textList (es : Fields) (field : String) : Except ShapeFault (List Text) :=
  match (items? es field).bind (allItems? text?) with
  | some ts => .ok ts
  | none => .error (.notTextList field)

def flagList (es : Fields) (field : String) : Except ShapeFault (List Bool) :=
  match (items? es field).bind (allItems? flag?) with
  | some bs => .ok bs
  | none => .error (.notFlagList field)

/-- A missing or null text is empty. -/
def text (es : Fields) (field : String) : Except ShapeFault Text :=
  match es.get? field with
  | none | some .null => .ok []
  | some (.text t) => .ok t
  | some _ => .error (.notText field)

/-- A missing integer is zero; a null one is refused. -/
def integer (es : Fields) (field : String) : Except ShapeFault Int :=
  match es.get? field with
  | none => .ok 0
  | some (.int i) => .ok i
  | some _ => .error (.notInteger field)

end Shape

end TangleGateway
