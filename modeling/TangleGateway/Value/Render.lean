import TangleGateway.Number.Integer
import TangleGateway.Number.Shortest
import TangleGateway.Text.Quoted
import TangleGateway.Value.Basic

/-! # Values as text

`literal?` writes a value the way it stands in a message next to others: texts are quoted.
`text?` writes it on its own: a text is itself. Both fail exactly when an integer is too long.
-/

namespace TangleGateway.Value

/-- A leading digit from 10^-4 to 10^15 is written positionally. -/
def floatLayout : Binary64.Layout where
  positionalFrom := -4
  positionalBelow := 16
  exponentWidth := 2
  nan := "nan"
  infinity := "inf"

def floatText (x : Binary64) : Text :=
  .ofChars (Binary64.chars floatLayout x)

def commaJoin : List Text → Text
  | [] => []
  | [t] => t
  | t :: ts => t ++ (", " : Text) ++ commaJoin ts

def bracketed (opening closing : String) (items : List Text) : Text :=
  (opening : Text) ++ commaJoin items ++ (closing : Text)

mutual

def literal? : Value → Option Text
  | null => some "None"
  | bool true => some "True"
  | bool false => some "False"
  | int i => Integer.text? i
  | float x => some (floatText x)
  | text t => some t.quoted
  | bytes bs => some (Text.quotedBytes bs)
  | byteArray bs => some (Text.quotedByteArray bs)
  | list xs => (literals? xs).map (bracketed "[" "]")
  | tuple xs => (literals? xs).map fun
    | [t] => ("(" : Text) ++ t ++ (",)" : Text)
    | ts => bracketed "(" ")" ts
  | set xs => (literals? xs).map fun
    | [] => "set()"
    | ts => bracketed "\x7b" "\x7d" ts
  | range start stop step => do
    let a ← Integer.text? start
    let b ← Integer.text? stop
    let c ← Integer.text? step
    return ("range" : Text) ++ bracketed "(" ")" (if step = 1 then [a, b] else [a, b, c])
  | dict es => (entryLiterals? es).map (bracketed "\x7b" "\x7d")
  | keyed es => (keyedLiterals? es).map (bracketed "\x7b" "\x7d")

def literals? : List Value → Option (List Text)
  | [] => some []
  | v :: vs => do
    let t ← literal? v
    let ts ← literals? vs
    return t :: ts

def entryLiterals? : List (Text × Value) → Option (List Text)
  | [] => some []
  | (k, v) :: es => do
    let t ← literal? v
    let ts ← entryLiterals? es
    return (k.quoted ++ (": " : Text) ++ t) :: ts

def keyedLiterals? : List (Value × Value) → Option (List Text)
  | [] => some []
  | (k, v) :: es => do
    let name ← literal? k
    let t ← literal? v
    let ts ← keyedLiterals? es
    return (name ++ (": " : Text) ++ t) :: ts

end

def text? : Value → Option Text
  | text t => some t
  | v => literal? v

end TangleGateway.Value
