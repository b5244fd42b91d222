import TangleGateway.Value.Render

/-! # Writing JSON

Values are written without blanks, dictionaries in their order, tuples as lists. Only quotes,
backslashes and control characters are escaped. Numbers that are not finite, integers of more
than `Integer.maxDigits` digits and values of other types are refused, the first one in writing
order. A key that is no text is written as one.
-/

namespace TangleGateway.Json

inductive WriteFault where
  | notFinite
  | integerTooLong
  | unwritable (typeName : String)
  | unwritableKey (typeName : String)
  deriving DecidableEq

def escaped (c : CodePoint) : Text :=
  match c with
  | .scalar '"' => .ofChars ['\\', '"']
  | .scalar '\\' => .ofChars ['\\', '\\']
  | .scalar '\x08' => .ofChars ['\\', 'b']
  | .scalar '\x0C' => .ofChars ['\\', 'f']
  | .scalar '\n' => .ofChars ['\\', 'n']
  | .scalar '\r' => .ofChars ['\\', 'r']
  | .scalar '\t' => .ofChars ['\\', 't']
  | c => if c.toNat < 0x20 then .ofChars ('\\' :: 'u' :: Text.hexDigits 4 c.toNat) else [c]

def writeText (t : Text) : Text :=
  .scalar '"' :: t.flatMap escaped ++ [.scalar '"']

def commaSeparated : List Text → Text
  | [] => []
  | [t] => t
  | t :: ts => t ++ .scalar ',' :: commaSeparated ts

def writeInteger (i : Int) : Except WriteFault Text :=
  match Integer.text? i with
  | some t => .ok t
  | none => .error .integerTooLong

def writeFloat (x : Binary64) : Except WriteFault Text :=
  if x.isFinite then .ok (Value.floatText x) else .error .notFinite

def keyName : Value → Except WriteFault Text
  | .text t => .ok t
  | .null => .ok "null"
  | .bool true => .ok "true"
  | .bool false => .ok "false"
  | .int i => writeInteger i
  | .float x => writeFloat x
  | v => .error (.unwritableKey v.typeName)

mutual

def write : Value → Except WriteFault Text
  | .null => .ok "null"
  | .bool true => .ok "true"
  | .bool false => .ok "false"
  | .int i => writeInteger i
  | .float x => writeFloat x
  | .text t => .ok (writeText t)
  | .list vs | .tuple vs => do
    let ts ← writeItems vs
    return .scalar '[' :: commaSeparated ts ++ [.scalar ']']
  | .dict es => do
    let ts ← writeMembers es
    return .scalar '{' :: commaSeparated ts ++ [.scalar '}']
  | .keyed es => do
    let ts ← writeKeyed es
    return .scalar '{' :: commaSeparated ts ++ [.scalar '}']
  | v => .error (.unwritable v.typeName)

def writeItems : List Value → Except WriteFault (List Text)
  | [] => .ok []
  | v :: vs => do
    let t ← write v
    let ts ← writeItems vs
    return t :: ts

def writeMembers : List (Text × Value) → Except WriteFault (List Text)
  | [] => .ok []
  | (k, v) :: es => do
    let t ← write v
    let ts ← writeMembers es
    return (writeText k ++ .scalar ':' :: t) :: ts

def writeKeyed : List (Value × Value) → Except WriteFault (List Text)
  | [] => .ok []
  | (k, v) :: es => do
    let name ← keyName k
    let t ← write v
    let ts ← writeKeyed es
    return (writeText name ++ .scalar ':' :: t) :: ts

end

def WriteFault.message : WriteFault → Text
  | notFinite => "Out of range float values are not JSON compliant"
  | integerTooLong => Integer.tooLongMessage
  | unwritable typeName =>
    ("Object of type " : Text) ++ (typeName : Text) ++ (" is not JSON serializable" : Text)
  | unwritableKey typeName =>
    ("keys must be str, int, float, bool or None, not " : Text) ++ (typeName : Text)

end TangleGateway.Json
