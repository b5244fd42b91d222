import TangleGateway.Fault.Class
import TangleGateway.Json.Reader
import TangleGateway.Json.Writer
import TangleGateway.Reply.Shape

/-! # Faults

A fault is something that goes wrong, by its cause. Outcomes of a call that callers branch on
have a kind; all other faults arise below a call or from its arguments.
-/

namespace TangleGateway

inductive ErrorKind where
  /-- An identifier is malformed; nothing was sent. -/
  | validation
  /-- The node refused the request. -/
  | client
  /-- The node refused access or failed. -/
  | access
  /-- The node was not reached, or its answer is not understood. -/
  | transport
  deriving DecidableEq

inductive ConfigFault where
  | unknownField (owner : String) (field : Text)
  | malformedPort (t : Text)
  deriving DecidableEq

inductive Fault where
  /-- A fault of a given class with the values it carries. -/
  | raised (cls : FaultClass) (arguments : List Value)
  /-- An outcome of a call; one without a kind belongs to no class of outcomes. -/
  | call (kind : Option ErrorKind) (detail status : Value) (cause : Option Fault)
  | notIterable (typeName : String)
  | wrongShape (f : ShapeFault)
  | unreadable (f : Json.ReadFault)
  | unwritable (f : Json.WriteFault)
  | notTextBody (typeName : String)
  | integerTooLong
  | config (f : ConfigFault)
  | kindless

namespace ErrorKind

def cls : ErrorKind → StandardClass
  | validation => .validation
  | client => .client
  | access => .access
  | transport => .transportFailure

def word : ErrorKind → String
  | validation => "VALIDATION"
  | client => "CLIENT"
  | access => "ACCESS"
  | transport => "TRANSPORT"

def name : ErrorKind → String
  | validation => "ValidationError"
  | client => "ClientError"
  | access => "AccessError"
  | transport => "TransportFailure"

end ErrorKind

namespace Fault

/-- The class of a numbered fault of the operating system that names no class itself. -/
def systemClass? : Int → Option StandardClass
  | 1 | 13 => some .permission
  | 2 => some .fileNotFound
  | 3 => some .processLookup
  | 4 => some .interrupted
  | 10 => some .childProcess
  | 11 | 114 | 115 => some .blocking
  | 17 => some .fileExists
  | 20 => some .notADirectory
  | 21 => some .isADirectory
  | 32 | 108 => some .brokenPipe
  | 103 => some .connectionAborted
  | 104 => some .connectionReset
  | 110 => some .timedOut
  | 111 => some .connectionRefused
  | _ => none

/-- The number that two to five arguments start with. -/
def systemNumber? : List Value → Option Int
  | .int n :: rest => if 1 ≤ rest.length ∧ rest.length ≤ 4 then some n else none
  | .bool b :: rest =>
    if 1 ≤ rest.length ∧ rest.length ≤ 4 then some (if b then 1 else 0) else none
  | _ => none

/-- A fault of a class; a numbered one of the general system class gets the class of its number. -/
def raise (cls : FaultClass) (arguments : List Value) : Fault :=
  if cls = .standard .system then
    raised (.standard (((systemNumber? arguments).bind systemClass?).getD .system)) arguments
  else raised cls arguments

def saying (c : StandardClass) (t : Text) : Fault :=
  raised (.standard c) [.text t]

/-- A code that gives no text from one place up to another. -/
def undecodable (encoding : String) (bytes : List UInt8) (start stop : Nat) (reason : String) :
    Fault :=
  raised (.standard .undecodable)
    [.text encoding, .bytes bytes, .int start, .int stop, .text reason]

/-- A text that has no code from one place up to another. -/
def unencodable (encoding : String) (t : Text) (start stop : Nat) (reason : String) : Fault :=
  raised (.standard .unencodable) [.text encoding, .text t, .int start, .int stop, .text reason]

def cls : Fault → FaultClass
  | raised c _ => c
  | call none .. => .standard .gateway
  | call (some k) .. => .standard k.cls
  | notIterable _ => .standard .type
  | wrongShape _ => .standard .type
  | unreadable (.malformed ..) => .standard .malformedJson
  | unreadable (.integerTooLong _) => .standard .value
  | unreadable (.nestedTooDeep _) => .standard .recursion
  | unwritable .notFinite => .standard .value
  | unwritable .integerTooLong => .standard .value
  | unwritable (.unwritable _) => .standard .type
  | unwritable (.unwritableKey _) => .standard .type
  | notTextBody _ => .standard .type
  | integerTooLong => .standard .value
  | config (.unknownField ..) => .standard .type
  | config (.malformedPort _) => .standard .value
  | kindless => .standard .noAttribute

/-- Faults of input and output: of the operating system, or of a request. -/
def isIoFault (f : Fault) : Bool :=
  f.cls.isA .system || f.cls.isA .request

/-- Faults that show a body to be no answer to its command. -/
def isAnswerFault (f : Fault) : Bool :=
  f.cls.isA .value || f.cls.isA .type || f.cls.isA .key

/-! ## Messages -/

def configMessage : ConfigFault → Text
  | .unknownField owner field =>
    (owner : Text) ++ (".__init__() got an unexpected keyword argument '" : Text) ++ field ++
      ("'" : Text)
  | .malformedPort t => ("CVT_API_PORT must be an integer, got " : Text) ++ t.quoted

/-- Several values a fault carries, or none: the text of the only one, or all as a tuple. -/
def argumentsText? : List Value → Option Text
  | [] => some []
  | [v] => v.text?
  | vs => (Value.tuple vs).literal?

/-- Two to five values are a number, a message and file names, the second one in fifth place. -/
def systemText? : List Value → Option Text
  | number :: message :: more =>
    if 3 < more.length then argumentsText? (number :: message :: more)
    else do
      let n ← number.text?
      let m ← message.text?
      let start := ("[Errno " : Text) ++ n ++ ("] " : Text) ++ m
      match more.head?.getD .null, more[2]?.getD .null with
      | .null, _ => return start
      | file, .null => return start ++ (": " : Text) ++ (← file.literal?)
      | file, other =>
        return start ++ (": " : Text) ++ (← file.literal?) ++ (" -> " : Text) ++
          (← other.literal?)
  | vs => argumentsText? vs

/--
Two to five values are a number, a message and file names: the message, if it is a text. Else all
values as a tuple, without those after the message if a file name stands there.
-/
def tlsText? (vs : List Value) : Option Text :=
  match vs with
  | number :: message :: more =>
    if 3 < more.length then (Value.tuple vs).literal?
    else
      match message, more.head?.getD .null with
      | .text m, _ => some m
      | _, .null => (Value.tuple vs).literal?
      | _, _ => (Value.tuple [number, message]).literal?
  | _ => (Value.tuple vs).literal?

def hexByte (b : UInt8) : Text :=
  .ofChars ('0' :: 'x' :: Text.hexDigits 2 b.toNat)

def wideEscape (c : CodePoint) : Text :=
  if c.toNat < 0x100 then .ofChars ('\\' :: 'x' :: Text.hexDigits 2 c.toNat)
  else if c.toNat < 0x10000 then .ofChars ('\\' :: 'u' :: Text.hexDigits 4 c.toNat)
  else .ofChars ('\\' :: 'U' :: Text.hexDigits 8 c.toNat)

/-- The places from one up to another, with what stands there if it is only one. -/
def placesText (unit : String) (shown : Option Text) (start stop : Int) : Text :=
  match shown with
  | some t =>
    (unit : Text) ++ (" " : Text) ++ t ++ (" in position " : Text) ++ Integer.text start
  | none =>
    (unit : Text) ++ ("s in position " : Text) ++ Integer.text start ++ ("-" : Text) ++
      Integer.text (stop - 1)

/-- The single thing at a place, if the next place is the end. -/
def single? {α : Type} (xs : List α) (start stop : Int) : Option α :=
  if stop = start + 1 then xs[start.toNat]? else none

def undecodableText? : List Value → Option Text
  | [.text encoding, .bytes bs, .int start, .int stop, .text reason] =>
    let shown := (single? bs start stop).map hexByte
    some (("'" : Text) ++ encoding ++ ("' codec can't decode " : Text) ++
      placesText "byte" shown start stop ++ (": " : Text) ++ reason)
  | vs => argumentsText? vs

def unencodableText? : List Value → Option Text
  | [.text encoding, .text t, .int start, .int stop, .text reason] =>
    let shown := (single? t start stop).map fun c => ("'" : Text) ++ wideEscape c ++ ("'" : Text)
    some (("'" : Text) ++ encoding ++ ("' codec can't encode " : Text) ++
      placesText "character" shown start stop ++ (": " : Text) ++ reason)
  | vs => argumentsText? vs

def malformedJsonText? : List Value → Option Text
  | [.text message, .text document, .int offset] =>
    some (message ++ (Json.placeAt document offset.toNat).text)
  | vs => argumentsText? vs

/-- The third value is no file name if it is a number: it tells how much was written. -/
def dropWritten : List Value → List Value
  | [number, message, .int _] | [number, message, .bool _] => [number, message]
  | vs => vs

def raisedText? (cls : FaultClass) (arguments : List Value) : Option Text :=
  match cls.wording with
  | .own t => some t
  | .arguments => argumentsText? arguments
  | .system =>
    systemText? (if cls = .standard .blocking then dropWritten arguments else arguments)
  | .tls => tlsText? arguments
  | .key =>
    match arguments with
    | [v] => v.literal?
    | vs => argumentsText? vs
  | .malformedJson => malformedJsonText? arguments
  | .undecodable => undecodableText? arguments
  | .unencodable => unencodableText? arguments

/-- What a fault says. Fails exactly when an integer it carries is too long to be written. -/
def text? : Fault → Option Text
  | raised c arguments => raisedText? c arguments
  | call _ detail _ _ => detail.text?
  | notIterable typeName => some (("'" : Text) ++ (typeName : Text) ++
      ("' object is not iterable" : Text))
  | wrongShape f => some f.message
  | unreadable f => some f.message
  | unwritable f => some f.message
  | notTextBody typeName =>
    some (("the JSON object must be str, bytes or bytearray, not " : Text) ++ (typeName : Text))
  | integerTooLong => some Integer.tooLongMessage
  | config f => some (configMessage f)
  | kindless => some "'CvtError' object has no attribute 'kind'"

/-- A text that may fail to be written, as a step that may fail. -/
def orTooLong {α : Type} : Option α → Except Fault α
  | some a => .ok a
  | none => .error .integerTooLong

def describe (kind : Option ErrorKind) (detail status : Value) : Except Fault Text :=
  match kind with
  | none => .error .kindless
  | some k => do
    let s ← orTooLong status.literal?
    let d ← orTooLong detail.literal?
    return (k.name : Text) ++ ("(kind='" : Text) ++ (k.word : Text) ++ ("', status_code=" : Text) ++
      s ++ (", detail=" : Text) ++ d ++ (")" : Text)

/-- A malformed identifier, found before anything is sent. -/
def validation (detail : String) : Fault :=
  call (some .validation) (.text detail) .null none

def invalidHashes : Fault := validation "Invalid hashes provided."

def invalidAddresses : Fault := validation "Invalid addresses provided."

end Fault

end TangleGateway
