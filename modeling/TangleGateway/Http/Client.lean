import TangleGateway.Http.Library
import TangleGateway.Text.ContentType

/-! # A client

A library whose clients post JSON in UTF-8 and read a body in the charset of its content type. The
headers of a post are checked first, then its content, and then whether the client is closed.
-/

namespace TangleGateway

def CharsetFault.fault : CharsetFault → Fault
  | unmarked bits => .saying .malformedText
      (("UTF-" : Text) ++ Integer.text bits ++ (" stream does not start with BOM" : Text))
  | undefined => .saying .malformedText "undefined encoding"
  | strictOnly => .saying .malformedText "Unsupported error handling replace"
  | noText => .raised (.standard .assertion) []
  | noBytes =>
    .saying .type "descriptor 'translate' for 'str' objects doesn't apply to a 'bytes' object"
  | overlongEscape => .saying .malformedText "pending buffer overflow"
  | undesignated => .saying .runtime "internal codec error"
  | notAscii bytes offset =>
    .undecodable "ascii" bytes offset (offset + 1) "ordinal not in range(128)"
  | mixedSegments true =>
    .saying .type "'<' not supported between instances of 'int' and 'NoneType'"
  | mixedSegments false =>
    .saying .type "'<' not supported between instances of 'NoneType' and 'int'"
  | segmentNumberTooLong n => .saying .value (Integer.unreadMessage n)
  | nullInName => .saying .value "embedded null character"

/-- A text of which an encoding has no code for some code points: the first ones in a row. -/
def Fault.unencodableIn (encoding reason : String) (isMissing : CodePoint → Bool) (t : Text) :
    Fault :=
  let start := (t.takeWhile (!isMissing ·)).length
  let stop := start + ((t.drop start).takeWhile isMissing).length
  .unencodable encoding t start stop reason

structure HttpClient where
  timeouts : Timeouts
  closed : Bool

namespace HttpClient

/-- The time for reading is the one for writing and waiting too, unless it is a tuple of all. -/
def make (connect read : Value) : Except Fault HttpClient :=
  match read with
  | .tuple (c :: r :: more) =>
    .ok ⟨⟨c, r, more.head?.getD .null, more[1]?.getD .null⟩, false⟩
  | .tuple _ => .error (.saying .index "tuple index out of range")
  | _ => .ok ⟨⟨connect, read, read, read⟩, false⟩

def isAscii (c : CodePoint) : Bool := c.toNat < 0x80

def isSurrogate : CodePoint → Bool
  | .scalar _ => false
  | .surrogate _ => true

def asciiText (t : Text) : Except Fault Text :=
  if t.all isAscii then .ok t
  else .error (.unencodableIn "ascii" "ordinal not in range(128)" (!isAscii ·) t)

/-- Header values are ASCII texts, or bytes. -/
def headerText : Value → Except Fault Text
  | .text t => asciiText t
  | .bytes bs => .ok (.ofNats (bs.map UInt8.toNat))
  | v => .error (.saying .type (("Header value must be str or bytes, not <class '" : Text) ++
      (v.typeName : Text) ++ ("'>" : Text)))

def headerTexts : Entries Value → Except Fault (Entries Text)
  | [] => .ok []
  | (name, v) :: es => do
    let t ← headerText v
    let ts ← headerTexts es
    return (name, t) :: ts

def encode (v : Value) : Except Fault (List UInt8) := do
  let t ← (Json.write v).mapError .unwritable
  match Utf8.encode? t with
  | some bytes => return bytes
  | none => throw (.unencodableIn "utf-8" "surrogates not allowed" isSurrogate t)

def charset : Option Text → Except Fault (Option Text)
  | none => .ok none
  | some contentType => do
    let t ← asciiText contentType
    (ContentType.charsetName t).mapError CharsetFault.fault

/-- The body in the charset of its content type, which an empty body has no need of. -/
def readBody (r : HttpReply) : Except Fault Text :=
  if r.body.isEmpty then .ok []
  else do
    let name ← charset r.contentType
    let c ← (ContentType.charsetOf name).mapError CharsetFault.fault
    (c.readBody r.body).lossy.mapError CharsetFault.fault

def respond (r : HttpReply) : HttpResponse where
  status := r.status
  text := do
    let _ ← r.contentType.elim (.ok []) asciiText
    readBody r

def request (timeouts : Timeouts) (call : PostCall) : Except Fault HttpPost := do
  let headers ← headerTexts call.headers
  let content ← encode call.json
  return ⟨call.url, headers, content, timeouts⟩

def post (c : HttpClient) (network : Network) (call : PostCall) : Posting HttpClient :=
  match request c.timeouts call with
  | .error f => ⟨.error f, [], c, network⟩
  | .ok p =>
    if c.closed then ⟨.error .clientClosed, [], c, network⟩
    else ⟨network.next.map respond, [p], c, network.tail⟩

def library : HttpLibrary where
  Client := HttpClient
  make := make
  timeouts := timeouts
  isClosed := closed
  close c := { c with closed := true }
  encode := encode
  charset := charset
  respond := respond
  post := post

end HttpClient

end TangleGateway
