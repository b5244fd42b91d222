import TangleGateway.Fault.Basic
import TangleGateway.Text.Utf8

/-! # Answers

What sending a request comes to: a status and a body, or a fault that kept the node from being
reached. Both fields can be set; the fault then counts.
-/

namespace TangleGateway

structure Answer where
  status : Value
  body : Value
  fault : Option Fault

namespace Answer

/-- The node answered: there is a status and no fault. -/
def reachedNode (a : Answer) : Bool :=
  a.fault.isNone && !a.status.isNull

def ofFault (f : Fault) : Answer :=
  ⟨.null, .text [], some f⟩

def empty : Answer :=
  ⟨.int 200, .text "{}", none⟩

/-- Three bytes that may precede UTF-8 text. -/
def dropMark : List UInt8 → List UInt8
  | 0xEF :: 0xBB :: 0xBF :: bs => bs
  | bs => bs

def flawReason : Utf8.Flaw → String
  | .start => "invalid start byte"
  | .continuation => "invalid continuation byte"
  | .truncated => "unexpected end of data"

def decodeBytes (bytes : List UInt8) : Except Fault Text :=
  (Utf8.decodeStrict bytes).mapError fun u =>
    .undecodable "utf-8" bytes u.offset (u.offset + u.width) (flawReason u.flaw)

/-- Reads a body as JSON, in which brackets nest at most so deep; one of bytes is decoded first. -/
def decodeBody (nesting : Nat) : Value → Except Fault Value
  | .text t => (Json.read nesting t).mapError .unreadable
  | .bytes bs | .byteArray bs => do
    let t ← decodeBytes (dropMark bs)
    (Json.readDecoded nesting t).mapError .unreadable
  | v => .error (.notTextBody v.typeName)

end Answer

end TangleGateway
