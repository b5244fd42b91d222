import TangleGateway.Answer
import TangleGateway.Log

/-! # Outcomes of a call

An answer is classified by its status. A status of success is decoded and read by the parser of
the command; every other status is an outcome of its own. A fault of an answer that is not
understood becomes the cause of the outcome; any other fault of the parser escapes.
-/

namespace TangleGateway

/-- A value, or an error that replaces it. -/
structure Outcome (α : Type) where
  value : Option α
  error : Option Fault

namespace Outcome

variable {α : Type}

def success (a : α) : Outcome α :=
  ⟨some a, none⟩

def failure (f : Fault) : Outcome α :=
  ⟨none, some f⟩

def ok (o : Outcome α) : Bool :=
  o.error.isNone

/-- The value, or the error raised as it is. -/
def unwrap (o : Outcome α) : Except Fault (Option α) :=
  match o.error with
  | some f => .error f
  | none => .ok o.value

end Outcome

structure Logged (α : Type) where
  result : Except Fault α
  logs : List LogEvent

namespace Classify

variable {α : Type}

def successStatus : Int := 200
def refusedStatus : Int := 400
def unauthorizedStatus : Int := 401
def brokenStatus : Int := 500

def failure (kind : ErrorKind) (detail status : Value) (cause : Option Fault) : Outcome α :=
  .failure (.call (some kind) detail status cause)

def unreached (cause : Option Fault) : Except Fault (Outcome α) := do
  let reason ← Fault.orTooLong (cause.elim (some ("None" : Text)) Fault.text?)
  return failure .transport (.text (("node not reachable: " : Text) ++ reason)) .null cause

/-- A body of success, through the parser. -/
def success (nesting : Nat) (parse : Value → Except Fault α) (a : Answer) :
    Except Fault (Outcome α) :=
  match Answer.decodeBody nesting a.body >>= parse with
  | .ok v => .ok (.success v)
  | .error f =>
    if f.isAnswerFault then do
      let reason ← Fault.orTooLong f.text?
      return failure .transport (.text (("unparsable response: " : Text) ++ reason)) a.status
        (some f)
    else .error f

def inaccessible (a : Answer) : Except Fault (Outcome α) := do
  let s ← Fault.orTooLong a.status.text?
  let b ← Fault.orTooLong a.body.text?
  return failure .access (.text (s ++ (" " : Text) ++ b)) a.status none

/-- A status outside the contract is logged with its body. -/
def unexpected (a : Answer) : Logged (Outcome α) where
  result := do
    let s ← Fault.orTooLong a.status.text?
    return failure .transport (.text (("unexpected status " : Text) ++ s)) a.status none
  logs := [.unexpectedStatus a.status.text? a.body.text?]

end Classify

open Classify in
/-- The outcome of an answer, of which brackets in a body of success nest at most so deep. -/
def Answer.classify {α : Type} (a : Answer) (nesting : Nat) (parse : Value → Except Fault α) :
    Logged (Outcome α) :=
  if a.reachedNode then
    if a.status.equalsInt successStatus then ⟨success nesting parse a, []⟩
    else if a.status.equalsInt refusedStatus then
      ⟨.ok (failure .client a.body a.status none), []⟩
    else if a.status.equalsInt unauthorizedStatus || a.status.equalsInt brokenStatus then
      ⟨inaccessible a, []⟩
    else unexpected a
  else ⟨unreached a.fault, []⟩

end TangleGateway
