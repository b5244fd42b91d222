import TangleGateway.Value.Basic

/-! # Trytes

Addresses, tags and hashes are texts over 27 trytes. A hash has 81 trytes; an address may carry
a checksum of nine more at its end.
-/

namespace TangleGateway.Trytes

/-- The digit nine and the capital letters, each as a text of its own. -/
def alphabet : List Text :=
  "9ABCDEFGHIJKLMNOPQRSTUVWXYZ".toList.map fun c => [.scalar c]

def hashLength : Nat := 81
def checksumLength : Nat := 9

/-- An address with its checksum. -/
def addressLength : Nat := hashLength + checksumLength

/-- A text that is not empty, has the length asked for if one is, and is over an alphabet. -/
def isOver (alphabet : List Text) (length : Option Value) : Value → Bool
  | .text t =>
    !t.isEmpty && length.all (·.equalsInt t.length) && t.all fun c => alphabet.contains [c]
  | _ => false

def isTrytes (length : Nat) (v : Value) : Bool :=
  isOver alphabet (some (.int length)) v

def isAddressWithChecksum (v : Value) : Bool :=
  isTrytes addressLength v

def isAddressWithoutChecksum (v : Value) : Bool :=
  isTrytes hashLength v

/-- A hash, or an address with its checksum. -/
def isHash (v : Value) : Bool :=
  isTrytes hashLength v || isTrytes addressLength v

def isHashSequence (v : Value) : Bool :=
  match v.sequence? with
  | some vs => vs.all isHash
  | none => false

/-- An address without its checksum; none for what is no address. -/
def removeChecksum? : Value → Option Text
  | .text t =>
    if isAddressWithChecksum (.text t) then some (t.take hashLength)
    else if isAddressWithoutChecksum (.text t) then some t
    else none
  | _ => none

end TangleGateway.Trytes
