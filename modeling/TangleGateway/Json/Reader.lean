import TangleGateway.Number.Integer
import TangleGateway.Text.Hexadecimal
import TangleGateway.Value.Basic

/-! # Reading JSON

A reader works on the code points left and returns a value with those left after it. A failure
names what is wrong and how many code points were left there, so that its place in the whole
text follows from the length. NaN and the infinities are accepted as numbers, an escaped half of
a surrogate pair as text. How deep brackets may nest depends on how much room the caller has left.
-/

namespace TangleGateway.Json

inductive Problem where
  | byteOrderMark
  | value
  | propertyName
  | colon
  | comma
  | extraData
  | unterminatedString
  | controlCharacter
  | escape
  | unicodeEscape
  deriving DecidableEq

inductive Bracket where
  | array
  | object
  deriving DecidableEq

/-- A failure with the number of code points left at its place. -/
inductive Stop where
  | problem (p : Problem) (left : Nat)
  | integerTooLong (digits : Nat)
  | nestedTooDeep (b : Bracket)
  deriving DecidableEq

def fail {α : Type} (p : Problem) (rest : Text) : Except Stop α :=
  .error (.problem p rest.length)

/-- Space, tab, line feed and carriage return. -/
def isBlank (c : CodePoint) : Bool :=
  c = .scalar ' ' || c = .scalar '\t' || c = .scalar '\n' || c = .scalar '\r'

def skipBlank (t : Text) : Text :=
  t.dropWhile isBlank

/-! ## Texts -/

def hexValue4? (a b c d : CodePoint) : Option Nat := do
  let a ← a.hexValue?
  let b ← b.hexValue?
  let c ← c.hexValue?
  let d ← d.hexValue?
  return ((a * 16 + b) * 16 + c) * 16 + d

/-- The code point of an escape of one letter. -/
def shortEscape? : CodePoint → Option CodePoint
  | .scalar '"' => some '"'
  | .scalar '\\' => some '\\'
  | .scalar '/' => some '/'
  | .scalar 'b' => some '\x08'
  | .scalar 'f' => some '\x0C'
  | .scalar 'n' => some '\n'
  | .scalar 'r' => some '\r'
  | .scalar 't' => some '\t'
  | _ => none

def prepend (cs : Text) (r : Except Stop (Text × Text)) : Except Stop (Text × Text) :=
  r.map fun p => (cs ++ p.1, p.2)

/--
The rest of a text after its opening quote; `opening` code points were left there. An escape of
four digits needs a code point after it. An escaped first half of a surrogate pair waits in `held`
and joins with a second half that follows it as an escape.
-/
def readText (opening : Nat) (held : Option CodePoint) : Text → Except Stop (Text × Text)
  | [] => .error (.problem .unterminatedString opening)
  | .scalar '"' :: rest => .ok (held.toList, rest)
  | .scalar '\\' :: .scalar 'u' :: a :: b :: c :: d :: rest =>
    match hexValue4? a b c d, rest with
    | _, [] => .error (.problem .unicodeEscape 5)
    | none, _ => .error (.problem .unicodeEscape (rest.length + 5))
    | some n, _ =>
      let unit := CodePoint.ofNat n
      match held with
      | some high =>
        if unit.isLowHalf then prepend [high.join unit] (readText opening none rest)
        else if unit.isHighHalf then prepend [high] (readText opening (some unit) rest)
        else prepend [high, unit] (readText opening none rest)
      | none =>
        if unit.isHighHalf then readText opening (some unit) rest
        else prepend [unit] (readText opening none rest)
  | .scalar '\\' :: .scalar 'u' :: rest => .error (.problem .unicodeEscape (rest.length + 1))
  | [.scalar '\\'] => .error (.problem .unterminatedString opening)
  | .scalar '\\' :: c :: rest =>
    match shortEscape? c with
    | some e => prepend (held.toList ++ [e]) (readText opening none rest)
    | none => .error (.problem .escape (rest.length + 2))
  | c :: rest =>
    if c.toNat < 0x20 then .error (.problem .controlCharacter (rest.length + 1))
    else prepend (held.toList ++ [c]) (readText opening none rest)

/-! ## Numbers -/

def spanDigits : Text → List Char × Text
  | .scalar c :: rest =>
    if c.isDigit then
      let (ds, rest) := spanDigits rest
      (c :: ds, rest)
    else ([], .scalar c :: rest)
  | t => ([], t)

/-- Digits without a leading zero, or one zero. -/
def readWhole : Text → List Char × Text
  | .scalar '0' :: rest => (['0'], rest)
  | t => spanDigits t

/-- A point and at least one digit, if the text starts so. -/
def readFraction (t : Text) : List Char × Text :=
  match t with
  | .scalar '.' :: rest =>
    match spanDigits rest with
    | ([], _) => ([], t)
    | found => found
  | _ => ([], t)

/-- An exponent with at least one digit, if the text starts so. -/
def readExponent (t : Text) : Option Int × Text :=
  match t with
  | .scalar e :: rest =>
    if e = 'e' ∨ e = 'E' then
      let (negative, rest) :=
        match rest with
        | .scalar '-' :: rest => (true, rest)
        | .scalar '+' :: rest => (false, rest)
        | _ => (false, rest)
      match spanDigits rest with
      | ([], _) => (none, t)
      | (ds, rest) =>
        let n : Int := Integer.ofDigits ds
        (some (if negative then -n else n), rest)
    else (none, t)
  | _ => (none, t)

def readNumber (t : Text) : Except Stop (Value × Text) :=
  let (negative, unsigned) :=
    match t with
    | .scalar '-' :: rest => (true, rest)
    | _ => (false, t)
  match readWhole unsigned with
  | ([], _) => fail .value t
  | (whole, rest) =>
    match readFraction rest with
    | (fraction, rest) =>
      match fraction, readExponent rest with
      | [], (none, _) =>
        if Integer.maxDigits < whole.length then .error (.integerTooLong whole.length)
        else
          let n : Int := Integer.ofDigits whole
          .ok (.int (if negative then -n else n), rest)
      | _, (exponent, rest) =>
        let x := Binary64.ofDecimal negative (Integer.ofDigits (whole ++ fraction))
          (exponent.getD 0 - fraction.length)
        .ok (.float x, rest)

/-! ## Lists and dictionaries -/

abbrev ValueReader := Text → Except Stop (Value × Text)

/--
The items of a list up to its closing bracket. An item takes at least one code point, so a clock
of more ticks than code points never runs out.
-/
def readItems (item : ValueReader) : Nat → Text → Except Stop (List Value × Text)
  | 0, t => fail .comma t
  | clock + 1, t => do
    let (v, rest) ← item t
    match skipBlank rest with
    | .scalar ']' :: rest => return ([v], rest)
    | .scalar ',' :: rest =>
      let (vs, rest) ← readItems item clock (skipBlank rest)
      return (v :: vs, rest)
    | rest => fail .comma rest

/-- The entries of a dictionary up to its closing bracket. -/
def readMembers (item : ValueReader) :
    Nat → Text → Except Stop (List (Text × Value) × Text)
  | 0, t => fail .comma t
  | clock + 1, t =>
    match t with
    | .scalar '"' :: quoted => do
      let (name, rest) ← readText t.length none quoted
      match skipBlank rest with
      | .scalar ':' :: rest =>
        let (v, rest) ← item (skipBlank rest)
        match skipBlank rest with
        | .scalar '}' :: rest => return ([(name, v)], rest)
        | .scalar ',' :: rest =>
          let (es, rest) ← readMembers item clock (skipBlank rest)
          return ((name, v) :: es, rest)
        | rest => fail .comma rest
      | rest => fail .colon rest
    | _ => fail .propertyName t

def readList (item : ValueReader) : ValueReader := fun t =>
  match skipBlank t with
  | .scalar ']' :: rest => .ok (.list [], rest)
  | rest => do
    let (vs, rest) ← readItems item (rest.length + 1) rest
    return (.list vs, rest)

/-- A repeated name keeps its first place and its last value. -/
def readDict (item : ValueReader) : ValueReader := fun t =>
  match skipBlank t with
  | .scalar '}' :: rest => .ok (.dict [], rest)
  | rest => do
    let (es, rest) ← readMembers item (rest.length + 1) rest
    return (.dict (Entries.ofPairs es), rest)

def readScalar : ValueReader := fun t =>
  match t with
  | .scalar '"' :: rest => (readText t.length none rest).map fun p => (.text p.1, p.2)
  | .scalar 'n' :: .scalar 'u' :: .scalar 'l' :: .scalar 'l' :: rest => .ok (.null, rest)
  | .scalar 't' :: .scalar 'r' :: .scalar 'u' :: .scalar 'e' :: rest => .ok (.bool true, rest)
  | .scalar 'f' :: .scalar 'a' :: .scalar 'l' :: .scalar 's' :: .scalar 'e' :: rest =>
    .ok (.bool false, rest)
  | .scalar 'N' :: .scalar 'a' :: .scalar 'N' :: rest => .ok (.float .nan, rest)
  | .scalar 'I' :: .scalar 'n' :: .scalar 'f' :: .scalar 'i' :: .scalar 'n' :: .scalar 'i' ::
      .scalar 't' :: .scalar 'y' :: rest => .ok (.float (.infinite false), rest)
  | .scalar '-' :: .scalar 'I' :: .scalar 'n' :: .scalar 'f' :: .scalar 'i' :: .scalar 'n' ::
      .scalar 'i' :: .scalar 't' :: .scalar 'y' :: rest => .ok (.float (.infinite true), rest)
  | _ => readNumber t

/-- A value within which brackets nest at most `depth` deep. -/
def readValue : Nat → ValueReader
  | 0, .scalar '[' :: _ => .error (.nestedTooDeep .array)
  | 0, .scalar '{' :: _ => .error (.nestedTooDeep .object)
  | depth + 1, .scalar '[' :: rest => readList (readValue depth) rest
  | depth + 1, .scalar '{' :: rest => readDict (readValue depth) rest
  | _, t => readScalar t

/-! ## Whole texts -/

/-- One value with blanks around it, up to the end, in which brackets nest at most so deep. -/
def readDocument (nesting : Nat) (t : Text) : Except Stop Value := do
  let (v, rest) ← readValue nesting (skipBlank t)
  match skipBlank rest with
  | [] => return v
  | rest => fail .extraData rest

/-- A document that does not start with a byte order mark. -/
def readUnmarked (nesting : Nat) (t : Text) : Except Stop Value :=
  match t with
  | .scalar '\uFEFF' :: _ => fail .byteOrderMark t
  | _ => readDocument nesting t

/-- A place in a text: line and column count from one, the offset from zero. -/
structure Place where
  line : Nat
  column : Nat
  offset : Nat
  deriving DecidableEq

/-- Only a line feed starts a line. -/
def placeAt (t : Text) (offset : Nat) : Place where
  line := (t.take offset).count (.scalar '\n') + 1
  column := ((t.take offset).reverse.takeWhile (· ≠ .scalar '\n')).length + 1
  offset := offset

def Place.text (p : Place) : Text :=
  (": line " : Text) ++ Integer.text p.line ++ (" column " : Text) ++ Integer.text p.column ++
    (" (char " : Text) ++ Integer.text p.offset ++ (")" : Text)

inductive ReadFault where
  | malformed (p : Problem) (place : Place)
  | integerTooLong (digits : Nat)
  | nestedTooDeep (b : Bracket)
  deriving DecidableEq

def Stop.located (t : Text) : Stop → ReadFault
  | .problem p left => .malformed p (placeAt t (t.length - left))
  | .integerTooLong n => .integerTooLong n
  | .nestedTooDeep b => .nestedTooDeep b

def read (nesting : Nat) (t : Text) : Except ReadFault Value :=
  (readUnmarked nesting t).mapError (Stop.located t)

/-- Reads a text that was decoded from bytes, where a byte order mark was dropped. -/
def readDecoded (nesting : Nat) (t : Text) : Except ReadFault Value :=
  (readDocument nesting t).mapError (Stop.located t)

def Problem.message : Problem → String
  | byteOrderMark => "Unexpected UTF-8 BOM (decode using utf-8-sig)"
  | value => "Expecting value"
  | propertyName => "Expecting property name enclosed in double quotes"
  | colon => "Expecting ':' delimiter"
  | comma => "Expecting ',' delimiter"
  | extraData => "Extra data"
  | unterminatedString => "Unterminated string starting at"
  | controlCharacter => "Invalid control character at"
  | escape => "Invalid \\escape"
  | unicodeEscape => "Invalid \\uXXXX escape"

def ReadFault.message : ReadFault → Text
  | malformed p place => (p.message : Text) ++ place.text
  | integerTooLong n => Integer.unreadMessage n
  | nestedTooDeep .array =>
    "maximum recursion depth exceeded while decoding a JSON array from a unicode string"
  | nestedTooDeep .object =>
    "maximum recursion depth exceeded while decoding a JSON object from a unicode string"

end TangleGateway.Json
