import TangleGateway.Number.Integer
import TangleGateway.Text.Blank
import TangleGateway.Text.Charset.Name
import TangleGateway.Text.Hexadecimal

/-! # Content types

A content type is a media type with parameters after semicolons. The value of a parameter may be
given in segments, and segments may be bytes in a charset of their own. The parameter charset
names the charset of the body.
-/

namespace TangleGateway.ContentType

/-! ## Parameters -/

/--
What stands between semicolons outside quotes. A quote after a backslash does not count, whatever
comes before the backslash.
-/
def pieces (quoted escaped : Bool) : Text → List Text
  | [] => [[]]
  | .scalar ';' :: t =>
    if quoted then addTo (.scalar ';') (pieces true false t) else [] :: pieces false false t
  | .scalar '"' :: t => addTo (.scalar '"') (pieces (quoted != !escaped) false t)
  | c :: t => addTo c (pieces quoted (c = .scalar '\\') t)
where
  addTo (c : CodePoint) : List Text → List Text
    | [] => [[c]]
    | p :: ps => (c :: p) :: ps

def trim (t : Text) : Text :=
  ((t.dropWhile CodePoint.isSpace).reverse.dropWhile CodePoint.isSpace).reverse

/-- The second of two signs in a row, where the first is a backslash, stands for both. -/
def unescape (sign : Char) : Text → Text
  | .scalar '\\' :: c :: t =>
    if c = .scalar sign then c :: unescape sign t
    else .scalar '\\' :: unescape sign (c :: t)
  | c :: t => c :: unescape sign t
  | [] => []

/--
What stands between double quotes or angle brackets. In quotes the backslashes are unescaped
first and the quotes after them.
-/
def unquote (t : Text) : Text :=
  match t, t.getLast? with
  | .scalar '"' :: _ :: _, some (.scalar '"') => unescape '"' (unescape '\\' (t.drop 1).dropLast)
  | .scalar '<' :: _ :: _, some (.scalar '>') => (t.drop 1).dropLast
  | _, _ => t

structure Parameter where
  name : Text
  value : Text

/-- The name before the first equals sign, in lower case; without the sign all is name. -/
def Parameter.ofPiece (t : Text) : Parameter :=
  let name := t.takeWhile (· ≠ .scalar '=')
  if name.length < t.length then ⟨(trim name).asciiLower, trim (t.drop (name.length + 1))⟩
  else ⟨trim name, []⟩

/-! ## Segments -/

/-- A part of a value: its place, if it has one, and whether some of its bytes are escaped. -/
structure Segment where
  place : Option Nat
  value : Text
  encoded : Bool

namespace Segment

def isWord : CodePoint → Bool
  | .scalar c => c.isAlphanum || c = '_'
  | .surrogate _ => false

def isDigit : CodePoint → Bool
  | .scalar c => c.isDigit
  | .surrogate _ => false

def ofParameter? (p : Parameter) : Option (Text × Text × Bool) :=
  let name := p.name.takeWhile isWord
  match name, p.name.drop name.length with
  | _ :: _, .scalar '*' :: rest =>
    let digits := rest.takeWhile isDigit
    match digits, rest.drop digits.length with
    | [], [] => some (name, [], true)
    | _ :: _, [] => some (name, digits, false)
    | _ :: _, [.scalar '*'] => some (name, digits, true)
    | _, _ => none
  | _, _ => none

def readPlace (digits : Text) : Except CharsetFault (Option Nat) :=
  match digits.toChars? with
  | none | some [] => .ok none
  | some ds =>
    if Integer.maxDigits < ds.length then .error (.segmentNumberTooLong ds.length)
    else .ok (some (Integer.ofDigits ds))

/-- The segments of a content type in order, each with the name of its parameter. -/
def ofParameters : List Parameter → Except CharsetFault (List (Text × Segment))
  | [] => .ok []
  | p :: ps =>
    match ofParameter? p with
    | none => ofParameters ps
    | some (name, digits, encoded) => do
      let place ← readPlace digits
      return (name, ⟨place, unquote p.value, encoded⟩) :: (← ofParameters ps)

/-- Segments go by place, then by value, and encoded ones last. -/
def le (a b : Segment) : Bool :=
  let m := a.place.getD 0
  let n := b.place.getD 0
  let s := a.value.map CodePoint.toNat
  let t := b.value.map CodePoint.toNat
  m < n || (m = n && (s < t || (s = t && (!a.encoded || b.encoded))))

/-- All segments of a parameter have places, or none has. -/
def checkPlaces : List Segment → Except CharsetFault Unit
  | a :: b :: ss =>
    if a.place.isSome = b.place.isSome then checkPlaces (b :: ss)
    else .error (.mixedSegments b.place.isSome)
  | _ => .ok ()

/-- Each escape, a percent sign with two digits, reads as the code point of its number. -/
def percentDecode : Text → Text
  | .scalar '%' :: a :: b :: t =>
    match a.hexValue?, b.hexValue? with
    | some m, some n => .ofNat (16 * m + n) :: percentDecode t
    | _, _ => .scalar '%' :: percentDecode (a :: b :: t)
  | c :: t => c :: percentDecode t
  | [] => []

def text (s : Segment) : Text :=
  if s.encoded then percentDecode s.value else s.value

end Segment

/-! ## The charset -/

/-- A value: text, or bytes as code points with the name of a charset. -/
inductive ParameterValue where
  | plain (t : Text)
  | bytes (charset : Text) (t : Text)

namespace ParameterValue

/-- What stands before the first apostrophe, and what stands after the second one. -/
def splitAtApostrophes? (t : Text) : Option (Text × Text) :=
  let isOther := fun c => c ≠ CodePoint.scalar '\''
  let charset := t.takeWhile isOther
  match (t.drop (charset.length + 1)).dropWhile isOther with
  | _ :: rest => some (charset, rest)
  | [] => none

/-- The name of the charset may be left out, for ASCII, and so may the apostrophes. -/
def ofEncoded (t : Text) : ParameterValue :=
  match splitAtApostrophes? t with
  | some ([], rest) => bytes "us-ascii" rest
  | some (charset, rest) => bytes charset rest
  | none => bytes "us-ascii" t

/-- The segments of a parameter in order. One that is encoded makes the whole value bytes. -/
def ofSegments (ss : List Segment) : Except CharsetFault ParameterValue := do
  Segment.checkPlaces ss
  let t := (ss.mergeSort Segment.le).flatMap Segment.text
  return if ss.any Segment.encoded then ofEncoded t else plain t

end ParameterValue

/-- The parameters that have segments, each once, in the order of their first segments. -/
def joinSegments (ss : List (Text × Segment)) :
    Except CharsetFault (List (Text × ParameterValue)) :=
  (ss.map Prod.fst).eraseDups.mapM fun name => do
    let own := (ss.filter fun s => s.1 = name).map Prod.snd
    return (name, ← ParameterValue.ofSegments own)

/-- The values of all parameters: whole ones in order, then those in segments. -/
def values : List Parameter → Except CharsetFault (List (Text × ParameterValue))
  | [] => .ok []
  | mediaType :: ps => do
    let joined ← joinSegments (← Segment.ofParameters ps)
    let whole := ps.filter fun p => (Segment.ofParameter? p).isNone
    return (mediaType :: whole).map (fun p => (p.name, .plain (unquote p.value))) ++ joined

/-- The text of a value. Bytes that their charset does not define stay as they are. -/
def ParameterValue.text : ParameterValue → Except CharsetFault Text
  | plain t => .ok t
  | bytes charset t =>
    if charset.any (·.toNat = 0) then .error .nullInName
    else
      match t, Charset.ofName? charset with
      | [], _ | _, none => .ok t
      | _, some c =>
        if c.isText then do
          return (← (c.read (t.map fun p => .ofNat p.toNat)).strict?).getD t
        else .ok t

/-- The name of a charset that a content type gives, in lower case, if it is ASCII. -/
def charsetName (contentType : Text) : Except CharsetFault (Option Text) := do
  let all ← values ((pieces false false contentType).map .ofPiece)
  match all.find? fun v => v.1.asciiLower = ("charset" : Text) with
  | none => return none
  | some (_, v) =>
    let name ← v.text
    return if name.any (0x80 ≤ ·.toNat) then none else some name.asciiLower

/-- The charset of a name, UTF-8 for no name and for one that is not known. -/
def charsetOf : Option Text → Except CharsetFault Charset
  | none => .ok .utf8
  | some name =>
    if name.any (·.toNat = 0) then .error .nullInName
    else .ok ((Charset.ofName? name).getD .utf8)

end TangleGateway.ContentType
