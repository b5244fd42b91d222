import TangleGateway.Text.Hexadecimal
import TangleGateway.Text.Printable

/-! # Quoted text

Text between quotes, with escapes for the quote, the backslash and everything that does not
print. The quote is the apostrophe, and the double quote for a text that holds apostrophes and
no double quote.
-/

namespace TangleGateway.Text

/-- The quote that needs fewer escapes. -/
def quoteFor (t : Text) : Char :=
  if .scalar '\'' ∈ t ∧ .scalar '"' ∉ t then '"' else '\''

def escapeIn (quote : Char) (c : CodePoint) : Text :=
  if c = .scalar quote ∨ c = .scalar '\\' then [.scalar '\\', c]
  else if c = .scalar '\n' then ofChars ['\\', 'n']
  else if c = .scalar '\r' then ofChars ['\\', 'r']
  else if c = .scalar '\t' then ofChars ['\\', 't']
  else if c.isPrintable then [c]
  else if c.toNat < 0x100 then ofChars ('\\' :: 'x' :: hexDigits 2 c.toNat)
  else if c.toNat < 0x10000 then ofChars ('\\' :: 'u' :: hexDigits 4 c.toNat)
  else ofChars ('\\' :: 'U' :: hexDigits 8 c.toNat)

def quoted (t : Text) : Text :=
  let q := quoteFor t
  .scalar q :: t.flatMap (escapeIn q) ++ [.scalar q]

/-- Bytes inside quotes, where one quote is escaped: ASCII as text, all else as two digits. -/
def escapeBytesIn (quote : Char) (t : Text) : Text :=
  t.flatMap fun c =>
    if 0x7F ≤ c.toNat then ofChars ('\\' :: 'x' :: hexDigits 2 c.toNat) else escapeIn quote c

/-- Bytes between quotes after the letter b. -/
def quotedBytes (bytes : List UInt8) : Text :=
  let t := ofNats (bytes.map UInt8.toNat)
  let q := quoteFor t
  .scalar 'b' :: .scalar q :: escapeBytesIn q t ++ [.scalar q]

/-- The same for bytes that can change, where apostrophes are escaped between any quotes. -/
def quotedByteArray (bytes : List UInt8) : Text :=
  let t := ofNats (bytes.map UInt8.toNat)
  let q := quoteFor t
  ("bytearray(b" : Text) ++ .scalar q :: escapeBytesIn '\'' t ++ (.scalar q :: (")" : Text))

end TangleGateway.Text
