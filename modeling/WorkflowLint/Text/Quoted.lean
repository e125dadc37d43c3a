import WorkflowLint.Text.Printable

/-!
Contract: texts and byte strings in quotes, as messages show them.

Single quotes are used unless the text holds a single quote and no double quote.  The backslash and
the quote in use are escaped, line feed, carriage return and tab have short escapes, and other
characters that are not printable are written by their code.
-/

set_option autoImplicit false

namespace WorkflowLint.Text

def hex (width : Nat) (number : Nat) : List Char :=
  let digits := Nat.toDigits 16 number
  List.replicate (width - digits.length) '0' ++ digits

def quoteFor (text : List Char) : Char :=
  if text.contains '\'' && !text.contains '"' then '"' else '\''

def quotedChar (quote c : Char) : List Char :=
  if c == quote || c == '\\' then ['\\', c]
  else if c == '\n' then ['\\', 'n']
  else if c == '\r' then ['\\', 'r']
  else if c == '\t' then ['\\', 't']
  else if isPrintable c then [c]
  else
    let code := c.toNat
    if code < 0x100 then '\\' :: 'x' :: hex 2 code
    else if code < 0x10000 then '\\' :: 'u' :: hex 4 code
    else '\\' :: 'U' :: hex 8 code

def quotedChars (text : List Char) : List Char :=
  let quote := quoteFor text
  quote :: text.flatMap (quotedChar quote) ++ [quote]

def quoted (text : String) : String :=
  String.ofList (quotedChars text.toList)

/-- One byte inside quotes: only printable ASCII is shown as itself. -/
def quotedByte (quote : Char) (octet : UInt8) : List Char :=
  let c := Char.ofNat octet.toNat
  if octet.toNat < 128 then quotedChar quote c else '\\' :: 'x' :: hex 2 octet.toNat

def quotedBytes (octets : List UInt8) : List Char :=
  let quote := quoteFor (octets.map fun octet => Char.ofNat octet.toNat)
  'b' :: quote :: octets.flatMap (quotedByte quote) ++ [quote]

end WorkflowLint.Text
