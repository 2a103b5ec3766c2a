import Reassembly.Text.Graphic

/-!
# Quoted text

A quoted text stands between double quotes.  A quote, a backslash, a tab, a
carriage return, a line feed and a null are written with a backslash and one
character; every other character that would not show as itself is written as
its code point in hexadecimal.  Quoting works one character at a time.
-/

set_option autoImplicit false

namespace Reassembly.Text

def quotedChar (c : Char) : List Char :=
  if c = '\x00' then ['\\', '0']
  else if c = '\t' then ['\\', 't']
  else if c = '\r' then ['\\', 'r']
  else if c = '\n' then ['\\', 'n']
  else if c = '"' then ['\\', '"']
  else if c = '\\' then ['\\', '\\']
  else if isExtending c || isInvisible c then
    ['\\', 'u', '{'] ++ Nat.toDigits 16 c.toNat ++ ['}']
  else [c]

def quotedChars (chars : List Char) : List Char :=
  chars.flatMap quotedChar

/-- A text between quotes, with everything escaped that would not show. -/
def quoted (text : String) : String :=
  String.ofList ('"' :: quotedChars text.toList ++ ['"'])

end Reassembly.Text
