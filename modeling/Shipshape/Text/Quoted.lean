import Shipshape.Text.Invisible

/-!
# Quoted text

A name inside a message stands between double quotes, with whatever a reader
could not see or would misread written as an escape.

* `Shipshape.Text.escape` – the written form of one character;
* `Shipshape.Text.quote` – a text between quotes.

A backslash, a double quote, a line feed, a carriage return, a tab and a null
character have short escapes, any other invisible character is written by its
code point. An apostrophe stands for itself.
-/

namespace Shipshape.Text

/-- The escape by code point: the hexadecimal digits, without leading zeros,
between braces. -/
def codePointEscape (c : Char) : List Char :=
  ['\\', 'u', '\x7b'] ++ Nat.toDigits 16 c.toNat ++ ['\x7d']

/-- The written form of a character inside quotes. -/
def escape (c : Char) : List Char :=
  if c = '"' then ['\\', '"']
  else if c = '\\' then ['\\', '\\']
  else if c = '\n' then ['\\', 'n']
  else if c = '\r' then ['\\', 'r']
  else if c = '\t' then ['\\', 't']
  else if c = '\x00' then ['\\', '0']
  else if isInvisible c then codePointEscape c
  else [c]

/-- A text between double quotes, its characters escaped one by one. -/
def quote (s : String) : String :=
  String.ofList (['"'] ++ s.toList.flatMap escape ++ ['"'])

end Shipshape.Text
