import NodeSchema.Text.Unprintable
import NodeSchema.Text.Combining

/-!
# Quoted strings

A string is shown between double quotes.  Five characters are written with
a letter, the quote and the backslash with a backslash in front; what has
no visible form, or would join the character before it, is written by its
code point; everything else stands for itself.
-/

namespace NodeSchema.Text

/-- The letter that stands for `c` behind a backslash, if it has one. -/
def escapeLetter? (c : Char) : Option Char :=
  if c = '\x00' then some '0'
  else if c = '\t' then some 't'
  else if c = '\r' then some 'r'
  else if c = '\n' then some 'n'
  else if c = '"' ∨ c = '\\' then some c
  else none

/-- Whether `c` is written by its code point. -/
def hidden (c : Char) : Bool := unprintable.has c.toNat || combining.has c.toNat

/-- How `c` is written inside quotes. -/
def escape (c : Char) : List Char :=
  match escapeLetter? c with
  | some letter => ['\\', letter]
  | none =>
    if hidden c then ['\\', 'u', '\x7b'] ++ Nat.toDigits 16 c.toNat ++ ['\x7d']
    else [c]

/-- The string between quotes, with its escapes. -/
def quote (s : String) : String :=
  String.ofList ('"' :: s.toList.flatMap escape ++ ['"'])

end NodeSchema.Text
