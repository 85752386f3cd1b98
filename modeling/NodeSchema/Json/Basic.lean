/-!
# JSON documents and their compact text

A document keeps the members of an object in order and with repetitions, and
a number as the numeral that was written.  The compact text has no white
space; a string escapes the quote, the backslash and the controls, and
writes every other character as it is.
-/

namespace NodeSchema

/-- A JSON document. -/
inductive Json where
  | null
  | bool (value : Bool)
  | number (numeral : String)
  | string (value : String)
  | array (items : List Json)
  | object (members : List (String × Json))

namespace Json

/-- The letter that stands for `c` behind a backslash, if it has one. -/
def escapeLetter? (c : Char) : Option Char :=
  if c = '"' ∨ c = '\\' then some c
  else if c = '\n' then some 'n'
  else if c = '\r' then some 'r'
  else if c = '\t' then some 't'
  else if c = '\x08' then some 'b'
  else if c = '\x0c' then some 'f'
  else none

/-- The hexadecimal digit for a number below sixteen. -/
def hexDigit (n : Nat) : Char := Nat.digitChar n

/-- How `c` is written inside a string. -/
def escape (c : Char) : List Char :=
  match escapeLetter? c with
  | some letter => ['\\', letter]
  | none =>
    if c.toNat < 0x20 then ['\\', 'u', '0', '0', hexDigit (c.toNat / 16), hexDigit (c.toNat % 16)]
    else [c]

/-- A string between quotes. -/
def quoted (s : String) : List Char := '"' :: s.toList.flatMap escape ++ ['"']

/-- Puts a comma between texts. -/
def commaSeparated : List (List Char) → List Char
  | [] => []
  | [text] => text
  | text :: rest => text ++ ',' :: commaSeparated rest

mutual

/-- The compact text of a document. -/
def write : Json → List Char
  | null => "null".toList
  | bool b => (if b then "true" else "false").toList
  | number numeral => numeral.toList
  | string s => quoted s
  | array items => '[' :: commaSeparated (writeItems items) ++ [']']
  | object members => '\x7b' :: commaSeparated (writeMembers members) ++ ['\x7d']

/-- The texts of the items. -/
def writeItems : List Json → List (List Char)
  | [] => []
  | item :: rest => write item :: writeItems rest

/-- The texts of the members: a name, a colon, a value. -/
def writeMembers : List (String × Json) → List (List Char)
  | [] => []
  | (name, value) :: rest => (quoted name ++ ':' :: write value) :: writeMembers rest

end

end Json

end NodeSchema
