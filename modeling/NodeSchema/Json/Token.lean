/-!
# The tokens of JSON text

Punctuation, words, numerals and strings; blanks, tabs and line ends may
stand between them.  In a string an escape stands for its character, two
escapes for the halves of one character where a single one does not reach;
half a character alone is refused, and so is a control that is not escaped.
-/

namespace NodeSchema.Json

/-- A token of JSON text. -/
inductive Token where
  | openBrace
  | closeBrace
  | openBracket
  | closeBracket
  | colon
  | comma
  | null
  | bool (value : Bool)
  | number (numeral : List Char)
  | string (value : List Char)
  deriving DecidableEq, Repr

namespace Token

/-- The characters that may stand between tokens. -/
def isBlank (c : Char) : Bool := c == ' ' || c == '\t' || c == '\n' || c == '\r'

/-- The value of a hexadecimal digit. -/
def hexValue? (c : Char) : Option Nat :=
  if '0' ≤ c ∧ c ≤ '9' then some (c.toNat - '0'.toNat)
  else if 'a' ≤ c ∧ c ≤ 'f' then some (c.toNat - 'a'.toNat + 10)
  else if 'A' ≤ c ∧ c ≤ 'F' then some (c.toNat - 'A'.toNat + 10)
  else none

/-- The value of four hexadecimal digits. -/
def hexValue4? (a b c d : Char) : Option Nat := do
  let a ← hexValue? a
  let b ← hexValue? b
  let c ← hexValue? c
  let d ← hexValue? d
  return ((a * 16 + b) * 16 + c) * 16 + d

/-- What a letter behind a backslash stands for. -/
def unescape? (c : Char) : Option Char :=
  if c = '"' ∨ c = '\\' ∨ c = '/' then some c
  else if c = 'n' then some '\n'
  else if c = 'r' then some '\r'
  else if c = 't' then some '\t'
  else if c = 'b' then some '\x08'
  else if c = 'f' then some '\x0c'
  else none

/-- The first of the two halves of a character. -/
def isHighHalf (unit : Nat) : Bool := decide (0xD800 ≤ unit ∧ unit < 0xDC00)

/-- The second of the two halves of a character. -/
def isLowHalf (unit : Nat) : Bool := decide (0xDC00 ≤ unit ∧ unit < 0xE000)

/-- The character of two halves. -/
def join (high low : Nat) : Char :=
  Char.ofNat (0x10000 + (high - 0xD800) * 0x400 + (low - 0xDC00))

/-- Reads a string from behind its opening quote to behind its closing one;
answers with the string and what follows. -/
def readString : List Char → Option (List Char × List Char)
  | [] => none
  | c :: rest =>
    if c = '"' then some ([], rest)
    else if c = '\\' then
      match rest with
      | [] => none
      | letter :: rest =>
        if letter = 'u' then
          match rest with
          | a :: b :: c :: d :: rest =>
            match hexValue4? a b c d with
            | none => none
            | some unit =>
              if isHighHalf unit then
                match rest with
                | '\\' :: 'u' :: a :: b :: c :: d :: rest =>
                  match hexValue4? a b c d with
                  | none => none
                  | some low =>
                    if isLowHalf low then
                      (readString rest).map fun r => (join unit low :: r.1, r.2)
                    else none
                | _ => none
              else if isLowHalf unit then none
              else (readString rest).map fun r => (Char.ofNat unit :: r.1, r.2)
          | _ => none
        else
          match unescape? letter with
          | none => none
          | some c => (readString rest).map fun r => (c :: r.1, r.2)
    else if c.toNat < 0x20 then none
    else (readString rest).map fun r => (c :: r.1, r.2)

/-- One or more digits and what follows. -/
def readDigits (text : List Char) : Option (List Char × List Char) :=
  let digits := text.takeWhile Char.isDigit
  if digits.isEmpty then none else some (digits, text.dropWhile Char.isDigit)

/-- The whole part of a numeral: a zero, or digits that start with none. -/
def readWhole : List Char → Option (List Char × List Char)
  | '0' :: rest => some (['0'], rest)
  | text => readDigits text

/-- The fraction of a numeral, which may be missing. -/
def readFraction : List Char → Option (List Char × List Char)
  | '.' :: rest => (readDigits rest).map fun r => ('.' :: r.1, r.2)
  | text => some ([], text)

/-- The exponent of a numeral, which may be missing. -/
def readExponent : List Char → Option (List Char × List Char)
  | [] => some ([], [])
  | mark :: rest =>
    if mark = 'e' ∨ mark = 'E' then
      match rest with
      | [] => none
      | sign :: digits =>
        if sign = '+' ∨ sign = '-' then
          (readDigits digits).map fun r => (mark :: sign :: r.1, r.2)
        else (readDigits rest).map fun r => (mark :: r.1, r.2)
    else some ([], mark :: rest)

/-- A numeral and what follows. -/
def readNumeral (text : List Char) : Option (List Char × List Char) := do
  let (minus, text) :=
    match text with
    | '-' :: rest => (['-'], rest)
    | _ => ([], text)
  let (whole, text) ← readWhole text
  let (fraction, text) ← readFraction text
  let (exponent, text) ← readExponent text
  return (minus ++ whole ++ fraction ++ exponent, text)

/-- One token and what follows, from a text that starts with `c`. -/
def readOne (c : Char) (rest : List Char) : Option (Token × List Char) :=
  if c = '\x7b' then some (openBrace, rest)
  else if c = '\x7d' then some (closeBrace, rest)
  else if c = '[' then some (openBracket, rest)
  else if c = ']' then some (closeBracket, rest)
  else if c = ':' then some (colon, rest)
  else if c = ',' then some (comma, rest)
  else if c = '"' then (readString rest).map fun r => (string r.1, r.2)
  else
    match c :: rest with
    | 'n' :: 'u' :: 'l' :: 'l' :: rest => some (null, rest)
    | 't' :: 'r' :: 'u' :: 'e' :: rest => some (bool true, rest)
    | 'f' :: 'a' :: 'l' :: 's' :: 'e' :: rest => some (bool false, rest)
    | text => (readNumeral text).map fun r => (number r.1, r.2)

/-- Reads up to `limit` characters as tokens; every step takes at least one. -/
def readUpTo : Nat → List Char → Option (List Token)
  | _, [] => some []
  | 0, _ :: _ => none
  | limit + 1, c :: rest =>
    if isBlank c then readUpTo limit rest
    else
      match readOne c rest with
      | none => none
      | some (token, rest) => (readUpTo limit rest).map (token :: ·)

/-- The tokens of a text. -/
def readAll (text : List Char) : Option (List Token) := readUpTo text.length text

end Token

end NodeSchema.Json
