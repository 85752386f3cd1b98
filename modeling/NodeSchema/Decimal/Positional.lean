import NodeSchema.Decimal.Shortest

/-!
# Positional notation

Numbers are written with the fewest digits that identify them and always
positionally: no exponent, and no point in a whole number.  Reading is
more liberal: a sign, a fraction and an exponent may stand, and the value
is rounded to the nearest double.

* `Decimal.layout` — the digits of a decimal with the point where its
  exponent puts it;
* `Decimal.write` — the text of a double: `3`, `-0`, `0.0000005`, `NaN`,
  `inf`, `-inf`;
* `Decimal.read?` — the double that a numeral denotes.
-/

namespace NodeSchema.Decimal

/-- The decimal digits of a number, most significant first. -/
def digitChars (n : Nat) : List Char := Nat.toDigits 10 n

/-- Writes `d` positionally: zeros before or after the digits as the
exponent demands, and a point only in front of a fraction. -/
def layout (d : Decimal) : List Char :=
  let digits := digitChars d.digits
  let places := (-d.exponent).toNat
  if places = 0 then digits ++ List.replicate d.exponent.toNat '0'
  else
    let padded := List.replicate (places + 1 - digits.length) '0' ++ digits
    let whole := padded.length - places
    padded.take whole ++ '.' :: padded.drop whole

/-- The magnitude of a finite double. -/
def magnitude (bits : UInt64) : List Char :=
  let x := Dyadic.ofBits bits
  if x.significand = 0 then ['0'] else layout x.shortest

/-- Whether the sign bit is set. -/
def negative (bits : UInt64) : Bool := bits >>> 63 != 0

/-- The text of a double. -/
def write (x : Float) : String :=
  if x.isNaN then "NaN"
  else
    let bits := x.toBits
    let sign := if negative bits then "-" else ""
    if x.isInf then sign ++ "inf" else sign ++ String.ofList (magnitude bits)

/-- The value of a digit, if `c` is one. -/
def digit? (c : Char) : Option Nat :=
  if '0' ≤ c ∧ c ≤ '9' then some (c.toNat - '0'.toNat) else none

/-- Reads digits onto `acc` as far as they go; also says how many there
were and what follows. -/
def readDigits (acc count : Nat) : List Char → Nat × Nat × List Char
  | [] => (acc, count, [])
  | c :: rest =>
    match digit? c with
    | some d => readDigits (10 * acc + d) (count + 1) rest
    | none => (acc, count, c :: rest)

/-- A sign in front of what follows; `true` for a minus. -/
def readSign : List Char → Bool × List Char
  | '-' :: rest => (true, rest)
  | '+' :: rest => (false, rest)
  | rest => (false, rest)

/-- An exponent that ends the text: a mark, a sign if any, digits. -/
def readExponent? : List Char → Option Int
  | [] => some 0
  | c :: rest =>
    if c = 'e' ∨ c = 'E' then
      let (minus, rest) := readSign rest
      match readDigits 0 0 rest with
      | (n, count, []) => if count = 0 then none else some (if minus then -n else n)
      | _ => none
    else none

/-- The double closest to `digits * 10 ^ exponent`.  Beyond four hundred
places on either side the answer is zero or infinite whatever the digits
are, so that a large exponent costs nothing. -/
def nearest (digits : Nat) (exponent : Int) : Float :=
  let top := (digitChars digits).length + exponent
  if digits = 0 ∨ top < -400 then 0
  else if 400 < top then Float.ofBits 0x7FF0000000000000
  else Float.ofScientific digits (decide (exponent < 0)) exponent.natAbs

/-- A numeral without its sign: digits, a fraction and an exponent. -/
def readMagnitude? (text : List Char) : Option Float :=
  let (whole, wholeCount, rest) := readDigits 0 0 text
  let (digits, places, rest) :=
    match rest with
    | '.' :: rest => readDigits whole 0 rest
    | _ => (whole, 0, rest)
  if wholeCount + places = 0 then none
  else (readExponent? rest).map fun e => nearest digits (e - places)

/-- The double that `text` denotes: a numeral, or one of the words for the
values that are no numbers, in letters of either case. -/
def read? (text : String) : Option Float :=
  let (minus, rest) := readSign text.toList
  let magnitude? :=
    match String.ofList (rest.map Char.toLower) with
    | "nan" => some (Float.ofBits 0x7FF8000000000000)
    | "inf" | "infinity" => some (Float.ofBits 0x7FF0000000000000)
    | _ => readMagnitude? rest
  magnitude?.map fun x => if minus then -x else x

end NodeSchema.Decimal
