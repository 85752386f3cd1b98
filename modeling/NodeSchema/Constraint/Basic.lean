import NodeSchema.Value.Printer

/-!
# Constraints

A constraint says which values may stand in a field.  Other kinds are named
and not embedded, so that a constraint may name a kind that is declared
later, or the kind whose field it constrains.

* `Constraint` — kinds, primitive types, literals, alternatives and arrays;
* `Constraint.text` — how a constraint is shown: `[A | B] | null`;
* `Constraint.same` — equality, with literals compared as values are;
* `Constraint.nullAlternatives` — how many alternatives are the literal
  `null`, nested alternatives included;
* `Constraint.kinds` — the kinds that are named, in order.
-/

namespace NodeSchema

/-- The primitive types. -/
inductive Primitive where
  | string
  | boolean
  | number
  deriving DecidableEq, Repr

namespace Primitive

/-- Whether a value has the type. -/
def admits : Primitive → Value → Bool
  | string, .string _ => true
  | boolean, .bool _ => true
  | number, .number _ => true
  | _, _ => false

/-- The name of the type. -/
def text : Primitive → String
  | string => "string"
  | boolean => "boolean"
  | number => "number"

end Primitive

/-- What a field accepts: a node of the named kind or of a kind below it, a
value of a primitive type, exactly one value, any of several alternatives,
or an array of what the element constraint accepts. -/
inductive Constraint where
  | kind (name : String)
  | primitive (type : Primitive)
  | literal (value : Value)
  | union (alternatives : List Constraint)
  | arrayOf (element : Constraint)

namespace Constraint

/-- Any string. -/
def string : Constraint := primitive .string

/-- Any boolean. -/
def boolean : Constraint := primitive .boolean

/-- Any number. -/
def number : Constraint := primitive .number

/-- The literal `null`. -/
def null : Constraint := literal .null

mutual

/-- How a constraint is shown.  Alternatives are not parenthesised, and no
alternatives at all are the empty text. -/
def text : Constraint → String
  | kind name => name
  | primitive type => type.text
  | literal value => value.text
  | union alternatives => " | ".intercalate (texts alternatives)
  | arrayOf element => "[" ++ text element ++ "]"

/-- How each of several constraints is shown. -/
def texts : List Constraint → List String
  | [] => []
  | c :: rest => text c :: texts rest

end

mutual

/-- Equality of constraints. -/
def same : Constraint → Constraint → Bool
  | kind a, kind b => a == b
  | primitive a, primitive b => a == b
  | literal a, literal b => a == b
  | union as, union bs => sameAll as bs
  | arrayOf a, arrayOf b => same a b
  | _, _ => false

/-- Equality one by one. -/
def sameAll : List Constraint → List Constraint → Bool
  | [], [] => true
  | a :: as, b :: bs => same a b && sameAll as bs
  | _, _ => false

end

instance : BEq Constraint := ⟨same⟩

mutual

/-- How many alternatives are the literal `null`, counted through nested
alternatives but not under arrays. -/
def nullAlternatives : Constraint → Nat
  | literal .null => 1
  | union alternatives => nullAlternativesAmong alternatives
  | _ => 0

/-- The sum over several constraints. -/
def nullAlternativesAmong : List Constraint → Nat
  | [] => 0
  | c :: rest => nullAlternatives c + nullAlternativesAmong rest

end

mutual

/-- The kinds that a constraint names, from left to right. -/
def kinds : Constraint → List String
  | kind name => [name]
  | union alternatives => kindsAmong alternatives
  | arrayOf element => kinds element
  | _ => []

/-- The kinds that several constraints name. -/
def kindsAmong : List Constraint → List String
  | [] => []
  | c :: rest => kinds c ++ kindsAmong rest

end

end Constraint

end NodeSchema
