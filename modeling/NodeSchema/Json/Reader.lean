import NodeSchema.Json.Basic
import NodeSchema.Json.Token

/-!
# Reading JSON

A document is read from its tokens.  A comma has to be followed by another
item or member, and nothing may follow the document.
-/

namespace NodeSchema.Json

mutual

/-- Reads one document; answers with it and what follows.  The limit counts
tokens, of which every step takes one. -/
def readValue : Nat → List Token → Option (Json × List Token)
  | 0, _ => none
  | _ + 1, [] => none
  | limit + 1, token :: rest =>
    match token with
    | .null => some (null, rest)
    | .bool b => some (bool b, rest)
    | .number numeral => some (number (String.ofList numeral), rest)
    | .string s => some (string (String.ofList s), rest)
    | .openBracket =>
      match rest with
      | .closeBracket :: rest => some (array [], rest)
      | _ => (readItems limit rest).map fun r => (array r.1, r.2)
    | .openBrace =>
      match rest with
      | .closeBrace :: rest => some (object [], rest)
      | _ => (readMembers limit rest).map fun r => (object r.1, r.2)
    | _ => none

/-- Reads the items of an array up to its closing bracket, at least one. -/
def readItems : Nat → List Token → Option (List Json × List Token)
  | 0, _ => none
  | limit + 1, tokens =>
    match readValue limit tokens with
    | some (item, .closeBracket :: rest) => some ([item], rest)
    | some (item, .comma :: rest) => (readItems limit rest).map fun r => (item :: r.1, r.2)
    | _ => none

/-- Reads the members of an object up to its closing brace, at least one. -/
def readMembers : Nat → List Token → Option (List (String × Json) × List Token)
  | 0, _ => none
  | limit + 1, .string name :: .colon :: tokens =>
    match readValue limit tokens with
    | some (value, .closeBrace :: rest) => some ([(String.ofList name, value)], rest)
    | some (value, .comma :: rest) =>
      (readMembers limit rest).map fun r => ((String.ofList name, value) :: r.1, r.2)
    | _ => none
  | _, _ => none

end

/-- The document that a text holds. -/
def read? (text : String) : Option Json := do
  let tokens ← Token.readAll text.toList
  match readValue (tokens.length + 1) tokens with
  | some (document, []) => some document
  | _ => none

end NodeSchema.Json
