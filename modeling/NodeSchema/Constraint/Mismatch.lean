/-!
# Mismatches

Why a value was not accepted.  The texts of what was expected and found are
kept, not the values: a mismatch is read, and compared, as a report.
-/

namespace NodeSchema

/-- Why a value was not accepted: it has the wrong form, or no alternative
accepted it, or an element or a field was not accepted for a cause of its
own; or a field is missing; or the kind asked for does not exist, or exists
but cannot be resolved. -/
inductive Mismatch where
  | expected (wanted found : String)
  | noAlternative (alternatives : List String) (found : String)
  | element (index : Nat) (cause : Mismatch)
  | field (kind name : String) (cause : Mismatch)
  | missingField (kind name : String)
  | unresolved (kind : String)
  | malformed (kind reason : String)
  deriving DecidableEq, Repr

/-- One sentence that says why. -/
def Mismatch.text : Mismatch → String
  | expected wanted found => "expected " ++ wanted ++ ", got " ++ found
  | noAlternative alternatives found =>
    found ++ " matches none of: " ++ ", ".intercalate alternatives
  | element index cause => "element " ++ toString index ++ ": " ++ cause.text
  | field kind name cause => kind ++ "." ++ name ++ ": " ++ cause.text
  | missingField kind name => "missing field '" ++ name ++ "' of '" ++ kind ++ "'"
  | unresolved kind => "unresolved kind '" ++ kind ++ "'"
  | malformed kind reason => "kind '" ++ kind ++ "' is malformed: " ++ reason

/-- The outcome of a check: accepted, or why not. -/
abbrev Verdict := Except Mismatch Unit

end NodeSchema
