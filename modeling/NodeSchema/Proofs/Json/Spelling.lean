import Mathlib.Data.List.Forall2
import NodeSchema.Json.Basic
import NodeSchema.Json.Token

/-!
# Tokens spelt out

The tokens of a text are read from left to right, so it is enough to know
what reading makes of a piece of text in front of others.  A piece spells
some tokens if, whatever follows it, these are read first.  Pieces that spell
can be put together, and a string in quotes is one of them: whatever
characters it has, an escape stands for the character that it was made of.

* `Json.readString_escape` — a string is read back from between its quotes;
* `Json.Reads` — what reading makes of a text, with any limit that its
  length allows;
* `Json.Spells` — what a piece of text adds in front;
* `Spells.append`, `spells_quoted`, `spells_separated` — pieces put together,
  strings, and lists with commas.
-/

namespace NodeSchema.Json

open Token

/-- A letter behind a backslash stands for the character that it was written
for, and is not the one that announces digits. -/
theorem unescape?_escapeLetter? {c letter : Char} (escaped : escapeLetter? c = some letter) :
    unescape? letter = some c ∧ letter ≠ 'u' := by
  unfold escapeLetter? at escaped
  split at escaped
  · next punctuation =>
    obtain rfl := Option.some.inj escaped
    rcases punctuation with rfl | rfl
    · exact ⟨rfl, by decide⟩
    · exact ⟨rfl, by decide⟩
  repeat
    split at escaped
    · next same =>
      obtain rfl := Option.some.inj escaped
      subst same
      exact ⟨rfl, by decide⟩
  cases escaped

/-- The four digits for a control have its number. -/
theorem hexValue4?_control {n : Nat} (control : n < 0x20) :
    hexValue4? '0' '0' (hexDigit (n / 16)) (hexDigit (n % 16)) = some n := by
  have all : ∀ n < 0x20,
      hexValue4? '0' '0' (hexDigit (n / 16)) (hexDigit (n % 16)) = some n := by decide
  exact all n control

/-- A character is read back from its escape. -/
theorem readString_escape_append (c : Char) (rest : List Char) :
    readString (escape c ++ rest) = (readString rest).map fun r => (c :: r.1, r.2) := by
  unfold escape
  rcases escaped : escapeLetter? c with - | letter
  · dsimp only
    by_cases control : c.toNat < 0x20
    · have digits := hexValue4?_control control
      have notHigh : isHighHalf c.toNat = false := by
        unfold isHighHalf
        exact decide_eq_false (by omega)
      have notLow : isLowHalf c.toNat = false := by
        unfold isLowHalf
        exact decide_eq_false (by omega)
      rw [if_pos control]
      simp [readString, digits, notHigh, notLow, Char.ofNat_toNat]
    · have plain : ¬ (c = '"' ∨ c = '\\') := by
        intro punctuation
        rw [escapeLetter?, if_pos punctuation] at escaped
        cases escaped
      rw [not_or] at plain
      rw [if_neg control]
      rw [List.singleton_append, readString.eq_def]
      simp [plain, control]
  · obtain ⟨stands, announces⟩ := unescape?_escapeLetter? escaped
    rw [List.cons_append, List.singleton_append, readString.eq_def]
    simp [announces, stands]

/-- **Strings are read back**, up to the closing quote. -/
theorem readString_escape (s rest : List Char) :
    readString (s.flatMap escape ++ '"' :: rest) = some (s, rest) := by
  induction s with
  | nil =>
    rw [List.flatMap_nil, List.nil_append, readString.eq_def]
    simp
  | cons c s ih =>
    rw [List.flatMap_cons, List.append_assoc, readString_escape_append, ih]
    rfl

/-- A text is read as these tokens, with any limit that its length allows. -/
def Reads (text : List Char) (tokens : List Token) : Prop :=
  ∀ limit, text.length ≤ limit → readUpTo limit text = some tokens

theorem Reads.nil : Reads [] [] := by
  intro limit _
  rw [readUpTo.eq_def]

/-- One token, and what follows it. -/
theorem Reads.cons {c : Char} {text rest : List Char} {token : Token} {tokens : List Token}
    (visible : isBlank c = false) (one : readOne c text = some (token, rest))
    (shorter : rest.length ≤ text.length) (reads : Reads rest tokens) :
    Reads (c :: text) (token :: tokens) := by
  intro limit allowed
  rw [List.length_cons] at allowed
  obtain ⟨limit, rfl⟩ : ∃ less, limit = less + 1 := ⟨limit - 1, by omega⟩
  have further : readUpTo limit rest = some tokens := reads limit (by omega)
  simp [readUpTo, visible, one, further]

/-- In front of whatever is read, a piece of text is read as these tokens. -/
def Spells (text : List Char) (tokens : List Token) : Prop :=
  ∀ ⦃rest following⦄, Reads rest following → Reads (text ++ rest) (tokens ++ following)

theorem Spells.reads {text : List Char} {tokens : List Token} (spells : Spells text tokens) :
    Reads text tokens := by
  have alone := spells Reads.nil
  rwa [List.append_nil, List.append_nil] at alone

/-- **Pieces put together.** -/
theorem Spells.append {text text' : List Char} {tokens tokens' : List Token}
    (first : Spells text tokens) (second : Spells text' tokens') :
    Spells (text ++ text') (tokens ++ tokens') := by
  intro rest following reads
  rw [List.append_assoc, List.append_assoc]
  exact first (second reads)

theorem spells_nil : Spells [] [] := fun _ _ reads => reads

/-- Characters that are tokens. -/
theorem spells_mark {c : Char} {token : Token} (visible : isBlank c = false)
    (one : ∀ rest, readOne c rest = some (token, rest)) : Spells [c] [token] :=
  fun _ _ reads => .cons visible (one _) (Nat.le_refl _) reads

theorem spells_null : Spells "null".toList [.null] :=
  fun _ _ reads => .cons rfl rfl (by simp; omega) reads

theorem spells_bool (b : Bool) : Spells (if b then "true" else "false").toList [.bool b] := by
  intro rest following reads
  cases b with
  | true => exact .cons rfl rfl (by simp; omega) reads
  | false => exact .cons rfl rfl (by simp; omega) reads

/-- **A string in quotes spells itself.** -/
theorem spells_quoted (s : String) : Spells (quoted s) [.string s.toList] := by
  intro rest following reads
  have body : s.toList.flatMap escape ++ ['"'] ++ rest =
      s.toList.flatMap escape ++ '"' :: rest := by
    rw [List.append_assoc, List.singleton_append]
  have one : readOne '"' (s.toList.flatMap escape ++ ['"'] ++ rest) =
      some (.string s.toList, rest) := by
    rw [body]
    simp [readOne, readString_escape]
  exact .cons rfl one (by simp; omega) reads

/-- Puts a comma between lists of tokens. -/
def separated : List (List Token) → List Token
  | [] => []
  | [tokens] => tokens
  | tokens :: rest => tokens ++ .comma :: separated rest

theorem separated_cons_cons (first second : List Token) (rest : List (List Token)) :
    separated (first :: second :: rest) = first ++ .comma :: separated (second :: rest) := rfl

theorem commaSeparated_cons_cons (first second : List Char) (rest : List (List Char)) :
    commaSeparated (first :: second :: rest) = first ++ ',' :: commaSeparated (second :: rest) :=
  rfl

/-- Commas are read between what is read. -/
theorem spells_separated {texts : List (List Char)} {tokens : List (List Token)}
    (each : List.Forall₂ Spells texts tokens) :
    Spells (commaSeparated texts) (separated tokens) := by
  induction each with
  | nil => exact spells_nil
  | @cons text tokens texts others first rest ih =>
    cases rest with
    | nil => exact first
    | cons second rest =>
      rw [commaSeparated_cons_cons, separated_cons_cons]
      have comma : Spells [','] [.comma] := spells_mark rfl fun _ => rfl
      exact first.append (comma.append ih)

end NodeSchema.Json
