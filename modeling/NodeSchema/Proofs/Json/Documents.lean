import NodeSchema.Json.Reader
import NodeSchema.Proofs.Json.Spelling

/-!
# Documents are read back

Writing goes from a document to a text in one step, reading from the text to
tokens and from these to a document.  The tokens of a document are the point
where the two meet: the text spells them, and they are read as the document.

* `Json.tokens` — the tokens of a document;
* `Json.Numberless` — documents without numbers, whose numerals could be any
  text;
* `Numberless.spells` — what is written spells the tokens;
* `Numberless.readValue` — the tokens are read as the document, in front of
  whatever follows;
* `Numberless.read?_write` — so documents are read back.
-/

namespace NodeSchema.Json

mutual

/-- The tokens of a document. -/
def tokens : Json → List Token
  | null => [.null]
  | bool b => [.bool b]
  | number numeral => [.number numeral.toList]
  | string s => [.string s.toList]
  | array items => .openBracket :: separated (itemTokens items) ++ [.closeBracket]
  | object members => .openBrace :: separated (memberTokens members) ++ [.closeBrace]

/-- The tokens of each item. -/
def itemTokens : List Json → List (List Token)
  | [] => []
  | item :: rest => tokens item :: itemTokens rest

/-- The tokens of each member: a name, a colon, those of the value. -/
def memberTokens : List (String × Json) → List (List Token)
  | [] => []
  | (name, value) :: rest => (.string name.toList :: .colon :: tokens value) :: memberTokens rest

end

/-- No number occurs in the document. -/
inductive Numberless : Json → Prop
  | null : Numberless null
  | bool (b : Bool) : Numberless (bool b)
  | string (s : String) : Numberless (string s)
  | array {items : List Json} (each : ∀ item ∈ items, Numberless item) : Numberless (array items)
  | object {members : List (String × Json)} (each : ∀ member ∈ members, Numberless member.2) :
      Numberless (object members)

/-- Items that spell their tokens, with commas between them. -/
theorem spells_items {items : List Json} (each : ∀ item ∈ items, Spells item.write item.tokens) :
    Spells (commaSeparated (writeItems items)) (separated (itemTokens items)) := by
  apply spells_separated
  induction items with
  | nil => exact .nil
  | cons item rest ih =>
    refine .cons (each item List.mem_cons_self) (ih fun other listed => ?_)
    exact each other (List.mem_cons_of_mem item listed)

/-- Members that spell their tokens, with commas between them. -/
theorem spells_members {members : List (String × Json)}
    (each : ∀ member ∈ members, Spells member.2.write member.2.tokens) :
    Spells (commaSeparated (writeMembers members)) (separated (memberTokens members)) := by
  apply spells_separated
  induction members with
  | nil => exact .nil
  | cons member rest ih =>
    have colon : Spells [':'] [.colon] := spells_mark rfl fun _ => rfl
    have value : Spells member.2.write member.2.tokens := each member List.mem_cons_self
    refine .cons ((spells_quoted member.1).append (colon.append value)) (ih fun other listed => ?_)
    exact each other (List.mem_cons_of_mem member listed)

/-- **What is written spells the tokens** of the document. -/
theorem Numberless.spells {d : Json} (plain : d.Numberless) : Spells d.write d.tokens := by
  induction plain with
  | null => exact spells_null
  | bool b => exact spells_bool b
  | string s => exact spells_quoted s
  | array _ ih =>
    have opening : Spells ['['] [.openBracket] := spells_mark rfl fun _ => rfl
    have closing : Spells [']'] [.closeBracket] := spells_mark rfl fun _ => rfl
    rw [write, tokens]
    exact (opening.append (spells_items ih)).append closing
  | object _ ih =>
    have opening : Spells ['\x7b'] [.openBrace] := spells_mark rfl fun _ => rfl
    have closing : Spells ['\x7d'] [.closeBrace] := spells_mark rfl fun _ => rfl
    rw [write, tokens]
    exact (opening.append (spells_members ih)).append closing

/-- The tokens of a document are read as it, in front of whatever follows,
with any limit that their number allows. -/
def ReadBack (d : Json) : Prop :=
  ∀ limit rest, d.tokens.length ≤ limit → readValue limit (d.tokens ++ rest) = some (d, rest)

/-- Items are read back, of which there is at least one. -/
theorem readItems_tokens {items : List Json} (each : ∀ item ∈ items, item.ReadBack)
    (some : items ≠ []) {limit : Nat} {rest : List Token}
    (allowed : (separated (itemTokens items)).length < limit) :
    readItems limit (separated (itemTokens items) ++ .closeBracket :: rest) =
      .some (items, rest) := by
  obtain ⟨limit, rfl⟩ := Nat.exists_eq_add_one_of_ne_zero (Nat.ne_zero_of_lt allowed)
  induction items generalizing limit with
  | nil => exact absurd rfl some
  | cons item others ih =>
    have first : item.ReadBack := each item List.mem_cons_self
    cases others with
    | nil =>
      have alone : separated (itemTokens [item]) = item.tokens := rfl
      rw [alone] at allowed ⊢
      rw [readItems, first limit _ (by omega)]
    | cons second others =>
      have split : separated (itemTokens (item :: second :: others)) =
          item.tokens ++ .comma :: separated (itemTokens (second :: others)) := rfl
      rw [split, List.length_append, List.length_cons] at allowed
      obtain ⟨limit, rfl⟩ := Nat.exists_eq_add_one_of_ne_zero (by omega : limit ≠ 0)
      have later := ih (fun other listed => each other (List.mem_cons_of_mem item listed))
        (List.cons_ne_nil _ _) limit (by omega)
      rw [split, List.append_assoc, List.cons_append, readItems, first _ _ (by omega)]
      simp [later]

/-- Members are read back, of which there is at least one. -/
theorem readMembers_tokens {members : List (String × Json)}
    (each : ∀ member ∈ members, member.2.ReadBack) (some : members ≠ []) {limit : Nat}
    {rest : List Token} (allowed : (separated (memberTokens members)).length < limit) :
    readMembers limit (separated (memberTokens members) ++ .closeBrace :: rest) =
      .some (members, rest) := by
  obtain ⟨limit, rfl⟩ := Nat.exists_eq_add_one_of_ne_zero (Nat.ne_zero_of_lt allowed)
  induction members generalizing limit with
  | nil => exact absurd rfl some
  | cons member others ih =>
    obtain ⟨name, value⟩ := member
    have first : value.ReadBack := each (name, value) List.mem_cons_self
    cases others with
    | nil =>
      have alone : separated (memberTokens [(name, value)]) =
          .string name.toList :: .colon :: value.tokens := rfl
      rw [alone, List.length_cons, List.length_cons] at allowed
      rw [alone, List.cons_append, List.cons_append, readMembers, first limit _ (by omega)]
      simp
    | cons second others =>
      have split : separated (memberTokens ((name, value) :: second :: others)) =
          .string name.toList :: .colon ::
            (value.tokens ++ .comma :: separated (memberTokens (second :: others))) := rfl
      rw [split, List.length_cons, List.length_cons, List.length_append, List.length_cons]
        at allowed
      obtain ⟨limit, rfl⟩ := Nat.exists_eq_add_one_of_ne_zero (by omega : limit ≠ 0)
      have later := ih (fun other listed => each other (List.mem_cons_of_mem _ listed))
        (List.cons_ne_nil _ _) limit (by omega)
      rw [split, List.cons_append, List.cons_append, List.append_assoc, List.cons_append,
        readMembers, first _ _ (by omega)]
      simp [later]

/-- Where items can be read, the bracket before them opens an array that is
not empty. -/
theorem readValue_array {limit : Nat} {tokens rest : List Token} {items : List Json}
    (read : readItems limit tokens = some (items, rest)) :
    readValue (limit + 1) (.openBracket :: tokens) = some (array items, rest) := by
  unfold readValue
  dsimp only
  split
  · -- no item begins with the closing bracket
    cases limit with
    | zero => cases read
    | succ limit =>
      cases limit with
      | zero => cases read
      | succ limit => cases read
  · rw [read]
    rfl

/-- Where members can be read, the brace before them opens an object that is
not empty. -/
theorem readValue_object {limit : Nat} {tokens rest : List Token} {members : List (String × Json)}
    (read : readMembers limit tokens = some (members, rest)) :
    readValue (limit + 1) (.openBrace :: tokens) = some (object members, rest) := by
  unfold readValue
  dsimp only
  split
  · -- no member begins with the closing brace
    cases limit with
    | zero => cases read
    | succ limit => cases read
  · rw [read]
    rfl

/-- **The tokens are read as the document.** -/
theorem Numberless.readBack {d : Json} (plain : d.Numberless) : d.ReadBack := by
  induction plain with
  | null | bool b =>
    intro limit rest allowed
    obtain ⟨limit, rfl⟩ := Nat.exists_eq_add_one_of_ne_zero (Nat.ne_zero_of_lt allowed)
    rfl
  | string s =>
    intro limit rest allowed
    obtain ⟨limit, rfl⟩ := Nat.exists_eq_add_one_of_ne_zero (Nat.ne_zero_of_lt allowed)
    simp [tokens, readValue]
  | @array items _ ih =>
    intro limit rest allowed
    rw [tokens, List.length_append, List.length_cons, List.length_singleton] at allowed
    obtain ⟨limit, rfl⟩ := Nat.exists_eq_add_one_of_ne_zero (Nat.ne_zero_of_lt allowed)
    rw [tokens, List.cons_append, List.cons_append, List.append_assoc, List.singleton_append]
    by_cases some : items = []
    · subst some
      rfl
    · exact readValue_array (readItems_tokens ih some (by omega))
  | @object members _ ih =>
    intro limit rest allowed
    rw [tokens, List.length_append, List.length_cons, List.length_singleton] at allowed
    obtain ⟨limit, rfl⟩ := Nat.exists_eq_add_one_of_ne_zero (Nat.ne_zero_of_lt allowed)
    rw [tokens, List.cons_append, List.cons_append, List.append_assoc, List.singleton_append]
    by_cases some : members = []
    · subst some
      rfl
    · exact readValue_object (readMembers_tokens ih some (by omega))

/-- **Documents are read back.** -/
theorem Numberless.read?_write {d : Json} (plain : d.Numberless) :
    read? (String.ofList d.write) = some d := by
  have spelt : Token.readAll d.write = some d.tokens := plain.spells.reads _ (Nat.le_refl _)
  have read : readValue (d.tokens.length + 1) d.tokens = some (d, []) := by
    have whole := plain.readBack (d.tokens.length + 1) [] (Nat.le_succ _)
    rwa [List.append_nil] at whole
  unfold read?
  rw [String.toList_ofList, spelt]
  dsimp only [bind, Option.bind]
  rw [read]

end NodeSchema.Json
