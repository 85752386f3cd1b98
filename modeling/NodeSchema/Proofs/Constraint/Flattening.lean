import Mathlib.Data.List.Basic
import Mathlib.Logic.Relation
import NodeSchema.Constraint.Questions
import NodeSchema.Proofs.Constraint.Acceptance

/-!
# Flattening

A union may be an alternative of another union.  Splicing the inner one into
the outer one, at every level and under arrays, leads to a constraint in which
no alternative is a union: its flattening.  A resolver cannot tell the two
apart.  That takes more than equal verdicts, since a check stops in the middle
of an array or of a union, and a resolver may answer the next question
differently from the last; so the effects are compared first, in any monad, and
what is asked is read off from them.

* `Constraint.flatten`, `Constraint.Flat` — the flattening, and what makes a
  constraint flat;
* `splices_flat_iff` — splicing unions one by one ends in the flattening;
* `admits_union`, `admits_arrayOf` — a check is a search through alternatives
  and a pass over elements;
* `admits_flatten` — both constraints have the same effects;
* `Constraint.Course` — which questions a check asks, rule by rule;
* `course_iff` — recorded checks take these courses and no others;
* `flattening_makes_no_difference` — all of it together.
-/

namespace NodeSchema

open Relation (ReflTransGen)

namespace Constraint

/-- What a constraint chooses between: the alternatives of a union, and
nothing but the constraint itself if it is no union. -/
def alternatives : Constraint → List Constraint
  | union alternatives => alternatives
  | c => [c]

mutual

/-- Splices each union that is an alternative of another one into it, at every
level and under arrays as well. -/
def flatten : Constraint → Constraint
  | union alternatives => union (flattenAmong alternatives)
  | arrayOf element => arrayOf (flatten element)
  | c => c

/-- The alternatives of several constraints, flattened. -/
def flattenAmong : List Constraint → List Constraint
  | [] => []
  | c :: rest => (flatten c).alternatives ++ flattenAmong rest

end

/-- No alternative of a union is a union, at any level. -/
inductive Flat : Constraint → Prop
  | kind (name : String) : Flat (.kind name)
  | primitive (type : Primitive) : Flat (.primitive type)
  | literal (wanted : Value) : Flat (.literal wanted)
  | union {alternatives : List Constraint} (each : ∀ c ∈ alternatives, Flat c)
      (none : ∀ inner, Constraint.union inner ∉ alternatives) : Flat (.union alternatives)
  | arrayOf {element : Constraint} (inside : Flat element) : Flat (.arrayOf element)

/-- One union that is an alternative of another one is spliced into it. -/
inductive Splices : Constraint → Constraint → Prop
  | here (before inner after : List Constraint) :
      Splices (.union (before ++ .union inner :: after)) (.union (before ++ inner ++ after))
  | alternative {c d : Constraint} (before after : List Constraint) (inside : Splices c d) :
      Splices (.union (before ++ c :: after)) (.union (before ++ d :: after))
  | element {c d : Constraint} (inside : Splices c d) : Splices (.arrayOf c) (.arrayOf d)

theorem flattenAmong_eq (cs : List Constraint) :
    flattenAmong cs = cs.flatMap fun c => c.flatten.alternatives := by
  induction cs with
  | nil => rfl
  | cons c rest ih => rw [flattenAmong, ih, List.flatMap_cons]

/-- A constraint is a union or chooses nothing but itself. -/
theorem union_or_alternatives_eq (c : Constraint) :
    (∃ inner, c = .union inner) ∨ (∀ inner, c ≠ .union inner) ∧ c.alternatives = [c] := by
  cases c with
  | union inner => exact .inl ⟨inner, rfl⟩
  | kind _ | primitive _ | literal _ | arrayOf _ =>
    exact .inr ⟨fun _ => Constraint.noConfusion, rfl⟩

/-- Flattening does not show what has been spliced. -/
theorem Splices.flatten_eq {c d : Constraint} (splices : Splices c d) : c.flatten = d.flatten := by
  induction splices with
  | here before inner after => simp [flatten, flattenAmong_eq, alternatives]
  | alternative before after _ ih => simp [flatten, flattenAmong_eq, ih]
  | element _ ih => rw [flatten, flatten, ih]

/-- There is nothing to flatten in what is flat. -/
theorem Flat.flatten_eq {c : Constraint} (flat : c.Flat) : c.flatten = c := by
  induction flat with
  | kind _ | primitive _ | literal _ => rfl
  | @union cs _ none ih =>
    have own : ∀ c ∈ cs, c.flatten.alternatives = [c] := by
      intro c listed
      rw [ih c listed]
      rcases c.union_or_alternatives_eq with ⟨inner, rfl⟩ | ⟨-, own⟩
      · exact absurd listed (none inner)
      · exact own
    rw [flatten, flattenAmong_eq, List.flatMap_congr own, List.flatMap_singleton']
  | arrayOf _ ih => rw [flatten, ih]

/-- What a flat constraint chooses between is flat, and no union. -/
theorem Flat.alternatives {c : Constraint} (flat : c.Flat) :
    (∀ d ∈ c.alternatives, d.Flat) ∧ ∀ inner, Constraint.union inner ∉ c.alternatives := by
  rcases c.union_or_alternatives_eq with ⟨inner, rfl⟩ | ⟨other, own⟩
  · cases flat with
    | union each none => exact ⟨each, none⟩
  · rw [own]
    exact ⟨fun d member => List.mem_singleton.mp member ▸ flat,
      fun inner member => other inner (List.mem_singleton.mp member).symm⟩

/-- What is flattened is flat. -/
theorem flat_flatten (c : Constraint) : c.flatten.Flat := by
  induction c using Constraint.induction with
  | kind name => exact .kind name
  | primitive type => exact .primitive type
  | literal wanted => exact .literal wanted
  | union cs ih =>
    rw [flatten, flattenAmong_eq]
    refine .union (fun d member => ?_) (fun inner member => ?_)
    · obtain ⟨c, listed, member⟩ := List.mem_flatMap.mp member
      exact (ih c listed).alternatives.1 d member
    · obtain ⟨c, listed, member⟩ := List.mem_flatMap.mp member
      exact (ih c listed).alternatives.2 inner member
  | arrayOf element ih => exact .arrayOf ih

/-- Splicing leads to the flattened alternatives, if it leads to each. -/
theorem splices_among {cs : List Constraint} (each : ∀ c ∈ cs, ReflTransGen Splices c c.flatten)
    (before : List Constraint) :
    ReflTransGen Splices (.union (before ++ cs)) (.union (before ++ flattenAmong cs)) := by
  induction cs generalizing before with
  | nil => exact .refl
  | cons c rest ih =>
    have inside : ReflTransGen Splices (.union (before ++ c :: rest))
        (.union (before ++ c.flatten :: rest)) :=
      (each c List.mem_cons_self).lift (fun d => Constraint.union (before ++ d :: rest))
        fun _ _ step => Splices.alternative before rest step
    have spliced : ReflTransGen Splices (.union (before ++ c.flatten :: rest))
        (.union (before ++ c.flatten.alternatives ++ rest)) := by
      rcases c.flatten.union_or_alternatives_eq with ⟨inner, same⟩ | ⟨-, own⟩
      · rw [same]
        exact .single (.here before inner rest)
      · rw [own, List.append_assoc]
        exact .refl
    have others := ih (fun d listed => each d (List.mem_cons_of_mem c listed))
      (before ++ c.flatten.alternatives)
    rw [List.append_assoc before _ (flattenAmong rest)] at others
    exact (inside.trans spliced).trans others

/-- Splicing leads from a constraint to what it is when it is flattened. -/
theorem splices_flatten (c : Constraint) : ReflTransGen Splices c c.flatten := by
  induction c using Constraint.induction with
  | kind _ | primitive _ | literal _ => exact .refl
  | union cs ih => exact splices_among ih []
  | arrayOf element ih => exact ih.lift Constraint.arrayOf fun _ _ => Splices.element

/-- **The normal form.**  In whatever order unions are spliced, what remains
when there is none left to splice is the flattened constraint. -/
theorem splices_flat_iff {c d : Constraint} :
    ReflTransGen Splices c d ∧ d.Flat ↔ d = c.flatten := by
  constructor
  · rintro ⟨way, flat⟩
    have kept : c.flatten = d.flatten := by
      clear flat
      induction way with
      | refl => rfl
      | tail _ step ih => rw [ih, step.flatten_eq]
    rw [kept, flat.flatten_eq]
  · rintro rfl
    exact ⟨splices_flatten c, flat_flatten c⟩

/-- No elements can be looked for in what is no array. -/
theorem array_or_not (value : Value) :
    (∃ items, value = .array items) ∨ ∀ items, value ≠ .array items := by
  cases value with
  | array items => exact .inl ⟨items, rfl⟩
  | _ => exact .inr fun _ => Value.noConfusion

/-- Whether a check accepts a value, with the effects that its questions have. -/
def admits {m : Type → Type} [Monad m] (ask : Resolver m) (depth : Depth) (c : Constraint)
    (value : Value) : m Bool :=
  Except.isOk <$> c.check ask depth value

/-- A resolver that answers as another one does and keeps a record of what it
is asked. -/
def recording {m : Type → Type} [Monad m] (ask : Resolver m) :
    Resolver (StateT (List Question) m) :=
  fun kind value depth record => do
    let verdict ← ask kind value depth
    return (verdict, record ++ [⟨kind, value, depth⟩])

section Effects

variable {m : Type → Type} [Monad m] [LawfulMonad m] {ask : Resolver m} {depth : Depth}

/-- The alternatives of a union are tried in order, up to the first that
accepts. -/
theorem admits_union (cs : List Constraint) (value : Value) :
    (union cs).admits ask depth value = cs.anyM fun c => c.admits ask depth value := by
  have search : accepts ask depth cs value = cs.anyM fun c => c.admits ask depth value := by
    induction cs with
    | nil => rfl
    | cons c rest ih =>
      rw [accepts, List.anyM_cons, admits, bind_map_left]
      congr 1
      funext verdict
      cases verdict with
      | ok => rfl
      | error mismatch => exact ih
  rw [← search, admits, check, map_bind]
  conv_rhs => rw [← bind_pure (accepts ask depth cs value)]
  congr 1
  funext found
  cases found <;> exact map_pure _ _

/-- The elements of an array are checked in order, up to the first that is not
accepted. -/
theorem admits_arrayOf (element : Constraint) (items : List Value) :
    (arrayOf element).admits ask depth (.array items) = items.allM (element.admits ask depth) := by
  have each : ∀ index, Except.isOk <$> checkItems (element.check ask depth) index items =
      items.allM (element.admits ask depth) := by
    induction items with
    | nil => exact fun _ => map_pure _ _
    | cons item rest ih =>
      intro index
      rw [checkItems, List.allM_cons, admits, map_bind, bind_map_left]
      congr 1
      funext verdict
      cases verdict with
      | ok => exact ih (index + 1)
      | error mismatch => exact map_pure _ _
  rw [admits, check]
  exact each 0

/-- What is no array is refused without a question. -/
theorem admits_notArray (element : Constraint) {value : Value}
    (wrong : ∀ items, value ≠ .array items) :
    (arrayOf element).admits ask depth value = pure false := by
  rw [admits, check]
  · exact map_pure _ _
  · exact wrong

/-- A search goes on among further alternatives where it has found nothing. -/
theorem anyM_append {α : Type} {p : α → m Bool} (as bs : List α) :
    (as ++ bs).anyM p = (do if ← as.anyM p then pure true else bs.anyM p) := by
  induction as with
  | nil => simp
  | cons a rest ih =>
    rw [List.cons_append, List.anyM_cons, List.anyM_cons, ih, bind_assoc]
    congr 1
    funext found
    cases found <;> simp

/-- A search among what a constraint chooses between is a check of it. -/
theorem anyM_alternatives (c : Constraint) (value : Value) :
    c.alternatives.anyM (fun d => d.admits ask depth value) = c.admits ask depth value := by
  rcases c.union_or_alternatives_eq with ⟨inner, rfl⟩ | ⟨-, own⟩
  · exact (admits_union inner value).symm
  · rw [own, List.anyM_cons]
    conv_rhs => rw [← bind_pure (c.admits ask depth value)]
    congr 1
    funext found
    cases found <;> rfl

/-- **Flattening changes no effect.**  Where the search among the alternatives
of a spliced union stops, the search among all alternatives stops as well. -/
theorem admits_flatten (c : Constraint) :
    ∀ value, c.flatten.admits ask depth value = c.admits ask depth value := by
  induction c using Constraint.induction with
  | kind _ | primitive _ | literal _ => exact fun _ => rfl
  | union cs ih =>
    intro value
    rw [flatten, admits_union, admits_union]
    induction cs with
    | nil => rfl
    | cons c rest among =>
      -- the spliced alternatives are one search, which the others continue
      rw [flattenAmong, anyM_append, anyM_alternatives, ih c List.mem_cons_self,
        among fun d listed => ih d (List.mem_cons_of_mem c listed), List.anyM_cons]
  | arrayOf element ih =>
    intro value
    rcases array_or_not value with ⟨items, rfl⟩ | wrong
    · have same : element.flatten.admits ask depth = element.admits ask depth := funext ih
      rw [flatten, admits_arrayOf, admits_arrayOf, same]
    · rw [flatten, admits_notArray _ wrong, admits_notArray _ wrong]

end Effects

/-- The flattening is asked about as the constraint is by the recorder that
knows some kinds. -/
theorem checkRecorded_flatten (c : Constraint) (accepted : List String) (depth : Depth)
    (value : Value) :
    (c.flatten.checkRecorded accepted depth value).1.isOk =
      (c.checkRecorded accepted depth value).1.isOk ∧
    (c.flatten.checkRecorded accepted depth value).2 =
      (c.checkRecorded accepted depth value).2 := by
  have effects : c.flatten.admits (recorder accepted) depth value =
      c.admits (recorder accepted) depth value := admits_flatten c value
  exact Prod.ext_iff.mp (congrFun effects [])

/-- How a constraint consults a resolver that keeps a state: whether it accepts
a value in the end, what it has asked until then, and the state that this
leaves behind.  The alternatives of a union are consulted up to the first that
accepts, the elements of an array up to the first that is refused. -/
inductive Course {σ : Type} (ask : Resolver (StateM σ)) (depth : Depth) :
    Constraint → Value → σ → Bool → List Question → σ → Prop
  | kind (name : String) (value : Value) (s : σ) :
      Course ask depth (.kind name) value s (ask name value depth s).1.isOk [⟨name, value, depth⟩]
        (ask name value depth s).2
  | primitive (type : Primitive) (value : Value) (s : σ) :
      Course ask depth (.primitive type) value s (type.admits value) [] s
  | literal (wanted value : Value) (s : σ) :
      Course ask depth (.literal wanted) value s (wanted == value) [] s
  | noAlternative (value : Value) (s : σ) : Course ask depth (.union []) value s false [] s
  | accepted {c : Constraint} {rest : List Constraint} {value : Value} {s t : σ}
      {asked : List Question} (first : Course ask depth c value s true asked t) :
      Course ask depth (.union (c :: rest)) value s true asked t
  | refused {c : Constraint} {rest : List Constraint} {value : Value} {s t u : σ} {found : Bool}
      {asked more : List Question} (first : Course ask depth c value s false asked t)
      (others : Course ask depth (.union rest) value t found more u) :
      Course ask depth (.union (c :: rest)) value s found (asked ++ more) u
  | notArray {element : Constraint} {value : Value} (s : σ)
      (wrong : ∀ items, value ≠ .array items) :
      Course ask depth (.arrayOf element) value s false [] s
  | noElement (element : Constraint) (s : σ) :
      Course ask depth (.arrayOf element) (.array []) s true [] s
  | failed {element : Constraint} {item : Value} {rest : List Value} {s t : σ}
      {asked : List Question} (first : Course ask depth element item s false asked t) :
      Course ask depth (.arrayOf element) (.array (item :: rest)) s false asked t
  | passed {element : Constraint} {item : Value} {rest : List Value} {s t u : σ} {all : Bool}
      {asked more : List Question} (first : Course ask depth element item s true asked t)
      (others : Course ask depth (.arrayOf element) (.array rest) t all more u) :
      Course ask depth (.arrayOf element) (.array (item :: rest)) s all (asked ++ more) u

/-- A verdict without an error is the one that accepts. -/
theorem isOk_iff {verdict : Verdict} : verdict.isOk = true ↔ verdict = .ok () := by
  cases verdict with
  | ok => exact ⟨fun _ => rfl, fun _ => rfl⟩
  | error mismatch => exact ⟨nofun, nofun⟩

section Stateful

variable {σ : Type} {ask : Resolver (StateM σ)} {depth : Depth}

/-- What comes first is done first, and leaves its record and its state to the
rest. -/
theorem run_bind {α β : Type} {x : StateT (List Question) (StateM σ) α}
    {f : α → StateT (List Question) (StateM σ) β} {record record' : List Question} {s t : σ} {a : α}
    (first : x record s = ((a, record'), t)) : (x >>= f) record s = f a record' t := by
  change (let result := x record s; f result.1.1 result.1.2 result.2) = _
  rw [first]

/-- Every constraint takes some course, whatever the resolver answers. -/
theorem course_exists (ask : Resolver (StateM σ)) (depth : Depth) (c : Constraint) :
    ∀ value s, ∃ found asked t, Course ask depth c value s found asked t := by
  induction c using Constraint.induction with
  | kind name => exact fun value s => ⟨_, _, _, .kind name value s⟩
  | primitive type => exact fun value s => ⟨_, _, _, .primitive type value s⟩
  | literal wanted => exact fun value s => ⟨_, _, _, .literal wanted value s⟩
  | union cs each =>
    intro value
    induction cs with
    | nil => exact fun s => ⟨_, _, _, .noAlternative value s⟩
    | cons c rest others =>
      intro s
      obtain ⟨found, asked, t, first⟩ := each c List.mem_cons_self value s
      cases found with
      | true => exact ⟨_, _, _, .accepted first⟩
      | false =>
        obtain ⟨_, _, _, later⟩ :=
          others (fun d listed => each d (List.mem_cons_of_mem c listed)) t
        exact ⟨_, _, _, .refused first later⟩
  | arrayOf element each =>
    intro value
    rcases array_or_not value with ⟨items, rfl⟩ | wrong
    · induction items with
      | nil => exact fun s => ⟨_, _, _, .noElement element s⟩
      | cons item rest others =>
        intro s
        obtain ⟨passes, asked, t, first⟩ := each item s
        cases passes with
        | true =>
          obtain ⟨_, _, _, later⟩ := others t
          exact ⟨_, _, _, .passed first later⟩
        | false => exact ⟨_, _, _, .failed first⟩
    · exact fun s => ⟨_, _, _, .notArray s wrong⟩

/-- A check takes the course that the rules describe, and appends to the record
what it asks. -/
theorem Course.run {c : Constraint} {value : Value} {s t : σ} {found : Bool}
    {asked : List Question} (course : Course ask depth c value s found asked t) :
    ∀ record, c.admits (recording ask) depth value record s = ((found, record ++ asked), t) := by
  induction course with
  | kind name value s => exact fun _ => rfl
  | primitive type value s =>
    intro record
    rw [List.append_nil, admits, check]
    cases type.admits value <;> rfl
  | literal wanted value s =>
    intro record
    rw [List.append_nil, admits, check]
    cases wanted == value <;> rfl
  | noAlternative value s =>
    intro record
    rw [List.append_nil, admits_union]
    rfl
  | accepted _ ih =>
    intro record
    rw [admits_union, List.anyM_cons, run_bind (ih record)]
    rfl
  | refused _ _ first others =>
    intro record
    rw [admits_union, List.anyM_cons, run_bind (first record), ← List.append_assoc, ← others,
      admits_union]
    rfl
  | notArray s wrong =>
    intro record
    rw [List.append_nil, admits_notArray _ wrong]
    rfl
  | noElement element s =>
    intro record
    rw [List.append_nil, admits_arrayOf]
    rfl
  | failed _ ih =>
    intro record
    rw [admits_arrayOf, List.allM_cons, run_bind (ih record)]
    rfl
  | passed _ _ first others =>
    intro record
    rw [admits_arrayOf, List.allM_cons, run_bind (first record), ← List.append_assoc, ← others,
      admits_arrayOf]
    rfl

/-- What a recorded check shows is the course of the check, and there is no
other. -/
theorem course_iff {c : Constraint} {value : Value} {s t : σ} {found : Bool}
    {asked : List Question} :
    Course ask depth c value s found asked t ↔
      ∃ verdict : Verdict, verdict.isOk = found ∧
        c.check (recording ask) depth value [] s = ((verdict, asked), t) := by
  have shown : c.admits (recording ask) depth value [] s =
      (((c.check (recording ask) depth value [] s).1.1.isOk,
        (c.check (recording ask) depth value [] s).1.2),
        (c.check (recording ask) depth value [] s).2) := rfl
  constructor
  · intro course
    have same := shown.symm.trans (course.run [])
    exact ⟨_, congrArg (·.1.1) same,
      Prod.ext (Prod.ext rfl (congrArg (·.1.2) same)) (congrArg (·.2) same)⟩
  · rintro ⟨verdict, rfl, checked⟩
    obtain ⟨found, asked', t', course⟩ := course_exists ask depth c value s
    have same := (course.run []).symm.trans shown
    rw [checked] at same
    obtain ⟨⟨rfl, rfl⟩, rfl⟩ := same
    exact course

/-- **Flattening changes no course.**  A constraint and what it is when it is
flattened take the same courses. -/
theorem course_flatten_iff {c : Constraint} {value : Value} {s t : σ} {found : Bool}
    {asked : List Question} :
    Course ask depth c.flatten value s found asked t ↔
      Course ask depth c value s found asked t := by
  have goes : ∀ {c d : Constraint}, c.admits (recording ask) depth value =
      d.admits (recording ask) depth value → Course ask depth c value s found asked t →
      Course ask depth d value s found asked t := by
    intro c d same course
    obtain ⟨found', asked', t', other⟩ := course_exists ask depth d value s
    have equal := (course.run []).symm.trans (congrFun (congrFun same []) s |>.trans (other.run []))
    obtain ⟨⟨rfl, rfl⟩, rfl⟩ := equal
    exact other
  exact ⟨goes (admits_flatten c value), goes (admits_flatten c value).symm⟩

end Stateful

/-- **Flattening makes no difference.**  Splicing the unions among the
alternatives of unions ends in one constraint that has none, in whatever order
they are spliced.  It accepts what the original accepts, with the same effects
of the resolver.  If the resolver keeps a state, both ask it the same questions
in the same order: each alternative up to the first that accepts, each element
up to the first that is refused. -/
theorem flattening_makes_no_difference (c : Constraint) :
    (∀ d, ReflTransGen Splices c d ∧ d.Flat ↔ d = c.flatten) ∧
    (∀ (m : Type → Type) [Monad m] [LawfulMonad m] (ask : Resolver m) (depth : Depth)
      (value : Value), Except.isOk <$> c.flatten.check ask depth value =
        Except.isOk <$> c.check ask depth value) ∧
    ∀ (σ : Type) (ask : Resolver (StateM σ)) (depth : Depth) (value : Value) (s : σ),
      ∃ (verdict verdict' : Verdict) (asked : List Question) (t : σ),
        c.check (recording ask) depth value [] s = ((verdict, asked), t) ∧
        c.flatten.check (recording ask) depth value [] s = ((verdict', asked), t) ∧
        (verdict = .ok () ↔ verdict' = .ok ()) ∧
        Course ask depth c value s verdict.isOk asked t ∧
        Course ask depth c.flatten value s verdict'.isOk asked t := by
  refine ⟨fun d => splices_flat_iff, fun m _ _ ask depth value => admits_flatten c value,
    fun σ ask depth value s => ?_⟩
  obtain ⟨found, asked, t, course⟩ := course_exists ask depth c value s
  obtain ⟨verdict, accepted, checked⟩ := course_iff.mp course
  obtain ⟨verdict', accepted', checked'⟩ := course_iff.mp (course_flatten_iff.mpr course)
  have both : verdict = .ok () ↔ verdict' = .ok () := by
    rw [← isOk_iff, ← isOk_iff, accepted, accepted']
  exact ⟨verdict, verdict', asked, t, checked, checked', both, accepted.symm ▸ course,
    accepted'.symm ▸ course_flatten_iff.mpr course⟩

/-- Rows of flowers or grass, where the flowers are alternatives of their own
and the first union has no alternative at all. -/
def rows : Constraint :=
  .arrayOf (.union [.union [], .union [.kind "Rose", .union [.kind "Tulip"]], .kind "Grass"])

/-- Takes anything for a tulip while the stock lasts, and knows nothing else. -/
def stock : Resolver (StateM Nat) := fun kind _ _ left =>
  if kind == "Tulip" && 0 < left then (.ok (), left - 1) else (.error (.unresolved kind), left)

/-- With one tulip in stock, the first element of a row is asked about up to
the tulips, the second about everything, and the third not at all; the
flattened constraint asks the same. -/
theorem rows_flattened :
    let crops : Value := .array [.bool true, .bool false, .bool true]
    let asked : List Question :=
      [⟨"Rose", .bool true, .deep⟩, ⟨"Tulip", .bool true, .deep⟩, ⟨"Rose", .bool false, .deep⟩,
        ⟨"Tulip", .bool false, .deep⟩, ⟨"Grass", .bool false, .deep⟩]
    rows.flatten = .arrayOf (.union [.kind "Rose", .kind "Tulip", .kind "Grass"]) ∧
    ReflTransGen Splices rows rows.flatten ∧ rows.flatten.Flat ∧
    (Except.isOk <$> rows.flatten.check stock .deep crops) 1 =
      (Except.isOk <$> rows.check stock .deep crops) 1 ∧
    (rows.check (recording stock) .deep crops [] 1).1.2 = asked ∧
    (rows.flatten.check (recording stock) .deep crops [] 1).1.2 = asked := by
  intro crops asked
  obtain ⟨normal, effects, courses⟩ := flattening_makes_no_difference rows
  obtain ⟨spliced, flat⟩ := (normal rows.flatten).mpr rfl
  obtain ⟨_, _, _, _, checked, checked', -⟩ := courses Nat stock .deep crops 1
  have shown : (rows.check (recording stock) .deep crops [] 1).1.2 = asked := rfl
  refine ⟨rfl, spliced, flat, congrFun (effects (StateM Nat) stock .deep crops) 1, shown, ?_⟩
  rw [checked', ← shown, checked]

end Constraint
end NodeSchema
