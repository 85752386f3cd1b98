import NodeSchema.Bundle.Jsx
import NodeSchema.Proofs.Loader.Running
import NodeSchema.Proofs.Schema.Tame

/-!
# The bundled schema

Loading the bundled plugins succeeds, and the schema that it leaves behind is
the one that the tables of declarations give.

* `Bundle.requests` — the requests of a table;
* `Bundle.jsxSchema_eq` — what the bundled schema is;
* `Bundle.find?_jsxSchema` — and that it has the kinds of the tables as these
  declare them;
* `Bundle.jsxSchema_reachable`, `Bundle.jsxSchema_tame` — it is made by
  requests, and its defaults make no nodes.
-/

namespace NodeSchema.Bundle

/-- The requests that make the declarations of a table. -/
def requests (table : List (String × List Declaration)) : List Schema.Request :=
  table.flatMap fun entry => .define entry.1 :: entry.2.map (.declare entry.1)

variable {σ : Type} {useWith : String → Session σ Output → Session σ Output × Except Error Output}
  {s t : Session σ Output}

/-- A table of which all declarations are taken. -/
theorem declareAll_ok {table : List (String × List Declaration)}
    (h : (declareAll table).run.run useWith s = (t, .ok ())) :
    t.loader = { s.loader with schema := (requests table).foldl Schema.after s.loader.schema } :=
  Fallible.run_forM_ok (fun _ _ _ => Fallible.run_define_ok) h

/-- The shared defaults, if the plugin that hands them out succeeds. -/
theorem useDefaults_ok {names : Names} {d : Defaults}
    (h : (useDefaults names).run.run useWith s = (t, .ok d)) :
    useWith names.shared s = (t, .ok (.defaults d)) := by
  obtain ⟨u, output, used, returned⟩ := Fallible.run_bind_ok h
  cases output with
  | defaults handed =>
    obtain ⟨rfl, same⟩ := Prod.mk.inj returned
    rw [← Except.ok.inj same]
    exact Fallible.run_use_ok used
  | nothing => cases (Prod.mk.inj returned).2
  | value _ => cases (Prod.mk.inj returned).2

/-- Using the plugin of the shared defaults hands over the standard ones and
changes nothing else. -/
theorem use_shared {names : Names} {library : List (Plugin σ Output)} {output : Output}
    (found : library.find? (·.name == names.shared) = some (shared names))
    (absent : s.loader.outputs.lookup names.shared = none)
    (h : Plugin.use library names.shared s = (t, .ok output)) :
    output = .defaults .standard ∧
      t.loader = { s.loader with
        outputs := (names.shared, .defaults .standard) :: s.loader.outputs } := by
  obtain ⟨p, u, found', ran, left⟩ := Plugin.use_ok h absent
  obtain rfl := Option.some.inj (found.symm.trans found')
  obtain ⟨rfl, same⟩ := Prod.mk.inj ran
  obtain rfl := Except.ok.inj same
  exact ⟨rfl, left⟩

/-- Using the plugin of the base kinds first makes the declarations of their
table; the shared defaults are loaded with it. -/
theorem use_base {library : List (Plugin σ Output)} {output : Output}
    (foundBase : library.find? (·.name == "Base") = some (base .plain))
    (foundShared : (Plugin.others library "Base").find? (·.name == "Shared") = some (shared .plain))
    (fresh : s.loader.outputs = []) (h : Plugin.use library "Base" s = (t, .ok output)) :
    t.loader = ⟨(requests (baseKinds .standard)).foldl Schema.after s.loader.schema,
      [("Base", output), ("Shared", .defaults .standard)], s.loader.loading⟩ := by
  obtain ⟨p, u, found, ran, left⟩ := Plugin.use_ok h (by rw [fresh]; rfl)
  obtain rfl := Option.some.inj (foundBase.symm.trans found)
  obtain ⟨v, d, used, rest⟩ := Fallible.run_bind_ok ran
  have entered : (s.enter "Base").loader.outputs = [] := fresh
  have absent : (s.enter "Base").loader.outputs.lookup "Shared" = none := by rw [entered]; rfl
  obtain ⟨handed, withShared⟩ := @use_shared _ _ _ .plain _ _ foundShared absent (useDefaults_ok used)
  obtain rfl := Output.defaults.inj handed
  obtain ⟨w, ⟨⟩, declared, returned⟩ := Fallible.run_bind_ok rest
  obtain ⟨rfl, -⟩ := Prod.mk.inj returned
  have schema : (s.enter "Base").loader.schema = s.loader.schema := rfl
  rw [left, declareAll_ok declared, withShared]
  dsimp only
  rw [entered, schema]
  rfl

/-- **The bundled schema** is what the tables of the base and JSX kinds make
of the empty schema. -/
theorem jsxSchema_eq : jsxSchema =
    (requests (baseKinds .standard ++ jsxKinds .standard)).foldl Schema.after .empty := by
  have loads : (load .plain Names.plain.jsx).2.isOk = true := by decide +kernel
  rcases loaded : load .plain Names.plain.jsx with ⟨t, error | output⟩
  · rw [loaded] at loads
    cases loads
  obtain ⟨p, u, found, ran, left⟩ := Plugin.use_ok loaded rfl
  obtain rfl : jsx .plain = p := by simpa [library, shared, base, jsx, Names.plain] using found
  obtain ⟨v, handed, used, rest⟩ := Fallible.run_bind_ok ran
  have withBase := use_base (by simp [library, Plugin.others, shared, base, jsx, Names.plain])
    (by simp [library, Plugin.others, shared, base, jsx, Names.plain]) rfl used
  obtain ⟨w, d, used, rest⟩ := Fallible.run_bind_ok rest
  -- the shared defaults are there already, so they are not loaded again
  have cached : Plugin.use (Plugin.others (library .plain) "Jsx") "Shared" v =
      (v, .ok (.defaults .standard)) :=
    Plugin.use_of_loaded (by rw [withBase]; rfl)
  obtain ⟨rfl, same⟩ := Prod.mk.inj (cached.symm.trans (useDefaults_ok used))
  obtain rfl := Output.defaults.inj (Except.ok.inj same)
  obtain ⟨x, ⟨⟩, declared, returned⟩ := Fallible.run_bind_ok rest
  obtain ⟨rfl, -⟩ := Prod.mk.inj returned
  have blank : ((⟨.empty, (), []⟩ : Session Unit Output).enter Names.plain.jsx).loader.schema =
      .empty := rfl
  rw [jsxSchema, loaded, left]
  dsimp only
  rw [declareAll_ok declared, withBase]
  dsimp only
  rw [blank, requests, requests, requests, List.flatMap_append, List.foldl_append]

theorem jsxSchema_reachable : jsxSchema.Reachable := by
  rw [jsxSchema_eq]
  exact Schema.Reachable.empty.foldl _

/-- The kind that an entry of a table declares. -/
def tabled (entry : String × List Declaration) : Kind :=
  entry.2.foldl (fun k declaration => (k.declare declaration).1) (.fresh entry.1)

/-- Several declarations on one kind, seen from the names. -/
theorem find?_declarations (s : Schema) (declared : String) (declarations : List Declaration)
    (name : String) :
    ((declarations.map (.declare declared)).foldl Schema.after s).find? name =
      (s.find? name).map fun k => if name = declared then
        declarations.foldl (fun k declaration => (k.declare declaration).1) k else k := by
  induction declarations generalizing s with
  | nil => simp
  | cons declaration rest ih =>
    rw [List.map_cons, List.foldl_cons, ih, Schema.after, Schema.find?_declare, Option.map_map]
    congr 1
    funext k
    by_cases same : name = declared <;> simp [same]

/-- What one entry adds to a schema that does not have its name. -/
theorem find?_entry {entry : String × List Declaration} (s : Schema)
    (new : s.find? entry.1 = none) (name : String) :
    ((requests [entry]).foldl Schema.after s).find? name =
      if name = entry.1 then some (tabled entry) else s.find? name := by
  have single : requests [entry] = .define entry.1 :: entry.2.map (.declare entry.1) := by
    simp [requests]
  rw [single, List.foldl_cons, find?_declarations, Schema.after, Schema.find?_define]
  by_cases same : name = entry.1
  · subst same
    simp [new, tabled]
  · simp [same]

/-- What a table of distinct names adds to a schema that has none of them. -/
theorem find?_requests {table : List (String × List Declaration)}
    (distinct : (table.map (·.1)).Nodup) (s : Schema)
    (new : ∀ entry ∈ table, s.find? entry.1 = none) (name : String) :
    ((requests table).foldl Schema.after s).find? name =
      (s.find? name).or ((table.find? (·.1 == name)).map tabled) := by
  induction table generalizing s with
  | nil => simp [requests]
  | cons entry rest ih =>
    obtain ⟨unlisted, distinct⟩ := List.nodup_cons.mp distinct
    have first := find?_entry s (new entry List.mem_cons_self)
    have split : requests (entry :: rest) = requests [entry] ++ requests rest := by
      simp [requests]
    rw [split, List.foldl_append, ih distinct]
    · rw [first]
      by_cases same : name = entry.1
      · subst same
        simp [new entry List.mem_cons_self]
      · simp [same, Ne.symm same]
    · intro other listed
      have differs : other.1 ≠ entry.1 :=
        fun same => unlisted (List.mem_map.mpr ⟨other, listed, same⟩)
      rw [first, if_neg differs]
      exact new other (List.mem_cons_of_mem entry listed)

/-- The bundled schema finds the kinds of its tables as these declare them. -/
theorem find?_jsxSchema (name : String) : jsxSchema.find? name =
    ((baseKinds .standard ++ jsxKinds .standard).find? (·.1 == name)).map tabled := by
  rw [jsxSchema_eq, find?_requests (by decide +kernel) .empty (fun _ _ => rfl)]
  rfl

/-- The declarations that a table makes are in it. -/
theorem mem_requests {table : List (String × List Declaration)} {kind : String}
    {declaration : Declaration} (listed : .declare kind declaration ∈ requests table) :
    ∃ entry ∈ table, entry.1 = kind ∧ declaration ∈ entry.2 := by
  obtain ⟨entry, inTable, listed⟩ := List.mem_flatMap.mp listed
  rcases List.mem_cons.mp listed with other | listed
  · cases other
  · obtain ⟨declared, member, same⟩ := List.mem_map.mp listed
    obtain ⟨rfl, rfl⟩ := Schema.Request.declare.inj same
    exact ⟨entry, inTable, rfl, member⟩

theorem jsxSchema_tame : jsxSchema.Tame := by
  have null : Defaults.standard.null.Tame := Default.tame_constant Value.nodeFree_null
  have no : Defaults.standard.no.Tame := Default.tame_constant (Value.nodeFree_bool false)
  have emptyArray : Defaults.standard.emptyArray.Tame :=
    Default.tame_constant (Value.nodeFree_array fun _ listed => by cases listed)
  have brackets : (Default.computed fun node => .bool (accessNeedsBrackets node)).Tame :=
    Default.tame_computed fun node => Value.nodeFree_bool _
  have opening : ∀ field, (fromOpening field).Tame := fun field =>
    Default.tame_copied _ Value.nodeFree_null
  have each : ∀ entry ∈ baseKinds .standard ++ jsxKinds .standard,
      ∀ declaration ∈ entry.2, declaration.Tame := by
    simp [baseKinds, jsxKinds, Declaration.Tame, null, no, emptyArray, brackets, opening]
  rw [jsxSchema_eq]
  refine Schema.Tame.empty.foldl _ fun kind declaration listed => ?_
  obtain ⟨entry, inTable, -, declared⟩ := mem_requests listed
  exact each entry inTable declaration declared

end NodeSchema.Bundle
