/-!
# Tagged records

A record is a tag, which may be missing, and named entries in a fixed
order.  Setting a name that is present replaces its entry where it stands;
a new name goes to the end.

* `Record.get?`, `Record.set`, `Record.has`, `Record.names` — the record as
  an ordered map;
* `Record.arrange` — puts the entries named in a list first, in the order of
  the list, and keeps the others in their order behind them.
-/

namespace NodeSchema

/-- A tag, if any, and named entries in order. -/
structure Record (α : Type) where
  tag : Option String
  entries : List (String × α)

namespace Record

variable {α : Type}

/-- The record with a tag and no entries. -/
def tagged (tag : String) : Record α := ⟨some tag, []⟩

/-- The record with neither tag nor entries. -/
def untagged : Record α := ⟨none, []⟩

/-- The entry called `name`; `none` means that it is absent. -/
def get? (r : Record α) (name : String) : Option α := r.entries.lookup name

/-- Whether an entry called `name` is present. -/
def has (r : Record α) (name : String) : Bool := (r.get? name).isSome

/-- The names of the entries, in order. -/
def names (r : Record α) : List String := r.entries.map (·.1)

/-- Replaces the first entry called `name`, or appends one. -/
def put (name : String) (value : α) : List (String × α) → List (String × α)
  | [] => [(name, value)]
  | entry :: rest =>
    if entry.1 = name then (name, value) :: rest else entry :: put name value rest

/-- The record with `name` set to `value`, in place if it is present. -/
def set (r : Record α) (name : String) (value : α) : Record α :=
  { r with entries := put name value r.entries }

/-- Sets one name after the other. -/
def setAll (r : Record α) (entries : List (String × α)) : Record α :=
  entries.foldl (fun r entry => r.set entry.1 entry.2) r

/-- For each name of the list in turn the entries so called, then the rest;
within each part the order stays. -/
def arrangeEntries : List String → List (String × α) → List (String × α)
  | [], entries => entries
  | name :: order, entries =>
    entries.filter (·.1 == name) ++ arrangeEntries order (entries.filter (·.1 != name))

/-- The record with its entries arranged to follow `order`. -/
def arrange (r : Record α) (order : List String) : Record α :=
  { r with entries := arrangeEntries order r.entries }

end Record

end NodeSchema
