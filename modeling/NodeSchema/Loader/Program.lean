import NodeSchema.Schema.Audit

/-!
# Loading programs

What a plugin does while it is loaded, as a tree of requests.  Each request
but the last comes with the program that goes on from its answer, so that a
plugin may pass an error on or go on in spite of it, and may decide its next
step by anything it has seen.

A program may also keep notes: a state of its own, which its author chooses
and which outlives the undoing of a failed plugin.

* `Program` — the requests;
* `Program.bind` — one program after another;
* `Fallible` — programs that end early with an error.
-/

namespace NodeSchema

/-- What is known to a loading program: the schema so far, what each plugin
that is loaded handed over, and the plugins that are being loaded, the
innermost first. -/
structure Loader (ω : Type) where
  schema : Schema
  outputs : List (String × ω)
  loading : List String

/-- Programs with notes of type `σ` and plugin outputs of type `ω`. -/
inductive Program (σ ω α : Type) where
  /-- Ends with an answer. -/
  | finish (answer : α)
  /-- Creates a kind unless it is there. -/
  | define (kind : String) (next : Program σ ω α)
  /-- Makes one declaration on a kind. -/
  | declare (kind : String) (declaration : Declaration)
      (next : Except Error Unit → Program σ ω α)
  /-- Finalizes a kind. -/
  | finalize (kind : String) (next : Except Error Unit → Program σ ω α)
  /-- Audits the schema. -/
  | audit (next : Except Error Unit → Program σ ω α)
  /-- Looks at the loader. -/
  | inspect (next : Loader ω → Program σ ω α)
  /-- Uses another plugin. -/
  | use (plugin : String) (next : Except Error ω → Program σ ω α)
  /-- Changes the notes and reads them. -/
  | note (change : σ → σ) (next : σ → Program σ ω α)

namespace Program

variable {σ ω α β : Type}

/-- Goes on from the answer of a program. -/
def bind : Program σ ω α → (α → Program σ ω β) → Program σ ω β
  | finish answer, f => f answer
  | define kind next, f => define kind (next.bind f)
  | declare kind declaration next, f => declare kind declaration fun r => (next r).bind f
  | finalize kind next, f => finalize kind fun r => (next r).bind f
  | audit next, f => audit fun r => (next r).bind f
  | inspect next, f => inspect fun l => (next l).bind f
  | use plugin next, f => use plugin fun r => (next r).bind f
  | note change next, f => note change fun n => (next n).bind f

instance : Monad (Program σ ω) where
  pure := finish
  bind := bind

end Program

/-- Programs that end early with an error. -/
abbrev Fallible (σ ω : Type) := ExceptT Error (Program σ ω)

namespace Fallible

variable {σ ω : Type}

/-- Creates a kind unless it is there, and makes declarations on it up to
the first that is refused. -/
def define (kind : String) (declarations : List Declaration) : Fallible σ ω Unit := do
  ExceptT.lift (.define kind (.finish ()))
  declarations.forM fun declaration => ExceptT.mk (.declare kind declaration .finish)

/-- Uses another plugin. -/
def use (plugin : String) : Fallible σ ω ω := ExceptT.mk (.use plugin .finish)

/-- Looks at the loader. -/
def inspect : Fallible σ ω (Loader ω) := ExceptT.lift (.inspect .finish)

/-- Finalizes a kind. -/
def finalize (kind : String) : Fallible σ ω Unit := ExceptT.mk (.finalize kind .finish)

/-- Audits the schema. -/
def audit : Fallible σ ω Unit := ExceptT.mk (.audit .finish)

end Fallible

end NodeSchema
