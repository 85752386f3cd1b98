import NodeSchema.Error

/-!
# Events

What is reported while a schema grows: the kinds that are created and
finalized, the plugins that start and fail, and the kinds that nothing can
use.
-/

namespace NodeSchema

/-- How important an event is. -/
inductive Level where
  | trace
  | debug
  | warn
  deriving DecidableEq, Repr

/-- A kind is created, or finalized with a number of fields; a plugin
starts, or fails and is undone; a kind can neither be built nor is it
referenced. -/
inductive Event where
  | created (kind : String)
  | finalized (kind : String) (fields : Nat)
  | starting (plugin : String)
  | undone (plugin : String) (error : Error)
  | unused (kind : String)
  deriving DecidableEq, Repr

namespace Event

/-- How important the event is. -/
def level : Event → Level
  | created _ => .trace
  | finalized _ _ | starting _ | undone _ _ => .debug
  | unused _ => .warn

/-- What happened, in words. -/
def message : Event → String
  | created _ => "created kind"
  | finalized _ _ => "finalized kind"
  | starting _ => "initializing plugin"
  | undone _ _ => "plugin failed, rolling back"
  | unused _ => "kind is not buildable and nothing references it"

/-- To what it happened: named details. -/
def details : Event → List (String × String)
  | created kind => [("kind", kind)]
  | finalized kind fields => [("kind", kind), ("fields", toString fields)]
  | starting plugin => [("plugin", plugin)]
  | undone plugin error => [("plugin", plugin), ("error", error.message)]
  | unused kind => [("kind", kind)]

end Event

end NodeSchema
