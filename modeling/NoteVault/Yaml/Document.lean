import NoteVault.Yaml.Literal
import NoteVault.Yaml.Node

/-!
# The value of a YAML document

Sequences become lists and mappings objects, plain scalars what they mean and all
others texts. A key has to be a scalar. Under the key `<<` a mapping takes over the
entries of another mapping, or of several, the first of which wins; its own entries
win over all of them.

A document with more than one fault shows the outermost one, and of those the first:
a collection is filled before the collections in it are.

## Main definitions

* `Built` — what is built, or the outermost fault.
* `Node.build` — the value of a node.
* `readYaml` — the value of a document.
-/

namespace NoteVault.Yaml

/-- A value that is being built, or the outermost fault and its depth. -/
abbrev Built (α : Type) := Except (Nat × YamlError) α

namespace Built

/-- Two things built one after the other. Of two faults the outer one counts, and the
first one at the same depth. -/
def both {α β : Type} : Built α → Built β → Built (α × β)
  | .ok a, .ok b => .ok (a, b)
  | .ok _, .error e => .error e
  | .error e, .ok _ => .error e
  | .error (m, e), .error (n, f) => if n < m then .error (n, f) else .error (m, e)

/-- Something put in front of a list, both being built. -/
def cons {α : Type} (a : Built α) (as : Built (List α)) : Built (List α) :=
  (both a as).map fun (a, as) => a :: as

/-- Two lists one after the other, both being built. -/
def append {α : Type} (as bs : Built (List α)) : Built (List α) :=
  (both as bs).map fun (as, bs) => as ++ bs

end Built

namespace Node

/-- A fault of a document that does not fit together. -/
def unfit {α : Type} (depth : Nat) : Built α := .error (depth, .malformed)

/-- The key that a node is, unless it brings in other entries. -/
def buildKey (depth : Nat) : Node → Built Key
  | .scalar true text =>
    if text = ['='] then .ok (.string text)
    else
      match plainValue text with
      | .ok v =>
        match v.toKey? with
        | some k => .ok k
        | none => unfit depth
      | .error e => .error (depth, e)
  | .scalar false text => .ok (.string text)
  | _ => unfit depth

/-- Whether a key brings in other entries. -/
def isMergeKey : Node → Bool
  | .scalar true text => text = ['<', '<']
  | _ => false

mutual
/-- The value of a node in a collection at some depth. -/
def build (depth : Nat) : Node → Built Value
  | .scalar true text => (plainValue text).mapError ((depth, ·))
  | .scalar false text => .ok (.string text)
  | .sequence items => (buildItems (depth + 1) items).map .list
  | .mapping entries =>
    let (merged, own) := buildEntries (depth + 1) entries
    (Built.append merged own).map fun entries => .object (Entries.ofList entries)

/-- The values of the items of a sequence. -/
def buildItems (depth : Nat) : List Node → Built (List Value)
  | [] => .ok []
  | item :: items => Built.cons (build depth item) (buildItems depth items)

/-- The entries that a mapping takes over, and its own. -/
def buildEntries (depth : Nat) :
    List (Node × Node) → Built (List (Key × Value)) × Built (List (Key × Value))
  | [] => (.ok [], .ok [])
  | (key, value) :: entries =>
    let (merged, own) := buildEntries depth entries
    if isMergeKey key then (Built.append (mergedEntries depth value) merged, own)
    else (merged, Built.cons (Built.both (buildKey depth key) (build depth value)) own)

/-- The entries that are taken over from a mapping or the mappings of a sequence. -/
def mergedEntries (depth : Nat) : Node → Built (List (Key × Value))
  | .mapping entries =>
    let (merged, own) := buildEntries depth entries
    Built.append merged own
  | .sequence items => mergedItems depth items
  | .scalar _ _ => unfit depth

/-- The entries that are taken over from mappings; those of the last come first, so that
the others win over them. -/
def mergedItems (depth : Nat) : List Node → Built (List (Key × Value))
  | [] => .ok []
  | .mapping entries :: items =>
    let (merged, own) := buildEntries depth entries
    Built.append (mergedItems depth items) (Built.append merged own)
  | _ :: _ => unfit depth
end

end Node

/-- The value of a document; without any node it is missing. -/
def readYaml (s : Text) : Except YamlError Value :=
  match (Token.scan? s).bind Node.ofTokens? with
  | none => .error .malformed
  | some none => .ok .null
  | some (some node) => (node.build 0).mapError (·.2)

end NoteVault.Yaml
