import SafeSql.Failure
import SafeSql.Value.Display
import SafeSql.Value.Mapping

/-!
# Binding

Placeholders are paired with values, by position or by name. All placeholders are checked before
a value is looked at, so that a mismatch leaves nothing half done.

## Main definitions

* `Binding.positional` — one argument for each placeholder, in order.
* `Binding.named` — one value for each name, however often it is used.
-/

namespace SafeSql

abbrev Binding := Template.Placeholder × Value

namespace Binding

open Template (Placeholder)

def namedTokens (found : List Placeholder) : List String :=
  (found.filter (·.name.isSome)).map fun p => String.ofList p.token

/-- The offsets of the placeholders that have none. -/
def unnamedOffsets (found : List Placeholder) : List Nat :=
  (found.filter (·.name.isNone)).map (·.offset)

/-- The names of the placeholders, each once, in order of first use. -/
def names (found : List Placeholder) : List String :=
  (found.filterMap (·.name)).eraseDups

/-- Pairs each placeholder with the argument at its position. -/
def positional (template : String) (found : List Placeholder) (arguments : List Value) :
    Except Fault (List Binding) :=
  let named := namedTokens found
  if !named.isEmpty then .error (.namesWithoutValues named template)
  else if found.length ≠ arguments.length then
    .error (.differentCounts arguments.length found.length template)
  else .ok (found.zip arguments)

def missing (found : List Placeholder) (values : Mapping) : List String :=
  (names found).filter fun name => !values.contains (.text name)

def unused (found : List Placeholder) (values : Mapping) : List Value :=
  values.keys.filter fun key => !(names found).any fun name => (Value.text name).same key

def keyTexts : List Value → Except Failure (List String)
  | [] => .ok []
  | key :: rest => do
    let text ← writable key.plain?
    let texts ← keyTexts rest
    pure (String.ofList text :: texts)

/-- The placeholders with the values of their names; a placeholder without either is left out. -/
def pairs (found : List Placeholder) (values : Mapping) : List Binding :=
  found.filterMap fun p => do
    let name ← p.name
    let value ← values.find? (.text name)
    pure (p, value)

/-- Pairs each placeholder with the value of its name. -/
def named (template : String) (found : List Placeholder) (arguments : Value) :
    Except Failure (List Binding) :=
  match arguments with
  | .map values _ => do
    let offsets := unnamedOffsets found
    if !offsets.isEmpty then
      throw (.query (.of (.binding (.unnamed offsets template)) none))
    let unusedTexts ← keyTexts (unused found values)
    let missingNames := missing found values
    if missingNames.isEmpty && unusedTexts.isEmpty then pure (pairs found values)
    else throw (.query (.of (.binding (.unmatched missingNames unusedTexts template)) none))
  | other => throw (.query (.of (.binding (.notMapping other.typeName template)) none))

end Binding

end SafeSql
