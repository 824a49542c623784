import SafeSql.Value.Equality

/-!
# Mappings

A mapping is the list of its entries in order of insertion. Keys are told apart by equality of
values: a key that is put again keeps its place and its first spelling and takes the new value.

## Main definitions

* `Mapping.find?` — the value of a key.
* `Mapping.answer?` — what a mapping answers for a key that it may not hold.
* `Mapping.insert` — the mapping with a key put to a value.
* `Mapping.ofList` — the mapping of entries put one after another.
* `Mapping.erase` — the mapping without a key.
-/

namespace SafeSql

abbrev Mapping := List (Value × Value)

namespace Mapping

def find? (entries : Mapping) (key : Value) : Option Value :=
  (List.find? (fun entry => entry.1.same key) entries).map (·.2)

/-- What a mapping answers for a key: the value of the key, or else what it makes for one that it
does not hold. -/
def answer? (entries : Mapping) (missing : Value.Missing) (key : Value) : Option Value :=
  (entries.find? key).or (missing.map (·.2))

def contains (entries : Mapping) (key : Value) : Bool :=
  entries.any fun entry => entry.1.same key

/-- The mapping with the key put to the value: in the place of an equal key, else at the end. -/
def insert : Mapping → Value → Value → Mapping
  | [], key, value => [(key, value)]
  | entry :: rest, key, value =>
    if entry.1.same key then (entry.1, value) :: rest else entry :: insert rest key value

def ofList (entries : List (Value × Value)) : Mapping :=
  entries.foldl (fun mapping entry => mapping.insert entry.1 entry.2) []

def erase (entries : Mapping) (key : Value) : Mapping :=
  entries.filter fun entry => !entry.1.same key

def keys (entries : Mapping) : List Value :=
  entries.map (·.1)

end Mapping

end SafeSql
