import SafeSql.Failure
import SafeSql.Value.Mapping

/-!
# Elements of values

What a value yields when it is gone through, and the same as a list of its own, whose length has
to be a number that lists can have.

## Main definitions

* `Value.elements` — what a value yields when it is gone through.
* `Value.checkSize` — whether a list can be that long.
* `Value.collect` — the list.
-/

namespace SafeSql

namespace Value

/-- What a value yields when it is gone through: the characters of a text, the numbers of bytes,
the keys of a mapping, the elements of a list. -/
def elements (value : Value) : Except Failure (List Value) :=
  match value with
  | .text s | .raw s => .ok (s.toList.map fun c => .text (String.ofList [c]))
  | .bytes data => .ok (byteItems data)
  | .map entries _ => .ok (Mapping.keys entries)
  | other =>
    if other.shape? = some .list then .ok other.items
    else .error (.notIterable other.fullTypeName)

def countLimit : Nat := 9223372036854775807

/-- Whether a list can hold what a value yields. Only a range can yield too much. -/
def checkSize : Value → Except Failure Unit
  | .range start stop step =>
    if countLimit < rangeLength start stop step then .error .tooManyToCount else .ok ()
  | _ => .ok ()

def collect (value : Value) : Except Failure (List Value) := do
  value.checkSize
  value.elements

end Value

end SafeSql
