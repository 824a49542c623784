import SafeSql.Value.Elements

/-!
# Whitelists

Some input cannot be made safe by a placeholder: columns to sort by, directions, the fields that
a form may set. Here such input is restricted to an allowed set before it reaches a template.

## Main definitions

* `Whitelist.choose` — the allowed value that equals a given one.
* `Whitelist.restrict` — a mapping with only the allowed keys.
* `Whitelist.restrictRows` — the same for every row of a list.
-/

namespace SafeSql.Whitelist

/-- The first of the candidates that equals a value, else the fallback. A candidate that cannot be
compared with the value ends the search. -/
def firstSame (value fallback : Value) : List Value → Except Failure Value
  | [] => .ok fallback
  | candidate :: rest =>
    if candidate.clash value then .error .signalingNan
    else if candidate.same value then .ok candidate
    else firstSame value fallback rest

/-- The number of a range that equals a value, found without going through the range. -/
def inRange? (value : Value) (start stop step : Int) : Option Int := do
  let limit := max start.natAbs stop.natAbs
  let number ← value.number?.bind (Exact.toIntWithin? limit)
  let distance := number - start
  if distance % step = 0 && 0 ≤ distance / step
      && distance / step < Value.rangeLength start stop step then pure number
  else none

/-- The first of the allowed values that equals the given one, else the fallback. -/
def choose (value allowed fallback : Value) : Except Failure Value :=
  match allowed with
  | .range start stop step =>
    if allowed.hasItems && value.isSignaling then .error .signalingNan
    else .ok (((inRange? value start stop step).map .int).getD fallback)
  | _ => do firstSame value fallback (← allowed.elements)

/-- The entries with an allowed key, in order. -/
def keep (allowed : List Value) (entries : Mapping) : Mapping :=
  entries.filter fun entry => allowed.any (·.same entry.1)

def lookable (values : List Value) : Except Failure (List Value) :=
  match Value.itemLookupFault? values with
  | some fault => .error (.lookup fault)
  | none => .ok values

/-- The mapping with only the keys among the allowed ones. -/
def restrictTo (allowed : List Value) (data : Value) : Except Failure Value := do
  let keys ← lookable allowed
  match data with
  | .map entries _ => pure (.map (keep keys entries) none)
  | other => throw (.noEntries other.fullTypeName)

def restrict (data allowed : Value) : Except Failure Value := do
  restrictTo (← allowed.elements) data

def restrictRows (rows allowed : Value) : Except Failure Value := do
  let keys ← allowed.collect
  match rows with
  | .range .. => .list <$> rows.mapItems (restrictTo keys)
  | _ => return .list (← (← rows.elements).mapM (restrictTo keys))

end SafeSql.Whitelist
