import SafeSql.Number.Whole
import SafeSql.Template.Basic
import SafeSql.Text.Utf8

/-!
# Refused values

Why a value has the wrong form for the placeholder it is bound to.

## Main definitions

* `Fragment.Fault` — the causes.
* `Fragment.Fault.reason` — the cause in words, for a kind of placeholder.
-/

namespace SafeSql.Fragment

open Template (Kind)

/-- Why a value has the wrong form for its placeholder. Where a cause names what was given, it
is the shape or the type of the value. -/
inductive Fault
  | unsupported (typeName : String)
  | notScalar (given : String)
  | undecodable (fault : Text.Utf8.Fault)
  | tooLong
  /-- A number that is infinite or undefined stands for a whole number. -/
  | notFinite (shown : String)
  | notNumeric (given : String)
  | emptyName
  | nameNotText (given : String)
  | notList (given : String)
  | notMapping (given : String)
  | emptyMapping
  | notRows (given : String)
  | noRows
  | rowNotList (given : String)
  | notRecords (given : String)
  | noRecords
  | recordNotMapping (given : String)
  | noColumns
  /-- A record has more or fewer columns than the first. -/
  | differentSizes
  | differentKeys
  | notParsed (given : String)
  deriving DecidableEq, Repr

def heading (kind : Kind) : String :=
  let label :=
    match kind.label.toList with
    | [] => []
    | c :: rest => c.toUpper :: rest
  String.ofList label ++ " (" ++ String.ofList [Template.marker, kind.sigil] ++ ")"

def Fault.reason (kind : Kind) : Fault → String
  | .unsupported typeName => heading kind ++ " placeholder got unsupported type " ++ typeName
  | .notScalar given => heading kind ++ " placeholder expects scalar value, " ++ given ++ " given"
  | .undecodable fault => heading kind ++ " placeholder got undecodable bytes: " ++ fault.message
  | .tooLong =>
    heading kind ++ " placeholder value exceeds " ++ toString Whole.maxDigits ++ " digits"
  | .notFinite shown => heading kind ++ " placeholder expects finite value, " ++ shown ++ " given"
  | .notNumeric given => heading kind ++ " placeholder expects numeric value, " ++ given ++ " given"
  | .emptyName => "Empty value for identifier (?n) placeholder"
  | .nameNotText given => heading kind ++ " placeholder expects string, " ++ given ++ " given"
  | .notList given => "Value for IN (?a) placeholder should be array, " ++ given ++ " given"
  | .notMapping given => "SET (?u) placeholder expects mapping, " ++ given ++ " given"
  | .emptyMapping => "Empty mapping for SET (?u) placeholder"
  | .notRows given => "MultiRow (?m) placeholder expects array of arrays, " ++ given ++ " given"
  | .noRows => "Empty array for MultiRow (?m) placeholder"
  | .rowNotList given =>
    "Elements of array passed to MultiRow (?m) placeholder should be arrays; " ++ given ++ " given"
  | .notRecords given =>
    "Key/value (?k) placeholder expects array of mappings, " ++ given ++ " given"
  | .noRecords => "Empty array for key/value (?k) placeholder"
  | .recordNotMapping given =>
    "Rows passed to ?k placeholder should be mappings; " ++ given ++ " given"
  | .noColumns => "First row passed to ?k placeholder has no columns"
  | .differentSizes => "Rows passed to ?k placeholder contained different numbers of elements"
  | .differentKeys => "Rows passed to ?k placeholder contained different keys"
  | .notParsed given => "Parsed (?p) placeholder expects string, " ++ given ++ " given"

end SafeSql.Fragment
