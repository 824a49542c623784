/-!
# Mismatched arguments

Why the placeholders of a template and the supplied arguments do not go together.

## Main definitions

* `Binding.Fault` — the causes.
* `Binding.Fault.message` — the cause in words.
-/

namespace SafeSql.Binding

inductive Fault
  /-- Placeholders have names, the arguments have none. -/
  | namesWithoutValues (tokens : List String) (template : String)
  | differentCounts (arguments placeholders : Nat) (template : String)
  | notMapping (typeName : String) (template : String)
  | unnamed (offsets : List Nat) (template : String)
  | unmatched (missing unused : List String) (template : String)
  deriving DecidableEq, Repr

def complaints (missing unused : List String) : List String :=
  (if missing.isEmpty then [] else ["missing values for " ++ ", ".intercalate missing])
    ++ (if unused.isEmpty then [] else ["unused arguments " ++ ", ".intercalate unused])

def Fault.message : Fault → String
  | .namesWithoutValues tokens template =>
    "Named placeholders (" ++ ", ".intercalate tokens ++ ") require named arguments in ["
      ++ template ++ "]"
  | .differentCounts arguments placeholders template =>
    "Number of args (" ++ toString arguments ++ ") doesn't match number of placeholders ("
      ++ toString placeholders ++ ") in [" ++ template ++ "]"
  | .notMapping typeName template =>
    "Named arguments must be a mapping, " ++ typeName ++ " given for [" ++ template ++ "]"
  | .unnamed offsets template =>
    "Positional placeholders at offsets " ++ ", ".intercalate (offsets.map toString)
      ++ " cannot be bound by name in [" ++ template ++ "]"
  | .unmatched missing unused template =>
    "Named arguments don't match placeholders (" ++ "; ".intercalate (complaints missing unused)
      ++ ") in [" ++ template ++ "]"

end SafeSql.Binding
