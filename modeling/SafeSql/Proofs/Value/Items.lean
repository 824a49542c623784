import Mathlib.Tactic.Ring
import SafeSql.Proofs.Results
import SafeSql.Value.Basic

/-!
# Elements of lists

The numbers of a range are made one after another, or not at all where only their count matters.
Both come to the same as going through the list of its elements.

## Main statements

* `Value.mapItems_eq_mapM` — going through a value is going through its elements.
* `Value.hasItems_iff` — a value has elements when the list of them is not empty.
-/

namespace SafeSql.Value

variable {ε α : Type}

theorem mapRange_eq_mapM (f : Value → Except ε α) (step : Int) (left : Nat) (number : Int)
    (done : List α) :
    mapRange f step left number done =
      (((List.range left).map fun (i : Nat) => Value.int (number + i * step)).mapM f).map
        (done.reverse ++ ·) := by
  induction left generalizing number done with
  | zero => simp [mapRange]
  | succ left ih =>
    have later (i : Nat) : number + step + i * step = number + (i + 1 : Nat) * step := by
      push_cast
      ring
    rw [mapRange, List.range_succ_eq_map, List.map_cons, List.mapM_cons]
    simp only [Nat.cast_zero, zero_mul, add_zero, List.map_map, Function.comp_def,
      Nat.succ_eq_add_one, ← later]
    cases f (.int number) with
    | error fault => rfl
    | ok image =>
      simp only [Except.ok_bind, ih]
      cases List.mapM f ((List.range left).map fun (i : Nat) => .int (number + step + i * step)) <;>
        simp

/-- Applying a function to the elements of a value one after another is applying it to the list
of them. -/
theorem mapItems_eq_mapM (f : Value → Except ε α) (value : Value) :
    value.mapItems f = value.items.mapM f := by
  cases value with
  | range start stop step =>
    rw [mapItems, mapRange_eq_mapM, items, rangeItems, List.map_map]
    change _ = List.mapM f ((List.range (rangeLength start stop step)).map
      fun (i : Nat) => .int (start + i * step))
    cases List.mapM f ((List.range (rangeLength start stop step)).map
      fun (i : Nat) => .int (start + i * step)) <;> rfl
  | _ => rfl

theorem hasItems_iff (value : Value) : value.hasItems = true ↔ value.items ≠ [] := by
  cases value with
  | range start stop step => simp [hasItems, items, rangeItems]
  | _ => simp [hasItems]

end SafeSql.Value
