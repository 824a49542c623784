import SafeSql.Fragment.Collection
import SafeSql.Proofs.Value.Items

/-!
# Accepted values

What a value is, and how its fragment is put together, when the value is accepted for a
placeholder: one inversion for each function that writes.

## Main statements

* `literal_inv`, `identifier_inv` — literals and written names.
* `inList_inv`, `setClause_inv`, `multiRow_inv`, `keyValueRows_inv` — collections.
-/

namespace SafeSql.Fragment

variable {d : Dialect} {value : Value} {text : List Char}

theorem literal_inv (h : literal d value = .ok text) :
    (value = .null ∧ text = null) ∨
      value ≠ .null ∧ ∃ content, scalarText value = .ok content ∧
        text = d.quoteLiteral content := by
  obtain ⟨shape, known, h⟩ := Except.bind_eq_ok.1 h
  by_cases missing : value = .null
  · subst missing
    obtain rfl : shape = .null := by cases known; rfl
    exact .inl ⟨rfl, (Except.ok.inj h).symm⟩
  · refine .inr ⟨missing, ?_⟩
    cases shape with
    | null => cases value <;> simp_all [shapeFor, Value.shape?]
    | list | mapping => contradiction
    | string | number | raw =>
      obtain ⟨content, found, written⟩ := Except.bind_eq_ok.1 h
      exact ⟨content, found, (Except.ok.inj written).symm⟩

theorem identifier_inv (h : identifier d value = .ok text) :
    ∃ name, value.text? = some name ∧ name ≠ [] ∧ text = d.quoteIdentifier name := by
  have named (s : String) (h : (if s.isEmpty then .error (refuse .identifier value .emptyName)
      else .ok (d.quoteIdentifier s.toList)) = Except.ok text) :
      s.toList ≠ [] ∧ text = d.quoteIdentifier s.toList := by
    split at h
    · contradiction
    next nonempty => exact ⟨by simpa using nonempty, (Except.ok.inj h).symm⟩
  cases value with
  | text s | raw s => exact ⟨s.toList, rfl, named s h⟩
  | _ => contradiction

theorem inList_inv (h : inList d value = .ok text) :
    (value.items = [] ∧ text = null) ∨
      value.items ≠ [] ∧ ∃ texts, value.items.mapM (literal d) = .ok texts ∧
        text = commaJoin texts := by
  obtain ⟨shape, -, body⟩ := Except.bind_eq_ok.1 h
  split at body
  · split at body
    next empty => exact .inl ⟨empty, (Except.ok.inj body).symm⟩
    next nonempty =>
      obtain ⟨texts, all, written⟩ := Except.bind_eq_ok.1 body
      exact .inr ⟨nonempty, texts, all, (Except.ok.inj written).symm⟩
  · contradiction

theorem assignment_inv {entry : Value × Value} (h : assignment d entry = .ok text) :
    ∃ name content, identifier d entry.1 = .ok name ∧ literal d entry.2 = .ok content ∧
      text = name ++ ['='] ++ content := by
  obtain ⟨name, named, h⟩ := Except.bind_eq_ok.1 h
  obtain ⟨content, held, h⟩ := Except.bind_eq_ok.1 h
  exact ⟨name, content, named, held, (Except.ok.inj h).symm⟩

theorem setClause_inv (h : setClause d value = .ok text) :
    ∃ entries missing texts, value = .map entries missing ∧ entries ≠ [] ∧
      entries.mapM (assignment d) = .ok texts ∧ text = commaJoin texts := by
  obtain ⟨shape, -, body⟩ := Except.bind_eq_ok.1 h
  split at body
  · contradiction
  next entries missing nonempty =>
    obtain ⟨texts, all, written⟩ := Except.bind_eq_ok.1 body
    exact ⟨entries, missing, texts, rfl, by simpa using nonempty, all,
      (Except.ok.inj written).symm⟩
  · contradiction

theorem row_inv (h : row d value = .ok text) :
    ∃ inner, inList d value = .ok inner ∧ text = ['('] ++ inner ++ [')'] := by
  obtain ⟨shape, -, body⟩ := Except.bind_eq_ok.1 h
  split at body
  · obtain ⟨inner, listed, written⟩ := Except.bind_eq_ok.1 body
    exact ⟨inner, listed, (Except.ok.inj written).symm⟩
  · contradiction

theorem multiRow_inv (h : multiRow d value = .ok text) :
    ∃ texts, value.items ≠ [] ∧ value.items.mapM (row d) = .ok texts ∧ text = commaJoin texts := by
  obtain ⟨shape, -, body⟩ := Except.bind_eq_ok.1 h
  split at body
  · rw [Value.mapItems_eq_mapM] at body
    split at body
    · contradiction
    next some_rows =>
      obtain ⟨texts, all, written⟩ := Except.bind_eq_ok.1 body
      have nonempty := (Value.hasItems_iff value).1 (by simpa using some_rows)
      exact ⟨texts, nonempty, all, (Except.ok.inj written).symm⟩
  · contradiction

theorem keyValueRows_inv (h : keyValueRows d value = .ok text) :
    ∃ first others rest names rows, value.items.mapM record = .ok (first :: others) ∧
      first.entries.keys ≠ [] ∧ others.mapM (cells first.entries.keys) = .ok rest ∧
      first.entries.keys.mapM (identifier d) = .ok names ∧
      multiRow d (.list ((first.entries.map (·.2) :: rest).map .list)) = .ok rows ∧
      text = ['('] ++ commaJoin names ++ [')'] ++ " VALUES ".toList ++ rows := by
  obtain ⟨shape, -, body⟩ := Except.bind_eq_ok.1 h
  split at body
  · obtain ⟨-, -, body⟩ := Except.bind_eq_ok.1 body
    obtain ⟨records, read, body⟩ := Except.bind_eq_ok.1 body
    rw [Value.mapItems_eq_mapM] at read
    split at body
    · contradiction
    next first others =>
      dsimp only at body
      split at body
      · contradiction
      next some_columns =>
        obtain ⟨rest, cut, body⟩ := Except.bind_eq_ok.1 body
        obtain ⟨names, named, body⟩ := Except.bind_eq_ok.1 body
        obtain ⟨rows, written, body⟩ := Except.bind_eq_ok.1 body
        exact ⟨first, others, rest, names, rows, read, by simpa using some_columns, cut, named,
          written, (Except.ok.inj body).symm⟩
  · contradiction

end SafeSql.Fragment
