import Mathlib.Data.List.Nodup
import SafeSql.Proofs.Fragment.Accepted
import SafeSql.Proofs.Fragment.Reader
import SafeSql.Proofs.Value.Mapping

/-!
# Collections are read back

The fragment of a list, of a mapping or of a list of lists is read back as the elements that it
was written for, each as its text or as null. No text inside of an element can be taken for a
separator or for `NULL`, so that a fragment says how many elements there are and what each is.

## Main definitions

* `content`, `contents`, `entryContent` — what scalars, lists and entries are read back as.

## Main statements

* `collections_readBack` — fragments of collections are read back.
-/

namespace SafeSql.Fragment

open Reader (Takes Unquoted)

/-- What a scalar is read back as: nothing for null, else its text. -/
def content : Value → Except Failure (Option (List Char))
  | .null => .ok none
  | value => (scalarText value).map some

/-- What a list is read back as; one without elements is a single null. -/
def contents : List Value → Except Failure (List (Option (List Char)))
  | [] => .ok [none]
  | items => items.mapM content

/-- What an entry of a mapping is read back as: the name of its key and the content. -/
def entryContent (entry : Value × Value) : Except Failure (List Char × Option (List Char)) :=
  match entry.1.text? with
  | some name => (content entry.2).map fun held => (name, held)
  | none => .error (refuse .identifier entry.1 (.nameNotText entry.1.shapeName))

/-! ## Readers of collections -/

namespace Reader

/-- A list of literals. -/
def list (d : Dialect) : Reader (List (Option (List Char))) :=
  separated (literal d)

/-- Assignments of literals to names. -/
def assignments (d : Dialect) : Reader (List (List Char × Option (List Char))) :=
  separated ((identifier d).pair '=' (literal d))

/-- Lists of literals, each between parentheses. -/
def rows (d : Dialect) : Reader (List (List (Option (List Char)))) :=
  separated (enclosed (list d))

end Reader

/-! ## Elements -/

/-- What is written element by element is read element by element. -/
theorem takes_mapM {α β : Type} {reader : Reader β} {write : α → Except Failure (List Char)}
    {held : α → Except Failure β}
    (each : ∀ a text, write a = .ok text → ∃ b, held a = .ok b ∧ reader.Takes text b)
    {as : List α} {texts : List (List Char)} (h : as.mapM write = .ok texts) :
    ∃ bs, as.mapM held = .ok bs ∧ List.Forall₂ reader.Takes texts bs := by
  have written := Except.mapM_eq_ok.1 h
  clear h
  induction written with
  | nil => exact ⟨[], rfl, .nil⟩
  | @cons a text as texts first later ih =>
    obtain ⟨b, holds, takes⟩ := each a text first
    obtain ⟨bs, all_hold, all_take⟩ := ih
    refine ⟨b :: bs, ?_, .cons takes all_take⟩
    simp [holds, all_hold]

theorem ne_nil_of_mapM {α β : Type} {f : α → Except Failure β} {as : List α} {bs : List β}
    (nonempty : as ≠ []) (h : as.mapM f = .ok bs) : bs ≠ [] := by
  rintro rfl
  exact nonempty (List.forall₂_nil_right_iff.1 (Except.mapM_eq_ok.1 h))

/-- Entries with different keys are read back with different names. -/
theorem nodup_of_distinct {entries : Mapping} {pairs : List (List Char × Option (List Char))}
    (distinct : entries.Distinct) (h : entries.mapM entryContent = .ok pairs) :
    (pairs.map (·.1)).Nodup := by
  have named {entry : Value × Value} {pair : List Char × Option (List Char)}
      (h : entryContent entry = .ok pair) : entry.1.text? = some pair.1 := by
    unfold entryContent at h
    split at h
    next name found =>
      obtain ⟨held, -, rfl⟩ := Except.map_eq_ok.1 h
      exact found
    · contradiction
  have names : entries.map (fun entry => entry.1.text?) = (pairs.map (·.1)).map some := by
    rw [List.map_map, ← List.forall₂_eq_eq_eq, List.forall₂_map_left_iff,
      List.forall₂_map_right_iff]
    exact (Except.mapM_eq_ok.1 h).imp fun _ _ => named
  refine List.Nodup.of_map some ?_
  rw [← names, List.Nodup, List.pairwise_map]
  refine (List.pairwise_map.1 distinct).imp_of_mem fun {entry other} inside _ apart equal => ?_
  obtain ⟨name, -, found⟩ := List.mem_map.1 (names ▸ List.mem_map_of_mem inside)
  have same := Value.same_of_text? found.symm (equal ▸ found.symm)
  rw [apart] at same
  contradiction

section Legible

variable {d : Dialect} (legible : d.Legible) {value : Value} {text : List Char}
include legible

theorem takes_of_literal (h : literal d value = .ok text) :
    ∃ held, content value = .ok held ∧ (Reader.literal d).Takes text held := by
  obtain ⟨rfl, rfl⟩ | ⟨present, held, found, rfl⟩ := literal_inv h
  · exact ⟨none, rfl, Reader.takes_literal_null d⟩
  · refine ⟨some held, ?_, Reader.takes_literal legible held⟩
    unfold content
    split
    · contradiction
    · rw [found, Except.ok_map]

theorem takes_of_assignment {entry : Value × Value} (h : assignment d entry = .ok text) :
    ∃ pair, entryContent entry = .ok pair ∧
      ((Reader.identifier d).pair '=' (Reader.literal d)).Takes text pair := by
  obtain ⟨name_text, literal_text, named, written, rfl⟩ := assignment_inv h
  obtain ⟨name, found, -, rfl⟩ := identifier_inv named
  obtain ⟨held, holds, takes⟩ := takes_of_literal legible written
  refine ⟨(name, held), by simp [entryContent, found, holds], ?_⟩
  exact (Reader.takes_identifier legible name).pair takes (by decide)

/-- A list is written as literals with commas between, one for each content. -/
theorem takes_of_inList (h : inList d value = .ok text) :
    ∃ held texts, contents value.items = .ok held ∧ texts ≠ [] ∧
      List.Forall₂ (Reader.literal d).Takes texts held ∧ text = commaJoin texts := by
  obtain ⟨empty, rfl⟩ | ⟨nonempty, texts, written, rfl⟩ := inList_inv h
  · refine ⟨[none], [null], by rw [empty, contents], by simp, ?_, ?_⟩
    · exact .cons (Reader.takes_literal_null d) .nil
    · rw [commaJoin, List.intercalate_singleton]
  · obtain ⟨held, all_hold, takes⟩ := takes_mapM (fun _ _ => takes_of_literal legible) written
    refine ⟨held, texts, ?_, ne_nil_of_mapM nonempty written, takes, rfl⟩
    unfold contents
    split
    · contradiction
    · exact all_hold

theorem takes_of_row (h : row d value = .ok text) :
    ∃ held, contents value.items = .ok held ∧
      (Reader.enclosed (Reader.list d)).Takes text held := by
  obtain ⟨inner, listed, rfl⟩ := row_inv h
  obtain ⟨held, texts, all_hold, nonempty, takes, rfl⟩ := takes_of_inList legible listed
  exact ⟨held, all_hold, Reader.takes_enclosed_separated nonempty takes⟩

end Legible

/-- Fragments of collections are read back as what they were written for: a list as its elements in
order, a mapping as its names with their contents in order, where no name comes twice, and a list
of rows as the rows in order, each as its cells. -/
theorem collections_readBack {d : Dialect} (builtIn : d.BuiltIn) (value : Value)
    (fragment : List Char) :
    (format d .inList value = .ok fragment →
      ∃ held, contents value.items = .ok held ∧ (Reader.list d).whole fragment = some held) ∧
    (format d .setClause value = .ok fragment →
      ∃ entries missing held, value = .map entries missing ∧
        entries.mapM entryContent = .ok held ∧
        (Reader.assignments d).whole fragment = some held ∧
        (Mapping.Distinct entries → (held.map (·.1)).Nodup)) ∧
    (format d .multiRow value = .ok fragment →
      ∃ held, value.items.mapM (fun row => contents row.items) = .ok held ∧
        (Reader.rows d).whole fragment = some held) := by
  have legible := Dialect.legible_of_builtIn builtIn
  refine ⟨fun h => ?_, fun h => ?_, fun h => ?_⟩
  · obtain ⟨held, texts, all_hold, nonempty, takes, rfl⟩ := takes_of_inList legible h
    exact ⟨held, all_hold, Reader.whole_separated nonempty takes⟩
  · obtain ⟨entries, missing, texts, rfl, nonempty, written, rfl⟩ := setClause_inv h
    obtain ⟨held, all_hold, takes⟩ := takes_mapM (fun _ _ => takes_of_assignment legible) written
    exact ⟨entries, missing, held, rfl, all_hold,
      Reader.whole_separated (ne_nil_of_mapM nonempty written) takes,
      fun distinct => nodup_of_distinct distinct all_hold⟩
  · obtain ⟨texts, nonempty, written, rfl⟩ := multiRow_inv h
    obtain ⟨held, all_hold, takes⟩ := takes_mapM (fun _ _ => takes_of_row legible) written
    exact ⟨held, all_hold, Reader.whole_separated (ne_nil_of_mapM nonempty written) takes⟩

/-- Separators, quotes and the word for null inside of texts stay what they are. -/
theorem collections_readBack_separators :
    (format .mysql .inList (.list [.text "NULL", .null, .text "a','b"])
        = .ok "'NULL',NULL,'a\\',\\'b'".toList ∧
      (Reader.list .mysql).whole "'NULL',NULL,'a\\',\\'b'".toList
        = some [some "NULL".toList, none, some "a','b".toList]) ∧
    (format .sqlite .setClause (.map [(.text "a\"='", .text "b"), (.text "c", .null)] none)
        = .ok "\"a\"\"='\"='b',\"c\"=NULL".toList ∧
      (Reader.assignments .sqlite).whole "\"a\"\"='\"='b',\"c\"=NULL".toList
        = some [("a\"='".toList, some "b".toList), ("c".toList, none)] ∧
      ["a\"='".toList, "c".toList].Nodup) ∧
    format .postgresql .multiRow (.list [.list [.text "),(", .bool true], .tuple []])
        = .ok "('),(','1'),(NULL)".toList ∧
      (Reader.rows .postgresql).whole "('),(','1'),(NULL)".toList
        = some [[some "),(".toList, some "1".toList], [none]] := by
  have mysql : Dialect.BuiltIn .mysql := ⟨"mysql", rfl⟩
  have sqlite : Dialect.BuiltIn .sqlite := ⟨"sqlite", rfl⟩
  have postgresql : Dialect.BuiltIn .postgresql := ⟨"postgresql", rfl⟩
  have distinct : Mapping.Distinct [(.text "a\"='", .text "b"), (.text "c", .null)] := by
    simp [Mapping.Distinct, Mapping.keys, Value.same, Value.sameAtom, Value.text?, Value.number?,
      Value.infinity?, Value.bytes?]
  refine ⟨⟨rfl, ?_⟩, ⟨rfl, ?_⟩, rfl, ?_⟩
  · obtain ⟨held, holds, read⟩ := (collections_readBack mysql
      (.list [.text "NULL", .null, .text "a','b"]) _).1 rfl
    obtain rfl := Except.ok.inj holds
    exact read
  · obtain ⟨entries, missing, pairs, same, holds, read, names⟩ := (collections_readBack sqlite
      (.map [(.text "a\"='", .text "b"), (.text "c", .null)] none) _).2.1 rfl
    obtain ⟨rfl, -⟩ := Value.map.inj same
    obtain rfl := Except.ok.inj holds
    exact ⟨read, names distinct⟩
  · obtain ⟨held, holds, read⟩ := (collections_readBack postgresql
      (.list [.list [.text "),(", .bool true], .tuple []]) _).2.2 rfl
    obtain rfl := Except.ok.inj holds
    exact read

end SafeSql.Fragment
