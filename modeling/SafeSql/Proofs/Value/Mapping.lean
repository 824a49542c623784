import Mathlib.Data.List.Induction
import SafeSql.Value.Mapping

/-!
# Keys of mappings

A mapping holds every key once, as far as keys are told apart by equality of values. Of texts that
are put one after another it holds those that differ.

## Main definitions

* `Mapping.Distinct` — no two keys of a mapping are equal.
* `Mapping.byName` — a mapping of names.

## Main statements

* `Mapping.ofList_texts` — the mapping of texts that are put one after another.
-/

namespace List

variable {α : Type} [DecidableEq α]

theorem eraseDups_concat (as : List α) (a : α) :
    (as ++ [a]).eraseDups = if a ∈ as then as.eraseDups else as.eraseDups ++ [a] := by
  rw [eraseDups_append]
  by_cases h : a ∈ as <;> simp [removeAll, h, eraseDups_cons]

theorem nodup_eraseDups (as : List α) : as.eraseDups.Nodup := by
  induction as using List.reverseRecOn with
  | nil => exact nodup_nil
  | append_singleton as a ih =>
    rw [eraseDups_concat]
    split
    · exact ih
    next absent =>
      refine nodup_append.mpr ⟨ih, pairwise_singleton _ a, fun b member c last => ?_⟩
      rw [mem_singleton.mp last]
      exact ne_of_mem_of_not_mem (mem_eraseDups.mp member) absent

end List

namespace SafeSql

theorem Value.same_text (s t : String) : (Value.text s).same (.text t) = (s == t) := by
  rw [Bool.eq_iff_iff]
  simp [Value.same, sameAtom, number?, infinity?, bytes?, text?, String.toList_inj]

theorem Value.same_of_text? {key other : Value} {name : List Char} (h : key.text? = some name)
    (h' : other.text? = some name) : key.same other = true := by
  have spelled {value : Value} (h : value.text? = some name) :
      ∃ s : String, s.toList = name ∧ (value = .text s ∨ value = .raw s) := by
    cases value with
    | text s => exact ⟨s, by simpa [text?] using h, .inl rfl⟩
    | raw s => exact ⟨s, by simpa [text?] using h, .inr rfl⟩
    | _ => contradiction
  obtain ⟨s, rfl, rfl | rfl⟩ := spelled h <;>
  · obtain ⟨s', same, rfl | rfl⟩ := spelled h' <;> simp [Value.same, sameAtom, text?, same]

namespace Mapping

/-- No key is equal to one behind it. -/
def Distinct (entries : Mapping) : Prop :=
  entries.keys.Pairwise fun key other => key.same other = false

/-- The mapping of names to what a function says. -/
def byName (names : List String) (value : String → Value) : Mapping :=
  names.map fun name => (.text name, value name)

@[simp] theorem keys_byName (names : List String) (value : String → Value) :
    (byName names value).keys = names.map .text := by
  simp [byName, keys]

theorem find?_byName (names : List String) (value : String → Value) (key : Value) :
    (byName names value).find? key =
      (names.find? fun name => (Value.text name).same key).map value := by
  simp [byName, find?, Function.comp_def]

theorem insert_byName {names : List String} (distinct : names.Nodup) (value : String → Value)
    (name : String) (new : Value) :
    (byName names value).insert (.text name) new =
      byName (if name ∈ names then names else names ++ [name])
        (Function.update value name new) := by
  induction names with
  | nil => simp [byName, insert]
  | cons first names ih =>
    obtain ⟨absent, distinct⟩ := List.nodup_cons.mp distinct
    have put : insert (byName (first :: names) value) (.text name) new =
        if first = name then (.text first, new) :: byName names value
        else (.text first, value first) :: insert (byName names value) (.text name) new := by
      simp [byName, insert, Value.same_text]
    rw [put]
    by_cases found : first = name
    · subst found
      have others : byName names (Function.update value first new) = byName names value := by
        refine List.map_congr_left fun other member => ?_
        rw [Function.update_of_ne (ne_of_mem_of_not_mem member absent)]
      rw [if_pos rfl, if_pos List.mem_cons_self, ← others]
      simp [byName]
    · rw [if_neg found, ih distinct]
      have same : Function.update value name new first = value first :=
        Function.update_of_ne found ..
      by_cases member : name ∈ names <;> simp [byName, member, same, Ne.symm found]

/-- Texts that are put one after another stand in the order in which they first came, each with
what it was put to last. -/
theorem ofList_texts (entries : List (String × Value)) :
    ofList (entries.map fun entry => (.text entry.1, entry.2)) =
      byName (entries.map (·.1)).eraseDups
        (fun name => (entries.reverse.lookup name).getD .null) := by
  induction entries using List.reverseRecOn with
  | nil => rfl
  | append_singleton entries entry ih =>
    have last : ofList ((entries ++ [entry]).map fun entry => (.text entry.1, entry.2)) =
        (ofList (entries.map fun entry => (.text entry.1, entry.2))).insert (.text entry.1)
          entry.2 := by
      simp [ofList]
    rw [last, ih, insert_byName (List.nodup_eraseDups _)]
    simp only [List.map_append, List.map_singleton, List.eraseDups_concat, List.mem_eraseDups]
    congr 1
    funext name
    rw [List.reverse_append, List.reverse_singleton, List.singleton_append, List.lookup_cons,
      Function.update_apply]
    by_cases same : name = entry.1
    · simp [same]
    · simp [same, beq_false_of_ne same]

/-- What the values are is no matter for where a key is put. -/
theorem insert_map (value : Value → Value) (entries : Mapping) (key new : Value) :
    insert (entries.map fun entry => (entry.1, value entry.2)) key (value new) =
      (insert entries key new).map fun entry => (entry.1, value entry.2) := by
  induction entries with
  | nil => rfl
  | cons entry entries ih =>
    simp only [List.map_cons, insert]
    split
    · rfl
    · rw [ih, List.map_cons]

end Mapping

end SafeSql
