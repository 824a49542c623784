import SafeSql.Fragment.Collection
import SafeSql.Proofs.Dialect.Quoting

/-!
# Reading fragments

A fragment of a collection is read from left to right: spans by the rules of the scanner, and
between them the separators that a collection is written with. What a reader takes from the front
of a text it takes whatever stands behind this, as long as no quote does.

## Main definitions

* `Reader` — reads something at the front of a text.
* `Reader.literal`, `Reader.identifier` — spans and `NULL`.
* `Reader.pair`, `Reader.enclosed`, `Reader.separated` — readers put together.
* `Reader.Takes` — a text is read as something, whatever stands behind it.

## Main statements

* `Reader.read_separated` — what is written with commas between is read one by one.
-/

namespace SafeSql.Fragment

/-- Reads something at the front of a text, if it stands there, and gives what stands behind it,
which is shorter than the text. -/
structure Reader (α : Type) where
  read : List Char → Option (α × List Char)
  shorter : ∀ {text : List Char} {a : α} {rest : List Char}, read text = some (a, rest) →
    rest.length < text.length

namespace Reader

variable {α β : Type}

/-- A quoted span, and not a text that begins with another quote. -/
def span (d : Dialect) (quote : Char) : Reader (List Char) where
  read text := if text.head? = some quote then d.readSpan text else none
  shorter h := by
    split at h
    · exact Dialect.readSpan_length_lt h
    · contradiction

/-- A literal: a text between single quotes, or nothing for `NULL`. -/
def literal (d : Dialect) : Reader (Option (List Char)) where
  read
    | 'N' :: 'U' :: 'L' :: 'L' :: rest => some (none, rest)
    | text => ((span d '\'').read text).map fun (content, rest) => (some content, rest)
  shorter h := by
    split at h
    · obtain ⟨-, rfl⟩ := Prod.mk.inj (Option.some.inj h)
      simp only [List.length_cons]
      omega
    · obtain ⟨found, read, same⟩ := Option.map_eq_some_iff.1 h
      obtain ⟨-, rfl⟩ := Prod.mk.inj same
      exact (span d '\'').shorter read

/-- A name between the quotes of identifiers. -/
def identifier (d : Dialect) : Reader (List Char) :=
  span d d.identifierQuote

/-- Something, a character and something else. -/
def pair (first : Reader α) (between : Char) (second : Reader β) : Reader (α × β) where
  read text :=
    match first.read text with
    | some (a, c :: rest) =>
      if c = between then (second.read rest).map fun (b, rest) => ((a, b), rest) else none
    | _ => none
  shorter h := by
    split at h
    next a c rest one =>
      split at h
      · obtain ⟨⟨b, rest'⟩, two, same⟩ := Option.map_eq_some_iff.1 h
        obtain ⟨-, rfl⟩ := Prod.mk.inj same
        have before := first.shorter one
        have behind := second.shorter two
        simp only [List.length_cons] at before
        omega
      · contradiction
    · contradiction

/-- Something between parentheses. -/
def enclosed (inner : Reader α) : Reader α where
  read
    | '(' :: text =>
      match inner.read text with
      | some (a, ')' :: rest) => some (a, rest)
      | _ => none
    | _ => none
  shorter h := by
    split at h
    next text =>
      split at h
      next a rest one =>
        obtain ⟨-, rfl⟩ := Prod.mk.inj (Option.some.inj h)
        have before := inner.shorter one
        simp only [List.length_cons] at before ⊢
        omega
      · contradiction
    · contradiction

/-- As many as there are of something with commas between. -/
def readSeparated (item : Reader α) (text : List Char) : Option (List α × List Char) :=
  match _h : item.read text with
  | none => none
  | some (a, rest) =>
    if rest.head? = some ',' then
      (readSeparated item rest.tail).map fun (as, rest) => (a :: as, rest)
    else some ([a], rest)
termination_by text.length
decreasing_by
  have := item.shorter _h
  simp only [List.length_tail]
  omega

theorem readSeparated_of_read {item : Reader α} {text rest : List Char} {a : α}
    (h : item.read text = some (a, rest)) :
    readSeparated item text =
      if rest.head? = some ',' then
        (readSeparated item rest.tail).map fun (as, rest) => (a :: as, rest)
      else some ([a], rest) := by
  rw [readSeparated]
  split <;> simp_all

theorem readSeparated_shorter {item : Reader α} {text rest : List Char} {as : List α}
    (h : readSeparated item text = some (as, rest)) : rest.length < text.length := by
  fun_induction readSeparated item text generalizing as with
  | case1 => contradiction
  | case2 text a behind read more ih =>
    obtain ⟨⟨as, rest⟩, later, same⟩ := Option.map_eq_some_iff.1 h
    obtain ⟨-, rfl⟩ := Prod.mk.inj same
    have first := item.shorter read
    have others := ih later
    simp only [List.length_tail] at others
    omega
  | case3 text a behind read last =>
    obtain ⟨-, rfl⟩ := Prod.mk.inj (Option.some.inj h)
    exact item.shorter read

def separated (item : Reader α) : Reader (List α) :=
  ⟨readSeparated item, readSeparated_shorter⟩

/-- What a whole text is read as. -/
def whole (reader : Reader α) (text : List Char) : Option α :=
  match reader.read text with
  | some (a, []) => some a
  | _ => none

/-! ## Texts that are read -/

/-- Text that does not go on with a quote. -/
def Unquoted (text : List Char) : Prop :=
  ∀ quote ∈ ['"', '\'', '\x60'], text.head? ≠ some quote

/-- A text is read as something, whatever stands behind it but a quote. -/
def Takes (reader : Reader α) (text : List Char) (a : α) : Prop :=
  ∀ rest, Unquoted rest → reader.read (text ++ rest) = some (a, rest)

variable {d : Dialect} {text text' : List Char} {a : α} {b : β}

theorem takes_literal_null (d : Dialect) : Takes (literal d) null none :=
  fun _ _ => rfl

theorem takes_literal (legible : d.Legible) (content : List Char) :
    Takes (literal d) (d.quoteLiteral content) (some content) := by
  intro rest unquoted
  have read := legible.readSpan_quoteLiteral content (unquoted '\'' (by simp))
  have opens : (d.quoteLiteral content ++ rest).head? = some '\'' := rfl
  change ((span d '\'').read (d.quoteLiteral content ++ rest)).map _ = _
  simp [span, read, opens]

theorem takes_identifier (legible : d.Legible) (name : List Char) :
    Takes (identifier d) (d.quoteIdentifier name) name := by
  intro rest unquoted
  have read := legible.readSpan_quoteIdentifier name (unquoted _ legible.identifier)
  have opens : (d.quoteIdentifier name ++ rest).head? = some d.identifierQuote := rfl
  simp [identifier, span, read, opens]

theorem Takes.pair {first : Reader α} {second : Reader β} (h : Takes first text a)
    (h' : Takes second text' b) {between : Char} (plain : between ∉ ['"', '\'', '\x60']) :
    Takes (first.pair between second) (text ++ [between] ++ text') (a, b) := by
  intro rest unquoted
  have one := h (between :: (text' ++ rest)) (by simp_all [Unquoted])
  have two := h' rest unquoted
  simp [Reader.pair, one, two]

/-- Texts with commas between are read one by one, up to something that is no comma. -/
theorem read_separated {item : Reader α} {texts : List (List Char)} {as : List α}
    (nonempty : texts ≠ []) (h : List.Forall₂ (Takes item) texts as) (rest : List Char)
    (unquoted : Unquoted rest) (last : rest.head? ≠ some ',') :
    (separated item).read (commaJoin texts ++ rest) = some (as, rest) := by
  change readSeparated item (commaJoin texts ++ rest) = some (as, rest)
  induction h with
  | nil => contradiction
  | @cons text a texts as first later ih =>
    cases later with
    | nil =>
      have read := first rest unquoted
      rw [commaJoin, List.intercalate_singleton, readSeparated_of_read read, if_neg last]
    | @cons text' a' texts' as' second others =>
      have read := first ([','] ++ commaJoin (text' :: texts') ++ rest) (by simp [Unquoted])
      have split_first : commaJoin (text :: text' :: texts') ++ rest =
          text ++ ([','] ++ commaJoin (text' :: texts') ++ rest) := by
        simp [commaJoin, List.intercalate_cons_cons]
      rw [split_first, readSeparated_of_read read]
      simp [ih]

theorem whole_separated {item : Reader α} {texts : List (List Char)} {as : List α}
    (nonempty : texts ≠ []) (h : List.Forall₂ (Takes item) texts as) :
    (separated item).whole (commaJoin texts) = some as := by
  have read := read_separated nonempty h [] (by simp [Unquoted]) (by simp)
  rw [List.append_nil] at read
  rw [whole, read]

theorem takes_enclosed_separated {item : Reader α} {texts : List (List Char)} {as : List α}
    (nonempty : texts ≠ []) (h : List.Forall₂ (Takes item) texts as) :
    Takes (enclosed (separated item)) (['('] ++ commaJoin texts ++ [')']) as := by
  intro rest unquoted
  have read := read_separated nonempty h (')' :: rest) (by simp [Unquoted]) (by simp)
  simp [enclosed, read]

end Reader

end SafeSql.Fragment
