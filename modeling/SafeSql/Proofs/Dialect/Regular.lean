import SafeSql.Proofs.Template.Classes

/-!
# Dialects that keep texts apart

A written text is harmless when the machine that finds the classes of characters reads it whole,
whatever stands behind it: plain text stays in code, and the contents of a span stay inside. A
dialect is regular when what it puts between quotes has this property. The known dialects are
regular.

## Main definitions

* `Plain` — text that is code before any other text.
* `Inside` — contents of a span that do not leave it.
* `Regular` — a dialect whose literals and identifiers stay inside their quotes.

## Main statements

* `Regular.plain` — text of ordinary characters is plain.
* `mysql_regular`, `postgresql_regular`, `sqlite_regular` — the known dialects.
-/

namespace SafeSql.Dialect

open Template (CharClass)
open Template.Walk (Reads Mode next inCode)

variable {d : Dialect} {quote : Char} {text more : List Char}

/-- Text that is code and ends in code, whatever stands behind it. -/
def Plain (d : Dialect) (text : List Char) : Prop :=
  ∀ rest, Reads d .code text rest (List.replicate text.length .code) .code

/-- Contents of a span that do not end it, whatever stands behind them. -/
def Inside (d : Dialect) (quote : Char) (text : List Char) : Prop :=
  ∀ rest, Reads d (.quoted quote) text rest (List.replicate text.length .quoted) (.quoted quote)

theorem Plain.append (h : Plain d text) (h' : Plain d more) : Plain d (text ++ more) := by
  intro rest
  rw [List.length_append, List.replicate_add]
  exact (h _).append (h' rest)

theorem Inside.append (h : Inside d quote text) (h' : Inside d quote more) :
    Inside d quote (text ++ more) := by
  intro rest
  rw [List.length_append, List.replicate_add]
  exact (h _).append (h' rest)

/-- What writes every character so that it stays inside does so with a text. -/
theorem inside_flatMap {write : Char → List Char} (h : ∀ c, Inside d quote (write c))
    (text : List Char) : Inside d quote (text.flatMap write) := by
  induction text with
  | nil => exact fun _ => .nil
  | cons c text ih => exact (h c).append ih

/-- Where no backslash is active, a doubled quote stays inside. -/
theorem inside_double (own : d.quoteChars.contains quote)
    (inactive : d.backslashActive quote = false) (text : List Char) :
    Inside d quote (double quote text) := by
  refine inside_flatMap (fun c rest => ?_) text
  by_cases same : c = quote
  · subst same
    have first : next d c (c :: rest) (.quoted c) = (.code, .quoted) := by
      simp [next, inactive]
    have second : next d c rest .code = (.quoted c, .quoted) := by
      simp only [next, inCode, own, if_true]
    rw [if_pos rfl]
    exact .cons first (.one second)
  · rw [if_neg same]
    exact .one (by simp [next, inactive, same])

/-- Where the backslash is active, what stands behind one stays inside. -/
theorem inside_backslash (active : d.backslashActive '\'' = true) (text : List Char) :
    Inside d '\'' (backslash text) := by
  have two (c : Char) : Inside d '\'' ['\\', c] := by
    intro rest
    have first : next d '\\' (c :: rest) (.quoted '\'') = (.taken '\'', .quoted) := by
      simp [next, active]
    have second : next d c rest (.taken '\'') = (.quoted '\'', .quoted) := rfl
    exact .cons first (.one second)
  refine inside_flatMap (fun c rest => ?_) text
  unfold backslashed
  split_ifs with null newline carriage substitute harmful
  · exact two '0' rest
  · exact two 'n' rest
  · exact two 'r' rest
  · exact two 'Z' rest
  · exact two c rest
  · have other : c ≠ '\\' ∧ c ≠ '\'' := by simp_all
    exact .one (by simp [next, other])

/-- A character that opens neither a span nor a comment in any of the known dialects. -/
def Ordinary (c : Char) : Prop :=
  c ∉ ['"', '\'', '\x60', '#', '-', '/']

instance (c : Char) : Decidable (Ordinary c) :=
  inferInstanceAs (Decidable (¬ _))

theorem ordinary_of_isDigit {c : Char} (h : c.isDigit) : Ordinary c := by
  intro special
  have known : ∀ c ∈ ['"', '\'', '\x60', '#', '-', '/'], c.isDigit = false := by simp
  rw [known c special] at h
  contradiction

/-- The quotes are among the three known ones, those around literals and identifiers are quotes,
and what is written between them stays inside. -/
structure Regular (d : Dialect) : Prop where
  quotes : ∀ c ∈ d.quoteChars, c ∈ ['"', '\'', '\x60']
  literal : d.quoteChars.contains '\''
  identifier : d.quoteChars.contains d.identifierQuote
  inactive : d.backslashActive d.identifierQuote = false
  escape : ∀ text, Inside d '\'' (d.escape text)

namespace Regular

variable (regular : Regular d)
include regular

theorem not_quote {c : Char} (h : Ordinary c ∨ c = '-' ∨ c = '/') :
    d.quoteChars.contains c = false := by
  rw [← Bool.not_eq_true, List.contains_iff_mem]
  intro own
  have known := regular.quotes c own
  obtain ordinary | rfl | rfl := h
  · simp_all [Ordinary]
  · revert known; decide
  · revert known; decide

/-- An ordinary character is code. -/
theorem next_ordinary {c : Char} (h : Ordinary c) (rest : List Char) :
    next d c rest .code = (.code, .code) := by
  have plain := regular.not_quote (.inl h)
  have other : c ≠ '#' ∧ c ≠ '-' ∧ c ≠ '/' := by simp_all [Ordinary]
  simp only [next, inCode, plain, other, decide_false, Bool.false_and, Bool.or_self]
  rfl

theorem plain (h : ∀ c ∈ text, Ordinary c) : Plain d text := by
  intro rest
  induction text with
  | nil => exact .nil
  | cons c text ih =>
    have first := regular.next_ordinary (h c (by simp)) (text ++ rest)
    exact .cons first (ih fun c' member => h c' (by simp [member]))

theorem plain_dash {c : Char} (first : Ordinary c) (h : ∀ c ∈ text, Ordinary c) :
    Plain d ('-' :: c :: text) := by
  intro rest
  have no_quote := regular.not_quote (.inr (.inl rfl) : Ordinary '-' ∨ _)
  have other : c ≠ '-' := by rintro rfl; revert first; decide
  have dash : next d '-' (c :: text ++ rest) .code = (.code, .code) := by
    simp only [next, inCode, no_quote]
    simp [Template.Lexer.opensLine, other]
  have behind : Plain d (c :: text) := regular.plain (by simpa using ⟨first, h⟩)
  exact .cons dash (behind rest)

end Regular

theorem mysql_regular : Regular mysql where
  quotes := by simp [mysql]
  literal := by decide
  identifier := by decide
  inactive := by decide
  escape := inside_backslash (by decide)

theorem postgresql_regular : Regular postgresql where
  quotes := by simp [postgresql]
  literal := by decide
  identifier := by decide
  inactive := by decide
  escape := inside_double (by decide) (by decide)

theorem sqlite_regular : Regular sqlite where
  quotes := by simp [sqlite]
  literal := by decide
  identifier := by decide
  inactive := by decide
  escape := inside_double (by decide) (by decide)

end SafeSql.Dialect
