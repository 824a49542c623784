import SafeSql.Dialect.Known
import SafeSql.Proofs.Template.Placement

/-!
# Reading quoted text back

A quoted span stands for a text: a doubled quote is one quote, and behind an active backslash
stands the letter of a control character or a character that is meant as itself. Reading a span
back follows the scanner to the same end, and gives the text that a dialect has put between the
quotes.

## Main definitions

* `Span.unquote` — the text of a span and what stands behind it.
* `Spells` — contents of a span that stand for a text, whatever stands behind them.
* `BuiltIn` — a dialect that can be asked for by name.

## Main statements

* `Span.unquote_rest` — reading back ends where the scanner leaves the span.
* `quoting_readBack` — literals and identifiers are read back.
-/

namespace SafeSql

namespace Template.Span

/-- What a backslash and the character behind it stand for in a literal. Control characters have
letters, the wildcards of a pattern keep their backslash, and any other character is meant as
itself. -/
def unbackslashed (c : Char) : List Char :=
  if c = '0' then ['\x00']
  else if c = 'b' then ['\x08']
  else if c = 'n' then ['\n']
  else if c = 'r' then ['\r']
  else if c = 't' then ['\t']
  else if c = 'Z' then ['\x1a']
  else if c = '%' || c = '_' then ['\\', c]
  else [c]

/-- What was read, with a text before it. -/
def prepend (text : List Char) (found : List Char × List Char) : List Char × List Char :=
  (text ++ found.1, found.2)

/-- The text that a span stands for, from behind its opening quote on, and what stands behind the
span; nothing when the span is not closed. -/
def unquote (quote : Char) (backslash : Bool) : List Char → Option (List Char × List Char)
  | [] => none
  | [c] => if backslash && c = '\\' then none else if c = quote then some ([], []) else none
  | c :: next :: rest =>
    if backslash && c = '\\' then (unquote quote backslash rest).map (prepend (unbackslashed next))
    else if c = quote then
      if next = quote then (unquote quote backslash rest).map (prepend [quote])
      else some ([], next :: rest)
    else (unquote quote backslash (next :: rest)).map (prepend [c])

variable {quote : Char} {backslash : Bool} {written text rest : List Char}

/-- A span is read back where the scanner finds its end, and as far as this. -/
theorem unquote_rest (quote : Char) (backslash : Bool) (text : List Char) :
    (unquote quote backslash text).map (·.2) = (quotedTail quote backslash text).map text.drop := by
  fun_induction quotedTail quote backslash text with
  | case1 => rfl
  | case2 c escaped => simp [unquote, escaped]
  | case3 escaped => simp [unquote, escaped]
  | case4 c escaped other => simp [unquote, escaped, other]
  | case5 c next rest escaped ih =>
    simpa [unquote, escaped, prepend, Function.comp_def] using ih
  | case6 rest escaped ih =>
    simpa [unquote, escaped, prepend, Function.comp_def] using ih
  | case7 next rest escaped single => simp [unquote, escaped, single]
  | case8 c next rest escaped other ih =>
    simpa [unquote, escaped, other, prepend, Function.comp_def] using ih

/-- What is read back has the length that the scanner finds. -/
theorem quotedTail_of_unquote (h : unquote quote backslash (written ++ rest) = some (text, rest)) :
    quotedTail quote backslash (written ++ rest) = some written.length := by
  have same := unquote_rest quote backslash (written ++ rest)
  rw [h, Option.map_some] at same
  obtain ⟨length, found, left⟩ := Option.map_eq_some_iff.1 same.symm
  have fits := quotedTail_le found
  have lengths : (written ++ rest).length - length = rest.length := by
    rw [← List.length_drop, left]
  rw [List.length_append] at fits lengths
  obtain rfl : length = written.length := by omega
  exact found

theorem unquote_close (ordinary : (backslash && quote = '\\') = false)
    (apart : rest.head? ≠ some quote) :
    unquote quote backslash (quote :: rest) = some ([], rest) := by
  cases rest with
  | nil => simp [unquote, ordinary]
  | cons next rest =>
    have other : next ≠ quote := by simpa using apart
    simp [unquote, ordinary, other]

end Template.Span

namespace Dialect

open Template.Span (unquote prepend quotedTail unbackslashed)

/-! ## Contents of spans -/

/-- Contents of a span that stand for a text, whatever stands behind them. -/
def Spells (quote : Char) (backslash : Bool) (written text : List Char) : Prop :=
  ∀ rest, unquote quote backslash (written ++ rest) =
    (unquote quote backslash rest).map (prepend text)

variable {quote : Char} {backslash : Bool} {written written' text text' : List Char}

theorem Spells.nil : Spells quote backslash [] [] := by
  intro rest
  rw [List.nil_append]
  cases unquote quote backslash rest <;> rfl

theorem Spells.append (h : Spells quote backslash written text)
    (h' : Spells quote backslash written' text') :
    Spells quote backslash (written ++ written') (text ++ text') := by
  intro rest
  rw [List.append_assoc, h, h', Option.map_map]
  cases unquote quote backslash rest <;> simp [prepend]

/-- What spells every character spells a text. -/
theorem spells_flatMap {write : Char → List Char}
    (h : ∀ c, Spells quote backslash (write c) [c]) (text : List Char) :
    Spells quote backslash (text.flatMap write) text := by
  induction text with
  | nil => exact .nil
  | cons c text ih => exact (h c).append ih

/-- A character that neither ends a span nor is a backslash that matters spells itself. -/
theorem spells_self {c : Char} (ordinary : (backslash && c = '\\') = false) (other : c ≠ quote) :
    Spells quote backslash [c] [c] := by
  intro rest
  cases rest <;> simp [unquote, ordinary, other]

/-- Doubled quotes spell single ones where no backslash is active. -/
theorem spells_double (quote : Char) (text : List Char) :
    Spells quote false (double quote text) text := by
  refine spells_flatMap (fun c => ?_) text
  by_cases same : c = quote
  · subst same
    rw [if_pos rfl]
    exact fun rest => by simp [unquote]
  · rw [if_neg same]
    exact spells_self rfl same

/-- Characters with a backslash before them spell those that they were written for. -/
theorem spells_backslash (text : List Char) : Spells '\'' true (Dialect.backslash text) text := by
  have two (c : Char) : Spells '\'' true ['\\', c] (unbackslashed c) :=
    fun rest => by simp [unquote]
  refine spells_flatMap (fun c => ?_) text
  unfold backslashed
  split_ifs with null newline carriage substitute harmful
  · exact null ▸ two '0'
  · exact newline ▸ two 'n'
  · exact carriage ▸ two 'r'
  · exact substitute ▸ two 'Z'
  · have itself : unbackslashed c = [c] := by
      obtain (rfl | rfl) | rfl : (c = '"' ∨ c = '\'') ∨ c = '\\' := by simpa using harmful
      all_goals rfl
    exact itself ▸ two c
  · have other : c ≠ '\\' ∧ c ≠ '\'' := by simp_all
    exact spells_self (by simp [other.1]) other.2

/-- Contents between quotes are read back, unless a further quote stands behind them. -/
theorem Spells.unquote_closed (h : Spells quote backslash written text)
    (ordinary : (backslash && quote = '\\') = false) {rest : List Char}
    (apart : rest.head? ≠ some quote) :
    unquote quote backslash (written ++ [quote] ++ rest) = some (text, rest) := by
  rw [List.append_assoc, h, List.singleton_append, Template.Span.unquote_close ordinary apart]
  simp [prepend]

/-! ## Spans at the front of a text -/

/-- Where the quoted span ends that the first character of a text opens. -/
def spanEnd (d : Dialect) : List Char → Option Nat
  | [] => none
  | quote :: rest => (quotedTail quote (d.backslashActive quote) rest).map (· + 1)

/-- The text of the quoted span that the first character of a text opens, and what stands behind
the span. -/
def readSpan (d : Dialect) : List Char → Option (List Char × List Char)
  | [] => none
  | quote :: rest => unquote quote (d.backslashActive quote) rest

theorem readSpan_rest (d : Dialect) (text : List Char) :
    (d.readSpan text).map (·.2) = (d.spanEnd text).map text.drop := by
  cases text with
  | nil => rfl
  | cons quote rest =>
    simp [readSpan, spanEnd, Template.Span.unquote_rest, Function.comp_def]

theorem readSpan_length_lt {d : Dialect} {text content rest : List Char}
    (h : d.readSpan text = some (content, rest)) : rest.length < text.length := by
  have same := readSpan_rest d text
  rw [h, Option.map_some] at same
  obtain ⟨length, found, rfl⟩ := Option.map_eq_some_iff.1 same.symm
  cases text with
  | nil => contradiction
  | cons quote rest =>
    obtain ⟨more, -, rfl⟩ := Option.map_eq_some_iff.1 found
    simp only [List.drop_succ_cons, List.length_drop, List.length_cons]
    omega

/-- What is read back up to a rest ends before this rest. -/
theorem spanEnd_of_readSpan {d : Dialect} {content rest : List Char}
    (h : d.readSpan (written ++ rest) = some (content, rest)) (nonempty : written ≠ []) :
    d.spanEnd (written ++ rest) = some written.length := by
  obtain ⟨quote, more, rfl⟩ := List.exists_cons_of_ne_nil nonempty
  have tail : quotedTail quote (d.backslashActive quote) (more ++ rest) = some more.length :=
    Template.Span.quotedTail_of_unquote h
  simp [spanEnd, tail]

/-- A dialect whose literals and identifiers are read back. -/
structure Legible (d : Dialect) : Prop where
  identifier : d.identifierQuote ∈ ['"', '\'', '\x60']
  inactive : d.backslashActive d.identifierQuote = false
  escape : ∀ text, Spells '\'' (d.backslashActive '\'') (d.escape text) text

namespace Legible

variable {d : Dialect} (legible : Legible d)
include legible

/-- A literal is read back as its text. -/
theorem readSpan_quoteLiteral (text : List Char) {rest : List Char}
    (apart : rest.head? ≠ some '\'') :
    d.readSpan (d.quoteLiteral text ++ rest) = some (text, rest) :=
  (legible.escape text).unquote_closed (by simp) apart

/-- A written name is read back as the name. -/
theorem readSpan_quoteIdentifier (name : List Char) {rest : List Char}
    (apart : rest.head? ≠ some d.identifierQuote) :
    d.readSpan (d.quoteIdentifier name ++ rest) = some (name, rest) := by
  have doubled := (spells_double d.identifierQuote name).unquote_closed (by simp) apart
  simpa [readSpan, quoteIdentifier, legible.inactive] using doubled

end Legible

theorem injective_of_readSpan {d : Dialect} {write : List Char → List Char}
    (h : ∀ text, d.readSpan (write text) = some (text, [])) : Function.Injective write := by
  intro text text' same
  have both := h text
  rw [same, h text'] at both
  simpa using both.symm

/-! ## Dialects with a name -/

/-- A dialect that can be asked for by name. -/
def BuiltIn (d : Dialect) : Prop :=
  ∃ name, ofName? name = some d

theorem eq_of_builtIn {d : Dialect} (h : BuiltIn d) : d = mysql ∨ d = postgresql ∨ d = sqlite := by
  obtain ⟨name, found⟩ := h
  obtain ⟨before, after, all, -⟩ := List.lookup_eq_some_iff.1 found
  have member : (baseName name, d) ∈ known := by simp [all]
  simp only [known, List.mem_cons, List.not_mem_nil, or_false, Prod.mk.injEq] at member
  obtain ⟨-, rfl⟩ | ⟨-, rfl⟩ | ⟨-, rfl⟩ | ⟨-, rfl⟩ | ⟨-, rfl⟩ := member
  · exact .inl rfl
  · exact .inl rfl
  · exact .inr (.inl rfl)
  · exact .inr (.inl rfl)
  · exact .inr (.inr rfl)

theorem legible_of_builtIn {d : Dialect} (h : BuiltIn d) : Legible d := by
  obtain rfl | rfl | rfl := eq_of_builtIn h
  · exact ⟨by decide, by decide, spells_backslash⟩
  · exact ⟨by decide, by decide, spells_double '\''⟩
  · exact ⟨by decide, by decide, spells_double '\''⟩

/-- In front of any text that does not go on with the closing quote, a literal and a written name
are spans of their own for the scanner, and these are read back as the text and the name. Neither
way of writing takes two texts to the same one. -/
theorem quoting_readBack {d : Dialect} (builtIn : BuiltIn d) :
    (∀ text rest : List Char, rest.head? ≠ some '\'' →
      d.spanEnd (d.quoteLiteral text ++ rest) = some (d.quoteLiteral text).length ∧
        d.readSpan (d.quoteLiteral text ++ rest) = some (text, rest)) ∧
    (∀ name rest : List Char, rest.head? ≠ some d.identifierQuote →
      d.spanEnd (d.quoteIdentifier name ++ rest) = some (d.quoteIdentifier name).length ∧
        d.readSpan (d.quoteIdentifier name ++ rest) = some (name, rest)) ∧
    Function.Injective d.quoteLiteral ∧ Function.Injective d.quoteIdentifier := by
  have legible := legible_of_builtIn builtIn
  refine ⟨fun text rest apart => ?_, fun name rest apart => ?_, ?_, ?_⟩
  · have read := legible.readSpan_quoteLiteral text apart
    exact ⟨spanEnd_of_readSpan read (by simp [quoteLiteral]), read⟩
  · have read := legible.readSpan_quoteIdentifier name apart
    exact ⟨spanEnd_of_readSpan read (by simp [quoteIdentifier]), read⟩
  · refine @injective_of_readSpan d _ fun text => ?_
    simpa using legible.readSpan_quoteLiteral text (by simp : [].head? ≠ some '\'')
  · refine @injective_of_readSpan d _ fun name => ?_
    simpa using legible.readSpan_quoteIdentifier name (by simp : [].head? ≠ some d.identifierQuote)

/-- A backslash before a quote and a comment behind it stay inside of their literal. -/
theorem quoting_readBack_backslash_quote :
    BuiltIn mysql ∧ mysql.quoteLiteral "\\' -- \n".toList = "'\\\\\\' -- \\n'".toList ∧
      mysql.spanEnd "'\\\\\\' -- \\n' OR ''".toList = some 12 ∧
      mysql.readSpan "'\\\\\\' -- \\n' OR ''".toList
        = some ("\\' -- \n".toList, " OR ''".toList) := by
  have builtIn : BuiltIn mysql := ⟨"MySQL+pymysql", rfl⟩
  obtain ⟨ends, reads⟩ :=
    (quoting_readBack builtIn).1 "\\' -- \n".toList " OR ''".toList (by decide)
  exact ⟨builtIn, rfl, ends, reads⟩

end Dialect

end SafeSql
