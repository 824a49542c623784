import SafeSql.Dialect
import SafeSql.Proofs.Template.Placement

/-!
# Where spans end

Between the quotes of a span stand items: a pair of characters behind an active backslash, a
doubled quote, or a character that is neither the quote nor an active backslash. A text leaves no
choice how far the items reach, so that a quoted span has one end at most. The scanner finds this
end where there is one. A block comment is open when its closing signs stand nowhere behind it.

## Main definitions

* `Span.Items` — the contents of a quoted span.
* `QuotedSpan` — a quoted span between two offsets of a text.
* `OpenComment` — a block comment that is not closed.

## Main statements

* `Span.quotedTail_eq_some_iff` — what the scanner takes for a span is one, and it takes all.
* `quotedSpan_iff` — the same between offsets.
* `Lexeme.afterSlash_eq_error_iff` — the scanner refuses open comments only.
-/

namespace SafeSql.Template

namespace Span

/-- What can stand between the quotes of a span. -/
inductive Items (quote : Char) (backslash : Bool) : List Char → Prop
  | nil : Items quote backslash []
  | escaped {c : Char} {content : List Char} (active : backslash = true)
      (later : Items quote backslash content) : Items quote backslash ('\\' :: c :: content)
  | doubled {content : List Char} (later : Items quote backslash content) :
      Items quote backslash (quote :: quote :: content)
  | single {c : Char} {content : List Char} (other : c ≠ quote)
      (plain : backslash = true → c ≠ '\\') (later : Items quote backslash content) :
      Items quote backslash (c :: content)

variable {quote : Char} {backslash : Bool} {text content rest : List Char} {length : Nat}

/-- Items are read to their end, and the quote behind them, unless it is doubled. -/
theorem quotedTail_of_items (ordinary : backslash = true → quote ≠ '\\')
    (items : Items quote backslash content) (apart : rest.head? ≠ some quote) :
    quotedTail quote backslash (content ++ quote :: rest) = some (content.length + 1) := by
  have no_escape {c : Char} (plain : backslash = true → c ≠ '\\') :
      (backslash && decide (c = '\\')) = false := by simpa using plain
  induction items with
  | nil =>
    cases rest with
    | nil => simp [quotedTail, no_escape ordinary]
    | cons next rest =>
      have other : next ≠ quote := by simpa using apart
      simp [quotedTail, no_escape ordinary, other]
  | escaped active later ih =>
    subst active
    simp [quotedTail, ih]
  | doubled later ih => simp [quotedTail, no_escape ordinary, ih]
  | @single c content other plain later ih =>
    obtain ⟨next, more, behind⟩ : ∃ next more, content ++ quote :: rest = next :: more :=
      List.exists_cons_of_ne_nil (by simp)
    rw [behind] at ih
    rw [List.cons_append, behind]
    simp [quotedTail, no_escape plain, other, ih]

/-- What is read up to a closing quote are items. -/
theorem items_of_quotedTail (h : quotedTail quote backslash text = some length) :
    ∃ content rest, text = content ++ quote :: rest ∧ Items quote backslash content ∧
      rest.head? ≠ some quote ∧ length = content.length + 1 := by
  fun_induction quotedTail quote backslash text generalizing length with
  | case1 | case2 | case4 => contradiction
  | case3 escaped => exact ⟨[], [], rfl, .nil, by simp, (Option.some.inj h).symm⟩
  | case5 c next rest escaped ih =>
    obtain ⟨length, closed, rfl⟩ := Option.map_eq_some_iff.1 h
    obtain ⟨content, behind, rfl, items, apart, rfl⟩ := ih closed
    obtain ⟨active, rfl⟩ : backslash = true ∧ c = '\\' := by simpa using escaped
    exact ⟨'\\' :: next :: content, behind, rfl, .escaped active items, apart, rfl⟩
  | case6 rest escaped ih =>
    obtain ⟨length, closed, rfl⟩ := Option.map_eq_some_iff.1 h
    obtain ⟨content, behind, rfl, items, apart, rfl⟩ := ih closed
    exact ⟨quote :: quote :: content, behind, rfl, .doubled items, apart, rfl⟩
  | case7 next rest single escaped =>
    exact ⟨[], next :: rest, rfl, .nil, by simpa using single, (Option.some.inj h).symm⟩
  | case8 c next rest escaped other ih =>
    obtain ⟨length, closed, rfl⟩ := Option.map_eq_some_iff.1 h
    obtain ⟨content, behind, text_eq, items, apart, rfl⟩ := ih closed
    have plain : backslash = true → c ≠ '\\' := by simpa using escaped
    exact ⟨c :: content, behind, by rw [text_eq, List.cons_append], .single other plain items,
      apart, rfl⟩

/-- A span that an active backslash opened is never closed: each further one takes the character
behind it along. -/
theorem quotedTail_backslash (text : List Char) : quotedTail '\\' true text = none := by
  fun_induction quotedTail '\\' true text <;> simp_all

theorem quotedTail_eq_some_iff :
    quotedTail quote backslash text = some length ↔ (backslash = true → quote ≠ '\\') ∧
      ∃ content rest, text = content ++ quote :: rest ∧ Items quote backslash content ∧
        rest.head? ≠ some quote ∧ length = content.length + 1 := by
  constructor
  · intro closed
    refine ⟨?_, items_of_quotedTail closed⟩
    rintro rfl rfl
    rw [quotedTail_backslash] at closed
    contradiction
  · rintro ⟨ordinary, content, rest, rfl, items, apart, rfl⟩
    exact quotedTail_of_items ordinary items apart

theorem blockTail_eq_none_iff :
    blockTail text = none ↔
      ∀ offset : Nat, ¬ (text[offset]? = some '*' ∧ text[offset + 1]? = some '/') := by
  fun_induction blockTail text with
  | case1 => simp
  | case2 c rest closes =>
    refine iff_of_false (by simp) fun none => none 0 ?_
    simpa [← List.head?_eq_getElem?] using closes
  | case3 c rest other ih =>
    rw [Option.map_eq_none_iff, ih]
    refine ⟨fun none offset => ?_, fun none offset => by simpa using none (offset + 1)⟩
    cases offset with
    | zero => simpa [← List.head?_eq_getElem?] using other
    | succ offset => simpa using none offset

end Span

variable {d : Dialect} {quote c : Char} {text rest : List Char} {start stop : Nat}

theorem drop_of_getElem? (h : text[start]? = some c) :
    text.drop start = c :: text.drop (start + 1) := by
  rw [List.drop_eq_getElem?_toList_append, h]
  rfl

theorem drop_of_append {more : List Char} (h : text.drop start = more ++ rest) :
    text.drop (start + more.length) = rest := by
  rw [← List.drop_drop, h, List.drop_left]

theorem drop_of_cons (h : text.drop start = c :: rest) : text.drop (start + 1) = rest :=
  @drop_of_append text rest start [c] h

/-- A quoted span that opens at an offset and ends before another: the quote, items and the quote
once more, which nothing doubles. No known dialect has a backslash among its quotes; if one had, an
active one would be an escape and no quote. -/
structure QuotedSpan (d : Dialect) (quote : Char) (text : List Char) (start stop : Nat) :
    Prop where
  enough : start + 2 ≤ stop
  inside : stop ≤ text.length
  written : ∃ content, (text.take stop).drop start = [quote] ++ content ++ [quote] ∧
    Span.Items quote (d.backslashActive quote) content
  apart : text[stop]? ≠ some quote
  delimits : d.backslashActive quote = true → quote ≠ '\\'

/-- A span ends where the scanner leaves it. -/
theorem quotedSpan_iff (opening : text[start]? = some quote) :
    QuotedSpan d quote text start stop ↔ ∃ length,
      Span.quotedTail quote (d.backslashActive quote) (text.drop (start + 1)) = some length ∧
        stop = start + 1 + length := by
  have behind := drop_of_getElem? opening
  simp only [Span.quotedTail_eq_some_iff]
  constructor
  · rintro ⟨enough, inside, ⟨content, written, items⟩, apart, delimits⟩
    have whole : text.drop start = [quote] ++ content ++ [quote] ++ text.drop stop := by
      rw [← written, ← List.drop_append_of_le_length (by simp; omega), List.take_append_drop]
    have size := congrArg List.length written
    simp only [List.length_drop, List.length_take, List.length_append, List.length_cons,
      List.length_nil] at size
    refine ⟨content.length + 1, ⟨delimits, content, text.drop stop, ?_, items, ?_, rfl⟩, by omega⟩
    · rw [behind] at whole
      simpa using whole
    · rwa [List.head?_drop]
  · rintro ⟨_, ⟨delimits, content, rest, written, items, apart, rfl⟩, rfl⟩
    obtain ⟨before, rfl, rfl⟩ : ∃ before, before.length = start ∧
        text = (before ++ ([quote] ++ content ++ [quote])) ++ rest := by
      refine ⟨text.take start, ?_, ?_⟩
      · obtain ⟨inside, -⟩ := List.getElem?_eq_some_iff.1 opening
        exact List.length_take_of_le (Nat.le_of_lt inside)
      · simpa [behind, written] using (List.take_append_drop start text).symm
    have reach : before.length + 1 + (content.length + 1)
        = (before ++ ([quote] ++ content ++ [quote])).length := by
      simp
      omega
    rw [reach]
    refine ⟨by simp, by simp, ⟨content, ?_, items⟩, ?_, delimits⟩
    · rw [List.take_left, List.drop_left]
    · rwa [List.getElem?_append_right (Nat.le_refl _), Nat.sub_self, ← List.head?_eq_getElem?]

/-- A block comment that opens at an offset and is not closed behind its opening. -/
structure OpenComment (text : List Char) (start : Nat) : Prop where
  slash : text[start]? = some '/'
  star : text[start + 1]? = some '*'
  unclosed : ∀ offset, start + 2 ≤ offset →
    ¬ (text[offset]? = some '*' ∧ text[offset + 1]? = some '/')

/-- Behind a slash only open comments are refused. -/
theorem Lexeme.afterSlash_eq_error_iff (slash : text[start]? = some '/') {flaw : Flaw} :
    afterSlash (text.drop (start + 1)) = .error flaw ↔
      flaw = .openComment ∧ OpenComment text start := by
  constructor
  · intro refused
    unfold afterSlash at refused
    split at refused
    next rest behind =>
      have star : text[start + 1]? = some '*' := by
        simpa using congrArg List.head? behind
      have later : text.drop (start + 1 + 1) = rest := drop_of_cons behind
      cases closed : Span.blockTail rest with
      | some length => simp [closed] at refused
      | none =>
        rw [closed] at refused
        refine ⟨(Except.error.inj refused).symm, slash, star, fun offset behind => ?_⟩
        obtain ⟨more, rfl⟩ := Nat.exists_eq_add_of_le behind
        simpa [← later, Nat.add_assoc] using Span.blockTail_eq_none_iff.1 closed more
    · contradiction
  · rintro ⟨rfl, -, star, unclosed⟩
    have behind := drop_of_getElem? star
    have none : Span.blockTail (text.drop (start + 1 + 1)) = none := by
      refine Span.blockTail_eq_none_iff.2 fun offset => ?_
      simpa [Nat.add_assoc] using unclosed (start + 2 + offset) (by omega)
    simp [behind, afterSlash, none]

end SafeSql.Template
