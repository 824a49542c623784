import SafeSql.Proofs.Rendering.Layout

/-!
# Lexical safety of rendering

In rendered text every character is read as what it was meant to be: what is copied from the
template has the class that it has there, no character of a fragment is in a comment, and escaped
texts and names are quoted. Where two dashes open a comment only before a blank, this holds of all
rendered text. Where they open one before anything, it holds unless a dash of the template stands
before a fragment that begins with a dash.

## Main definitions

* `DashesMeet` — a dash of the template stands before a dash of a fragment.
* `Apart` — no comment opens between a literal segment and a fragment.

## Main statements

* `Filled.safe_iff` — rendered text is safe exactly where no comment opens between a literal
  segment and a fragment.
* `lexicallySafe_of_mysql` — rendered text for MySQL is safe.
* `lexicallySafe_iff` — when rendered text for PostgreSQL or SQLite is safe.
-/

namespace SafeSql.Rendering

open Template (Segment Placeholder placeholders CharClass)
open Template.Walk (Reads Mode walk)
open Template.Lexer (opensLine)
open Fragment (pieces classesOf)
open Dialect (Regular)

/-- A literal segment that ends in a dash stands before a placeholder whose fragment begins with
a dash. -/
def DashesMeet (d : Dialect) : List Segment → List Value → Prop
  | .literal text :: .placeholder p :: segments, value :: arguments =>
    (text.getLast? = some '-' ∧ ∃ more, Fragment.format d p.kind value = .ok ('-' :: more))
      ∨ DashesMeet d segments arguments
  | .placeholder _ :: segments, _ :: arguments => DashesMeet d segments arguments
  | _, _ => False

/-- No comment opens between a literal segment and the fragment behind it. -/
def Apart (d : Dialect) : List Segment → List (List Char) → Prop
  | .literal text :: segments, fragments =>
    (text.getLast? = some '-' → opensLine d (fill segments fragments) = false)
      ∧ Apart d segments fragments
  | .placeholder _ :: segments, _ :: fragments => Apart d segments fragments
  | _, _ => True

variable {d : Dialect} {segments : List Segment} {arguments : List Value}
  {fragments : List (List Char)}

/-! ## Between a literal segment and a fragment -/

/-- A comment opens at a dash before a fragment that begins with a dash, where any two dashes
open one. -/
theorem opensLine_of_begins {text : List Char} (h : Fragment.Begins text) (rest : List Char) :
    opensLine d (text ++ rest) = (!d.dashCommentNeedsSpace && text.head? = some '-') := by
  obtain ⟨c, more, rfl, -, -, dash⟩ := h
  by_cases is_dash : c = '-'
  · obtain ⟨c', more', rfl, blank⟩ := dash is_dash
    simp [opensLine, is_dash, blank]
  · simp [opensLine, is_dash]

section Regular

variable (regular : Regular d)
include regular

/-- A text is read alike before a placeholder and before its fragment, when no comment opens
between them. -/
theorem reads_before_fragment {text : List Char} {found : List CharClass} {p : Placeholder}
    {mode : Mode}
    (read : Reads d .code text ((Segment.placeholder p :: segments).flatMap Segment.source) found
      mode)
    (filled : Filled d (.placeholder p :: segments) arguments fragments)
    (apart : text.getLast? = some '-' →
      opensLine d (fill (.placeholder p :: segments) fragments) = false) :
    Reads d .code text (fill (.placeholder p :: segments) fragments) found mode := by
  cases filled with
  | placeholder unnamed parsed written later =>
    obtain ⟨c, more, rfl, blank, star, -⟩ :=
      (Fragment.written_format regular parsed written).begins regular
    have head : ((Segment.placeholder p :: segments).flatMap Segment.source).head? = some '?' := rfl
    have plain : Text.isBlank '?' = false := by decide
    refine read.congr (fun ends => ?_) ?_ ?_
    · rw [apart ends]
      rfl
    · rw [head]
      simp [fill, blank, plain]
    · rw [head]
      simp [fill, star]

/-! ## Safety -/

/-- A filled template is safe where no comment opens between a literal segment and a fragment.
What stands before both texts is arbitrary, so that the offsets in the template are right. -/
theorem Filled.safe (h : Filled d segments arguments fragments) (apart : Apart d segments fragments)
    {before : List Char} {earlier : List CharClass} (same : earlier.length = before.length) :
    ∃ found written, walk d .code (segments.flatMap Segment.source) = some found ∧
      walk d .code (fill segments fragments) = some written ∧
      List.Forall₂ (Kept (before ++ segments.flatMap Segment.source) (earlier ++ found))
        (layout d before.length segments arguments) written := by
  induction h generalizing before earlier with
  | nil => exact ⟨[], [], rfl, rfl, .nil⟩
  | @last text found mode read closed =>
    have whole := read.walk_eq
    rw [List.append_nil, walk, if_pos closed, Option.map_some, List.append_nil] at whole
    refine ⟨found, found, by simpa [Segment.source] using whole, by simpa [fill] using whole, ?_⟩
    have kept := @kept_copied before text [] earlier found [] same read.length_eq
    simpa [layout, Segment.source] using kept
  | @literal text found p segments arguments fragments read later ih =>
    obtain ⟨boundary, apart⟩ := apart
    have rendered := reads_before_fragment regular read later boundary
    have text_same : (earlier ++ found).length = (before ++ text).length := by
      simp [same, read.length_eq]
    obtain ⟨found', written', template_eq, sql_eq, kept⟩ := ih apart text_same
    refine ⟨found ++ found', found ++ written', ?_, ?_, ?_⟩
    · rw [List.flatMap_cons, Segment.source, read.walk_eq, template_eq, Option.map_some]
    · rw [fill, rendered.walk_eq, sql_eq, Option.map_some]
    · rw [layout, List.flatMap_cons, Segment.source, ← List.append_assoc, ← List.append_assoc]
      rw [List.length_append] at kept
      exact List.rel_append (kept_copied same read.length_eq) kept
  | @placeholder p value fragment segments arguments fragments unnamed parsed written later ih =>
    have fragment_reads := (Fragment.written_format regular parsed written).reads
      (fill segments fragments)
    have token_reads := reads_token regular unnamed (segments.flatMap Segment.source)
    have token_same : (earlier ++ List.replicate p.token.length CharClass.code).length
        = (before ++ p.token).length := by simp [same]
    obtain ⟨found', written', template_eq, sql_eq, kept⟩ := ih apart token_same
    refine ⟨List.replicate p.token.length .code ++ found', classesOf (pieces d p.kind value)
      ++ written', ?_, ?_, ?_⟩
    · rw [List.flatMap_cons, Segment.source, token_reads.walk_eq, template_eq, Option.map_some]
    · rw [fill, fragment_reads.walk_eq, sql_eq, Option.map_some]
    · rw [layout, List.flatMap_cons, Segment.source, ← List.append_assoc, ← List.append_assoc]
      rw [List.length_append] at kept
      exact List.rel_append (kept_pieces _ _ _) kept

/-- Where a comment opens between a text that ends in a dash and what stands in the place of the
placeholder behind it, the first character of this is in the comment. -/
theorem comment_behind_dash {text rest : List Char} {found written : List CharClass}
    {p : Placeholder} {c : Char}
    (read : Reads d .code text ((Segment.placeholder p :: segments).flatMap Segment.source) found
      .code)
    (ends : text.getLast? = some '-') (blank : Text.isBlank c = false)
    (opens : opensLine d (c :: rest) = true)
    (reads : walk d .code (text ++ c :: rest) = some written) :
    ∃ before others, written = before ++ .comment :: others ∧ before.length = text.length := by
  have no_quote : d.quoteChars.contains '-' = false := regular.not_quote (.inr (.inl rfl))
  obtain ⟨init, rfl⟩ := List.getLast?_eq_some_iff.1 ends
  obtain ⟨before, cls, rfl, first⟩ := read.before_dash no_quote
  -- up to the dash the text is read as in the template
  have plain : Text.isBlank '?' = false := by decide
  have same : ((Segment.placeholder p :: segments).flatMap Segment.source).head?.map Text.isBlank
      = (c :: rest).head?.map Text.isBlank := by
    rw [List.head?_cons, Option.map_some, blank, ← plain]
    rfl
  have opens_alike := @Template.Walk.opensLine_append d ['-'] _ _ same (by simp)
  have split := (first.congr (fun _ => opens_alike) rfl Iff.rfl).walk_eq
  rw [List.append_assoc, List.singleton_append] at reads
  rw [List.singleton_append, reads] at split
  -- there a comment opens
  obtain ⟨behind, comment, rfl⟩ := Option.map_eq_some_iff.1 split.symm
  obtain ⟨others, rfl⟩ := Template.Walk.comment_of_opensLine no_quote opens comment
  exact ⟨before ++ [.comment], others, by simp, by simpa using read.length_eq⟩

/-- Where the characters of a fragment are kept, no comment opens before it. -/
theorem closed_of_kept {source text : List Char} {found earlier written : List CharClass}
    {p : Placeholder} {offset offset' : Nat}
    (read : Reads d .code text ((Segment.placeholder p :: segments).flatMap Segment.source) found
      .code)
    (filled : Filled d (.placeholder p :: segments) arguments fragments)
    (reads : walk d .code (text ++ fill (.placeholder p :: segments) fragments) = some written)
    (kept : List.Forall₂ (Kept source earlier) (copiedLayout offset text
      ++ layout d offset' (.placeholder p :: segments) arguments) written)
    (ends : text.getLast? = some '-') :
    opensLine d (fill (.placeholder p :: segments) fragments) = false := by
  cases filled with
  | @placeholder _ value _ _ arguments fragments unnamed parsed accepted later =>
    have pieces_written := Fragment.written_format regular parsed accepted
    obtain ⟨c, more, rfl, blank, -⟩ := pieces_written.begins regular
    by_contra opens
    rw [Bool.not_eq_false] at opens
    obtain ⟨before, others, rfl, same⟩ :=
      comment_behind_dash regular read ends blank opens reads
    -- the first character of the fragment is kept, and it is in a comment
    have behind := List.forall₂_drop_append _ _ _ kept
    rw [layout, same, ← length_copiedLayout offset, List.drop_left] at behind
    have laid := pieces_written.text_eq
    rw [← map_fst_piecesLayout] at laid
    obtain ⟨x, xs, pieces_eq, -, -⟩ := List.map_eq_cons_iff.1 laid
    rw [pieces_eq, List.cons_append] at behind
    obtain _ | ⟨in_comment, -⟩ := behind
    exact not_kept_comment (by rw [pieces_eq]; exact List.mem_cons_self) in_comment

/-- Where a filled template is safe, no comment opens between a literal segment and a fragment. -/
theorem Filled.apart (h : Filled d segments arguments fragments) {source : List Char}
    {earlier written : List CharClass} {offset : Nat}
    (reads : walk d .code (fill segments fragments) = some written)
    (kept : List.Forall₂ (Kept source earlier) (layout d offset segments arguments) written) :
    Apart d segments fragments := by
  induction h generalizing offset written with
  | nil => trivial
  | last => exact ⟨fun _ => rfl, trivial⟩
  | @literal text found p segments arguments fragments read later ih =>
    have closed := closed_of_kept regular read later reads kept
    have rendered := reads_before_fragment regular read later closed
    rw [fill, rendered.walk_eq] at reads
    obtain ⟨written', behind_reads, rfl⟩ := Option.map_eq_some_iff.1 reads
    have behind := List.forall₂_drop_append _ _ _ kept
    rw [layout, read.length_eq, ← length_copiedLayout offset, List.drop_left] at behind
    exact ⟨closed, ih behind_reads behind⟩
  | @placeholder p value fragment segments arguments fragments _ parsed accepted later ih =>
    have fragment_reads := (Fragment.written_format regular parsed accepted).reads
      (fill segments fragments)
    rw [fill, fragment_reads.walk_eq] at reads
    obtain ⟨written', behind_reads, rfl⟩ := Option.map_eq_some_iff.1 reads
    have behind := List.forall₂_drop_append _ _ _ kept
    rw [layout, ← (kept_pieces source earlier _).length_eq, List.drop_left] at behind
    exact ih behind_reads behind

/-- No comment opens where two dashes need a blank, or where no two dashes meet. -/
theorem Filled.apart_iff (h : Filled d segments arguments fragments) :
    Apart d segments fragments ↔
      d.dashCommentNeedsSpace = true ∨ ¬ DashesMeet d segments arguments := by
  induction h with
  | nil => simp [Apart, DashesMeet]
  | last => simp [Apart, DashesMeet, opensLine, fill]
  | @literal text found p segments arguments fragments read later ih =>
    rw [Apart, ih]
    cases later with
    | @placeholder _ value fragment _ arguments fragments unnamed parsed accepted later =>
      have begins := (Fragment.written_format regular parsed accepted).begins regular
      have dash : fragment.head? = some '-' ↔
          ∃ more, Fragment.format d p.kind value = .ok ('-' :: more) := by
        rw [accepted]
        cases fragment <;> simp [eq_comm]
      rw [fill, opensLine_of_begins begins]
      simp only [DashesMeet, ← dash]
      cases d.dashCommentNeedsSpace <;> simp
  | placeholder unnamed parsed accepted later ih => simpa [Apart, DashesMeet] using ih

/-- What is rendered from a filled template is safe exactly where no comment opens between a
literal segment and a fragment. -/
theorem Filled.safe_iff (h : Filled d segments arguments fragments) :
    LexicallySafe d (segments.flatMap Segment.source) (fill segments fragments)
      (layout d 0 segments arguments) ↔ Apart d segments fragments := by
  simp only [LexicallySafe, Template.classes_eq_walk]
  constructor
  · rintro ⟨-, found, written, -, reads, kept⟩
    exact h.apart regular reads kept
  · intro apart
    have safe := @Filled.safe d segments arguments fragments regular h apart [] [] rfl
    obtain ⟨found, written, template_eq, sql_eq, kept⟩ := safe
    exact ⟨map_fst_layout regular h 0, found, written, template_eq, sql_eq, kept⟩

end Regular

theorem format_int (d : Dialect) {n : Int} {text : List Char} (h : Whole.text? n = some text) :
    Fragment.format d .integer (.int n) = .ok text := by
  have shape : Fragment.shapeFor .integer (.int n) = .ok .number := rfl
  have whole : Fragment.wholeText .integer (.int n) n = .ok text := by
    unfold Fragment.wholeText
    rw [h]
  exact Except.bind_eq_ok.2 ⟨.number, shape, whole⟩

/-- Text that is rendered for MySQL from a template without rendered SQL is safe. -/
theorem lexicallySafe_of_mysql {template : Value} {source sql : String} {caller : Option String}
    (text : templateText template = .ok source)
    (read : Template.segments .mysql source = .ok segments)
    (parsed : ∀ p ∈ placeholders segments, p.kind ≠ .raw)
    (rendered : positional .mysql template arguments caller = .ok (.ok sql)) :
    LexicallySafe .mysql source.toList sql.toList (layout .mysql 0 segments arguments) := by
  obtain ⟨fragments, filled, sql_eq⟩ := filled_of_rendered text read parsed rendered
  have regular := Dialect.mysql_regular
  have apart := (filled.apart_iff regular).2 (.inl rfl)
  rw [← Template.source_of_segmentsFrom read, sql_eq]
  exact (filled.safe_iff regular).2 apart

/-- Escaped quotes, touching spans and a second dash leave the classes of the template alone. -/
theorem lexicallySafe_touching_spans :
    LexicallySafe .mysql "SELECT '?'?s-?i /*?*/ # ?s".toList
      "SELECT '?''\\\\\\'; -- '--5 /*?*/ # ?s".toList
      (layout .mysql 0 [.literal "SELECT '?'".toList, .placeholder ⟨.string, none, 10⟩,
        .literal ['-'], .placeholder ⟨.integer, none, 13⟩, .literal " /*?*/ # ?s".toList]
        [.text "\\'; -- ", .int (-5)]) := by
  have read : Template.segments .mysql "SELECT '?'?s-?i /*?*/ # ?s" =
      .ok [.literal "SELECT '?'".toList, .placeholder ⟨.string, none, 10⟩, .literal ['-'],
        .placeholder ⟨.integer, none, 13⟩, .literal " /*?*/ # ?s".toList] := by decide +kernel
  have quoted : Fragment.format .mysql .string (.text "\\'; -- ")
      = .ok "'\\\\\\'; -- '".toList := rfl
  have dashed := format_int .mysql (by decide +kernel : Whole.text? (-5) = some ['-', '5'])
  refine @lexicallySafe_of_mysql _ _ (.text _) _ _ none rfl read (by decide) ?_
  rw [positional_of_matched rfl read (by decide)]
  simp [fragmentOf, quoted, dashed, outcome, fill]

/-- Text that is rendered for PostgreSQL or SQLite from a template without rendered SQL is safe
unless a dash of the template stands before a fragment that begins with a dash. -/
theorem lexicallySafe_iff (known : d = .postgresql ∨ d = .sqlite) {template : Value}
    {source sql : String} {caller : Option String} (text : templateText template = .ok source)
    (read : Template.segments d source = .ok segments)
    (parsed : ∀ p ∈ placeholders segments, p.kind ≠ .raw)
    (rendered : positional d template arguments caller = .ok (.ok sql)) :
    LexicallySafe d source.toList sql.toList (layout d 0 segments arguments) ↔
      ¬ DashesMeet d segments arguments := by
  obtain ⟨fragments, filled, sql_eq⟩ := filled_of_rendered text read parsed rendered
  have regular : Regular d := by
    obtain rfl | rfl := known
    · exact Dialect.postgresql_regular
    · exact Dialect.sqlite_regular
  have any_dashes : d.dashCommentNeedsSpace = false := by
    obtain rfl | rfl := known <;> rfl
  rw [← Template.source_of_segmentsFrom read, sql_eq, filled.safe_iff regular,
    filled.apart_iff regular, any_dashes]
  simp

/-- A dash that a space keeps from a negative number does no harm. -/
theorem lexicallySafe_spaced_dash :
    LexicallySafe .sqlite "'-'?s - ?i".toList "'-'''';--' - -5".toList
      (layout .sqlite 0 [.literal "'-'".toList, .placeholder ⟨.string, none, 3⟩,
        .literal " - ".toList, .placeholder ⟨.integer, none, 8⟩] [.text "';--", .int (-5)]) := by
  have read : Template.segments .sqlite "'-'?s - ?i" =
      .ok [.literal "'-'".toList, .placeholder ⟨.string, none, 3⟩, .literal " - ".toList,
        .placeholder ⟨.integer, none, 8⟩] := by decide +kernel
  have quoted : Fragment.format .sqlite .string (.text "';--") = .ok "''';--'".toList := rfl
  have dashed := format_int .sqlite (by decide +kernel : Whole.text? (-5) = some ['-', '5'])
  refine (@lexicallySafe_iff _ _ _ (.inr rfl) (.text _) _ _ none rfl read (by decide) ?_).2 ?_
  · rw [positional_of_matched rfl read (by decide)]
    simp [fragmentOf, quoted, dashed, outcome, fill]
  · simp [DashesMeet]

/-- A dash of the template and the sign of a number open a comment together. -/
theorem not_lexicallySafe_dash_before_sign :
    positional .postgresql (.text "SELECT 1 -?i") [.int (-5)] none = .ok (.ok "SELECT 1 --5") ∧
      ¬ LexicallySafe .postgresql "SELECT 1 -?i".toList "SELECT 1 --5".toList
        (layout .postgresql 0 [.literal "SELECT 1 -".toList, .placeholder ⟨.integer, none, 10⟩]
          [.int (-5)]) := by
  have read : Template.segments .postgresql "SELECT 1 -?i" =
      .ok [.literal "SELECT 1 -".toList, .placeholder ⟨.integer, none, 10⟩] := by decide +kernel
  have dashed := format_int .postgresql (by decide +kernel : Whole.text? (-5) = some ['-', '5'])
  have rendered : positional .postgresql (.text "SELECT 1 -?i") [.int (-5)] none
      = .ok (.ok "SELECT 1 --5") := by
    rw [positional_of_matched rfl read (by decide)]
    simp [fragmentOf, dashed, outcome, fill]
  refine ⟨rendered, fun safe => ?_⟩
  obtain ⟨fragments, filled, sql_eq⟩ := filled_of_rendered rfl read (by decide) rendered
  rw [← Template.source_of_segmentsFrom read, sql_eq,
    filled.safe_iff Dialect.postgresql_regular, filled.apart_iff Dialect.postgresql_regular] at safe
  obtain needs | apart := safe
  · exact Bool.false_ne_true needs
  · exact apart (.inl ⟨rfl, ['5'], dashed⟩)

end SafeSql.Rendering
