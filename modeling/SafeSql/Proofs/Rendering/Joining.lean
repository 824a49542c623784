import SafeSql.Proofs.Dialect.Quoting
import SafeSql.Proofs.Rendering.Outcome
import SafeSql.Proofs.Template.Joining

/-!
# Queries put together from parts

Templates with a line end between them render to their texts with a line end between these,
whatever they end in. So a part that was rendered before and is spliced in as it is stands there
as if its template had been written out in its place.

## Main statements

* `Rendered.joined` — two templates with a line end between them are rendered as one.
* `positional_joined` — joining and splicing parts of a query.
-/

namespace SafeSql.Rendering

open Template (Segment Placeholder placeholders joined literalCons)

variable {d : Dialect} {segments later : List Segment} {fragments others : List (List Char)}
  {arguments behind : List Value}

/-! ## Placeholders and fragments of joined segments -/

@[simp] theorem placeholders_literalCons (text : List Char) (segments : List Segment) :
    placeholders (literalCons text segments) = placeholders segments := by
  cases segments with
  | nil => rfl
  | cons segment segments => cases segment <;> rfl

@[simp] theorem placeholders_joined (segments later : List Segment) :
    placeholders (joined segments later) = placeholders segments ++ placeholders later := by
  induction segments with
  | nil => rfl
  | cons segment segments ih => cases segment <;> simp [joined, ih]

@[simp] theorem placeholders_moved (n : Nat) (segments : List Segment) :
    placeholders (segments.map (Segment.moved n)) =
      (placeholders segments).map (Placeholder.moved n) := by
  induction segments with
  | nil => rfl
  | cons segment segments ih => cases segment <;> simp [Segment.moved, ih]

@[simp] theorem fill_literalCons (text : List Char) (segments : List Segment)
    (fragments : List (List Char)) :
    fill (literalCons text segments) fragments = text ++ fill segments fragments := by
  cases segments with
  | nil => rfl
  | cons segment segments =>
    cases segment with
    | literal more => simp [literalCons, fill]
    | placeholder p => rfl

@[simp] theorem fill_moved (n : Nat) (segments : List Segment) (fragments : List (List Char)) :
    fill (segments.map (Segment.moved n)) fragments = fill segments fragments := by
  induction segments generalizing fragments with
  | nil => rfl
  | cons segment segments ih =>
    cases segment with
    | literal text => simp [Segment.moved, fill, ih]
    | placeholder p => cases fragments <;> simp [Segment.moved, fill, ih]

/-- Joined segments are filled one behind the other, each with its own fragments. -/
theorem fill_joined (enough : fragments.length = (placeholders segments).length) :
    fill (joined segments later) (fragments ++ others) =
      fill segments fragments ++ fill later others := by
  induction segments generalizing fragments with
  | nil =>
    obtain rfl := List.length_eq_zero_iff.1 enough
    rfl
  | cons segment segments ih =>
    cases segment with
    | literal text => simp [joined, fill, ih enough]
    | placeholder p =>
      cases fragments with
      | nil => simp at enough
      | cons fragment fragments => simp [joined, fill, ih (by simpa using enough)]

theorem matched_append {found more : List Placeholder} (h : ¬ Mismatched found arguments)
    (h' : ¬ Mismatched more behind) (n : Nat) :
    ¬ Mismatched (found ++ more.map (Placeholder.moved n)) (arguments ++ behind) := by
  obtain ⟨unnamed, same⟩ := not_or.1 h
  obtain ⟨unnamed', same'⟩ := not_or.1 h'
  refine not_or.2 ⟨?_, ?_⟩
  · rintro ⟨p, member, named⟩
    obtain here | further := List.mem_append.1 member
    · exact unnamed ⟨p, here, named⟩
    · obtain ⟨q, there, rfl⟩ := List.mem_map.1 further
      exact unnamed' ⟨q, there, named⟩
  · simp only [List.length_append, List.length_map, not_not] at same same' ⊢
    omega

/-! ## Joined templates -/

/-- Two templates with a line end between them are rendered as one, with the fragments of both. -/
theorem Rendered.joined (plain : d.quoteChars.contains '\n' = false) {first second : String}
    (h : Rendered d first arguments segments fragments)
    (h' : Rendered d second behind later others) :
    Rendered d (first ++ "\n" ++ second) (arguments ++ behind)
      (Template.joined segments (literalCons ['\n']
        (later.map (Segment.moved (first.toList.length + 1)))))
      (fragments ++ others) where
  read := Template.segments_lineEnd plain h.read h'.read
  matched := by
    simpa using matched_append h.matched h'.matched (first.toList.length + 1)
  written := by
    have enough := not_not.1 (not_or.1 h.matched).2
    rw [placeholders_joined, placeholders_literalCons, placeholders_moved,
      List.zip_append enough, List.zip_map_left]
    refine List.rel_append h.written ?_
    rw [List.forall₂_map_left_iff]
    exact h'.written

/-- Two texts that are rendered for themselves are rendered with a line end between them. -/
theorem positional_lineEnd (plain : d.quoteChars.contains '\n' = false) {first second : String}
    {sql sql' : String} (h : positional d (.text first) arguments none = .ok (.ok sql))
    (h' : positional d (.text second) behind none = .ok (.ok sql')) :
    positional d (.text (first ++ "\n" ++ second)) (arguments ++ behind) none
      = .ok (.ok (sql ++ "\n" ++ sql')) := by
  obtain ⟨segments, fragments, whole, rfl⟩ := (positional_eq_ok rfl).1 h
  obtain ⟨later, others, whole', rfl⟩ := (positional_eq_ok rfl).1 h'
  refine (positional_eq_ok rfl).2 ⟨_, _, whole.joined plain whole', ?_⟩
  rw [fill_joined whole.length_eq, fill_literalCons, fill_moved]
  simp [String.ofList_append, String.append_assoc]

/-- A value that is put in for a template of its own is its fragment. -/
theorem positional_marker (plain : d.quoteChars.contains '?' = false) {value : Value} {sql : String}
    (written : Fragment.raw value = .ok sql.toList) :
    positional d (.text "?p") [value] none = .ok (.ok sql) := by
  have lexeme : Template.Lexeme.next d '?' ['p'] = .ok (.placeholder .raw none 1) := by
    simp only [Template.Lexeme.next, plain]
    rfl
  have read : Template.segments d "?p" = .ok [.placeholder ⟨.raw, none, 0⟩] := by
    change Template.segmentsFrom d "?p" 0 ['?', 'p'] = _
    rw [Template.segmentsFrom, lexeme]
    simp [Template.segmentsFrom]
  have whole : Rendered d "?p" [value] [.placeholder ⟨.raw, none, 0⟩] [sql.toList] :=
    ⟨read, by simp [Mismatched, placeholders], .cons written .nil⟩
  exact (positional_eq_ok rfl).2 ⟨_, _, whole, by simp [fill]⟩

/-- Rendered SQL that is put in for a template of its own is the text itself. -/
theorem positional_spliced (plain : d.quoteChars.contains '?' = false) (sql : String) :
    positional d (.text "?p") [.text sql] none = .ok (.ok sql) :=
  positional_marker plain rfl

theorem contains_of_builtIn {base : Dialect} (builtIn : base.BuiltIn) :
    base.quoteChars.contains '\n' = false ∧ base.quoteChars.contains '?' = false := by
  obtain rfl | rfl | rfl := Dialect.eq_of_builtIn builtIn <;> decide

/-- Templates that are rendered for themselves are rendered with line ends between them, whatever
they end in; and a part that was rendered and is spliced in between two others gives the same
text as its template written out in its place, with its arguments among the others. -/
theorem positional_joined {base : Dialect} (builtIn : base.BuiltIn)
    (escape : List Char → List Char) {first second third : String}
    {arguments₁ arguments₂ arguments₃ : List Value} {sql₁ sql₂ sql₃ : String}
    (h₁ : positional (base.withEscape escape) (.text first) arguments₁ none = .ok (.ok sql₁))
    (h₂ : positional (base.withEscape escape) (.text second) arguments₂ none = .ok (.ok sql₂))
    (h₃ : positional (base.withEscape escape) (.text third) arguments₃ none = .ok (.ok sql₃)) :
    positional (base.withEscape escape) (.text (first ++ "\n" ++ second))
        (arguments₁ ++ arguments₂) none = .ok (.ok (sql₁ ++ "\n" ++ sql₂)) ∧
      positional (base.withEscape escape) (.text (first ++ "\n?p\n" ++ third))
          (arguments₁ ++ .text sql₂ :: arguments₃) none
        = positional (base.withEscape escape) (.text (first ++ "\n" ++ second ++ "\n" ++ third))
          (arguments₁ ++ arguments₂ ++ arguments₃) none ∧
      positional (base.withEscape escape) (.text (first ++ "\n" ++ second ++ "\n" ++ third))
          (arguments₁ ++ arguments₂ ++ arguments₃) none
        = .ok (.ok (sql₁ ++ "\n" ++ sql₂ ++ "\n" ++ sql₃)) := by
  obtain ⟨newline, mark⟩ := contains_of_builtIn builtIn
  have plain : (base.withEscape escape).quoteChars.contains '\n' = false := newline
  have two := positional_lineEnd plain h₁ h₂
  have three := positional_lineEnd plain two h₃
  have part : positional (base.withEscape escape) (.text "?p") [.text sql₂] none
      = .ok (.ok sql₂) := @positional_spliced (base.withEscape escape) mark sql₂
  have spliced := positional_lineEnd plain (positional_lineEnd plain h₁ part) h₃
  have template_eq : first ++ "\n?p\n" ++ third = first ++ "\n" ++ "?p" ++ "\n" ++ third := by
    simp [String.append_assoc]
  refine ⟨two, ?_, three⟩
  rw [three, template_eq]
  simpa using spliced

/-- A comment that its part does not close, a sign that its part leaves alone and a placeholder
at the end of a part, with the literals of a connection that doubles its quotes. -/
theorem positional_joined_open_comment :
    (positional (Dialect.mysql.withEscape (Dialect.double '\'')) (.text "SELECT ?n --")
        [.text "a"] none = .ok (.ok "SELECT \x60a\x60 --") ∧
      positional (Dialect.mysql.withEscape (Dialect.double '\'')) (.text "-") [] none
        = .ok (.ok "-") ∧
      positional (Dialect.mysql.withEscape (Dialect.double '\'')) (.text "?s") [.text "\\'"] none
        = .ok (.ok "'\\'''")) ∧
    positional (Dialect.mysql.withEscape (Dialect.double '\'')) (.text "SELECT ?n --\n?p\n?s")
        [.text "a", .text "-", .text "\\'"] none = .ok (.ok "SELECT \x60a\x60 --\n-\n'\\'''") := by
  have comment : Template.segments (Dialect.mysql.withEscape (Dialect.double '\'')) "SELECT ?n --"
      = .ok [.literal "SELECT ".toList, .placeholder ⟨.identifier, none, 7⟩,
        .literal " --".toList] := by decide +kernel
  have sign : Template.segments (Dialect.mysql.withEscape (Dialect.double '\'')) "-"
      = .ok [.literal "-".toList] := by decide +kernel
  have value : Template.segments (Dialect.mysql.withEscape (Dialect.double '\'')) "?s"
      = .ok [.placeholder ⟨.string, none, 0⟩] := by decide +kernel
  refine (and_iff_left_of_imp ?_).2 ⟨
    (positional_eq_ok rfl).2 ⟨_, _, ⟨comment, by decide, .cons rfl .nil⟩, rfl⟩,
    (positional_eq_ok rfl).2 ⟨_, _, ⟨sign, by decide, .nil⟩, rfl⟩,
    (positional_eq_ok rfl).2 ⟨_, _, ⟨value, by decide, .cons rfl .nil⟩, rfl⟩⟩
  rintro ⟨first, second, third⟩
  obtain ⟨-, spliced, joined⟩ :=
    positional_joined ⟨"mysql", rfl⟩ (Dialect.double '\'') first second third
  exact spliced.trans joined

end SafeSql.Rendering
