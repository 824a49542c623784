import SafeSql.Proofs.Template.Lexer
import SafeSql.Proofs.Template.Placement

/-!
# Templates with a line end between them

A line end closes a comment of its line, is no part of a name and keeps apart what would open a
comment or go on with a quoted span. So a template that is read to its end is read alike in front
of a line end and any further text, and this text is read like a template of its own.

## Main definitions

* `Segment.moved` — a segment as it stands further behind.
* `joined` — segments of two templates, one behind the other.

## Main statements

* `Lexeme.next_lineEnd` — what stands at the front of a text stands there before a line end.
* `segments_lineEnd` — the segments of two templates with a line end between them.
-/

namespace SafeSql.Template

variable {d : Dialect} {text rest more : List Char}

/-! ## Spans in front of a line end -/

theorem Span.quotedTail_append {quote : Char} {backslash : Bool} {length : Nat}
    (h : quotedTail quote backslash text = some length) (apart : more.head? ≠ some quote) :
    quotedTail quote backslash (text ++ more) = some length := by
  fun_induction quotedTail quote backslash text generalizing length with
  | case1 | case2 | case4 => contradiction
  | case3 escaped =>
    cases more with
    | nil => simpa [quotedTail, escaped] using h
    | cons next more =>
      have other : next ≠ quote := by simpa using apart
      simpa [quotedTail, escaped, other] using h
  | case5 c next rest escaped ih =>
    obtain ⟨length, closed, rfl⟩ := Option.map_eq_some_iff.1 h
    simp [quotedTail, escaped, ih closed]
  | case6 rest escaped ih =>
    obtain ⟨length, closed, rfl⟩ := Option.map_eq_some_iff.1 h
    simp [quotedTail, escaped, ih closed]
  | case7 next rest escaped single => simpa [quotedTail, escaped, single] using h
  | case8 c next rest escaped other ih =>
    obtain ⟨length, closed, rfl⟩ := Option.map_eq_some_iff.1 h
    have later := ih closed
    rw [List.cons_append] at later
    simp [quotedTail, escaped, other, later]

theorem Span.blockTail_append {length : Nat} (h : blockTail text = some length)
    (more : List Char) : blockTail (text ++ more) = some length := by
  fun_induction blockTail text generalizing length with
  | case1 => contradiction
  | case2 c rest closes =>
    cases rest <;> simp_all [blockTail]
  | case3 c rest other ih =>
    obtain ⟨length, closed, rfl⟩ := Option.map_eq_some_iff.1 h
    cases rest with
    | nil => contradiction
    | cons next rest =>
      have later := ih closed
      rw [List.cons_append] at later
      simp_all [blockTail]

/-- A comment that its line does not close is closed by the line end. -/
theorem Span.lineTail_lineEnd (text more : List Char) :
    lineTail (text ++ '\n' :: more) = lineTail text ∨
      lineTail text = text.length ∧ lineTail (text ++ '\n' :: more) = text.length + 1 := by
  fun_induction lineTail text with
  | case1 => simp [lineTail]
  | case2 rest => simp [lineTail]
  | case3 c rest other ih =>
    obtain same | ⟨whole, closed⟩ := ih
    · simp [lineTail, other, same]
    · simp [lineTail, other, whole, closed]

/-! ## Lexemes in front of a line end -/

theorem nameAfter?_lineEnd (text more : List Char) :
    nameAfter? (text ++ '\n' :: more) = nameAfter? text := by
  have no_name : isNameChar '\n' = false ∧ isNameStart '\n' = false := by decide
  have name_ends (text : List Char) :
      (text ++ '\n' :: more).takeWhile isNameChar = text.takeWhile isNameChar := by
    induction text with
    | nil => simp [no_name]
    | cons c text ih => simp [List.takeWhile_cons, ih]
  obtain _ | ⟨c, _ | ⟨c', text⟩⟩ := text
  · cases more <;> rfl
  · by_cases colon : c = ':'
    · subst colon
      simp [nameAfter?, no_name]
    · simp [nameAfter?, colon]
  · by_cases colon : c = ':'
    · subst colon
      simp [nameAfter?, name_ends]
    · simp [nameAfter?, colon]

theorem Lexeme.afterMarker_lineEnd (text more : List Char) :
    afterMarker (text ++ '\n' :: more) = afterMarker text := by
  cases text with
  | nil => rfl
  | cons letter text =>
    simp only [List.cons_append, afterMarker, nameAfter?_lineEnd]

theorem Lexer.opensLine_lineEnd (d : Dialect) (text more : List Char) :
    opensLine d (text ++ '\n' :: more) = opensLine d text := by
  have blank : Text.isBlank '\n' = true := by decide
  obtain _ | ⟨c, _ | ⟨c', text⟩⟩ := text
  · cases more <;> rfl
  · by_cases dash : c = '-'
    · subst dash
      simp [opensLine, blank]
    · cases more <;> simp [opensLine, dash]
  · by_cases dash : c = '-' <;> simp [opensLine, dash]

theorem Lexeme.afterSlash_lineEnd {lexeme : Lexeme} (h : afterSlash text = .ok lexeme)
    (more : List Char) : afterSlash (text ++ '\n' :: more) = .ok lexeme := by
  unfold afterSlash at h
  split at h
  next text =>
    split at h
    · contradiction
    next length closed => simpa [afterSlash, Span.blockTail_append closed] using h
  next other =>
    have no_star : text.head? ≠ some '*' := by
      intro star
      obtain ⟨text, rfl⟩ := List.head?_eq_some_iff.1 star
      exact other text rfl
    cases text <;> simp_all [afterSlash]

/-- What stands at the front of a text stands there before a line end. Only a comment that goes on
to the end of the text takes the line end with it. -/
theorem Lexeme.next_lineEnd {c : Char} {lexeme : Lexeme}
    (plain : d.quoteChars.contains '\n' = false) (h : next d c rest = .ok lexeme)
    (more : List Char) :
    next d c (rest ++ '\n' :: more) = .ok lexeme ∨
      lexeme = .text rest.length ∧
        next d c (rest ++ '\n' :: more) = .ok (.text (rest.length + 1)) := by
  -- the cases are those of `Lexeme.next`, in its order
  unfold next at h ⊢
  split at h
  next quote =>
    rw [if_pos quote]
    split at h
    · contradiction
    next length closed =>
      have apart : ('\n' :: more).head? ≠ some c := by
        rintro ⟨⟩
        rw [plain] at quote
        contradiction
      rw [Span.quotedTail_append closed apart]
      exact .inl h
  next quote =>
  rw [if_neg quote]
  split at h
  next mark =>
    rw [if_pos mark, afterMarker_lineEnd]
    exact .inl h
  next mark =>
  rw [if_neg mark]
  have line (h : lexeme = .text (Span.lineTail rest)) :
      .text (Span.lineTail (rest ++ '\n' :: more)) = lexeme ∨
        lexeme = .text rest.length ∧
          Span.lineTail (rest ++ '\n' :: more) = rest.length + 1 := by
    subst h
    obtain same | ⟨whole, closed⟩ := Span.lineTail_lineEnd rest more
    · exact .inl (by rw [same])
    · exact .inr ⟨by rw [whole], closed⟩
  split at h
  next hash =>
    rw [if_pos hash]
    simpa using line (Except.ok.inj h).symm
  next hash =>
  rw [if_neg hash]
  split at h
  next dash =>
    rw [if_pos dash, Lexer.afterDash_eq, Lexer.opensLine_lineEnd]
    rw [Lexer.afterDash_eq] at h
    by_cases opens : Lexer.opensLine d rest
    · rw [if_pos opens] at h ⊢
      simpa using line (Except.ok.inj h).symm
    · rw [if_neg opens] at h ⊢
      exact .inl h
  next dash =>
  rw [if_neg dash]
  split at h
  next slash =>
    rw [if_pos slash]
    exact .inl (afterSlash_lineEnd h more)
  next slash =>
    rw [if_neg slash]
    exact .inl h

theorem Lexeme.next_newline (plain : d.quoteChars.contains '\n' = false) (rest : List Char) :
    next d '\n' rest = .ok (.text 0) := by
  simp only [next, plain]
  rfl

/-! ## Segments -/

def Placeholder.moved (n : Nat) (p : Placeholder) : Placeholder :=
  { p with offset := p.offset + n }

/-- A segment as it stands so many characters further behind. -/
def Segment.moved (n : Nat) : Segment → Segment
  | .literal text => .literal text
  | .placeholder p => .placeholder (p.moved n)

/-- Segments of two texts, one behind the other. -/
def joined : List Segment → List Segment → List Segment
  | [], later => later
  | .literal text :: segments, later => literalCons text (joined segments later)
  | .placeholder p :: segments, later => .placeholder p :: joined segments later

theorem literalCons_literalCons (text more : List Char) (segments : List Segment) :
    literalCons text (literalCons more segments) = literalCons (text ++ more) segments := by
  cases segments with
  | nil => rfl
  | cons segment segments => cases segment <;> simp [literalCons]

theorem joined_literalCons (text : List Char) (segments later : List Segment) :
    joined (literalCons text segments) later = literalCons text (joined segments later) := by
  cases segments with
  | nil => rfl
  | cons segment segments =>
    cases segment with
    | literal more => exact (literalCons_literalCons text more _).symm
    | placeholder p => rfl

theorem moved_literalCons (n : Nat) (text : List Char) (segments : List Segment) :
    (literalCons text segments).map (Segment.moved n) =
      literalCons text (segments.map (Segment.moved n)) := by
  cases segments with
  | nil => rfl
  | cons segment segments => cases segment <;> rfl

variable {template : String} {offset : Nat} {segments later : List Segment}

/-- A text that is read is read alike further behind and in another template. -/
theorem segmentsFrom_moved (h : segmentsFrom d template offset text = .ok segments)
    (template' : String) (n : Nat) :
    segmentsFrom d template' (offset + n) text = .ok (segments.map (Segment.moved n)) := by
  fun_induction segmentsFrom d template offset text generalizing segments with
  | case1 =>
    obtain rfl := Except.ok.inj h
    rw [segmentsFrom, List.map_nil]
  | case2 => contradiction
  | case3 offset c rest more read ih =>
    obtain ⟨later, cut, rfl⟩ := Except.map_eq_ok.1 h
    have shift : offset + n + more + 1 = offset + more + 1 + n := by omega
    rw [segmentsFrom, read]
    simp only [shift, ih cut, Except.ok_map, moved_literalCons]
  | case4 offset c rest kind name more read ih =>
    obtain ⟨later, cut, rfl⟩ := Except.map_eq_ok.1 h
    have shift : offset + n + more + 1 = offset + more + 1 + n := by omega
    rw [segmentsFrom, read]
    simp only [shift, ih cut, Except.ok_map]
    rfl

/-- A text that is read is read alike before a line end, and what stands behind the line end is
read on its own. -/
theorem segmentsFrom_lineEnd (plain : d.quoteChars.contains '\n' = false)
    (h : segmentsFrom d template offset text = .ok segments) {template' : String}
    (h' : segmentsFrom d template' (offset + text.length + 1) more = .ok later) :
    segmentsFrom d template' offset (text ++ '\n' :: more) =
      .ok (joined segments (literalCons ['\n'] later)) := by
  fun_induction segmentsFrom d template offset text generalizing segments with
  | case1 offset =>
    obtain rfl := Except.ok.inj h
    rw [List.nil_append, segmentsFrom, Lexeme.next_newline plain]
    simp only [List.drop_zero, List.take_zero]
    rw [show offset + 0 + 1 = offset + [].length + 1 from rfl, h']
    rfl
  | case2 => contradiction
  | case3 offset c rest length read ih =>
    obtain ⟨others, cut, rfl⟩ := Except.map_eq_ok.1 h
    have fits := Lexeme.le_of_next_text read
    rw [List.cons_append, segmentsFrom, joined_literalCons]
    obtain same | ⟨whole, closed⟩ := Lexeme.next_lineEnd plain read more
    · have reach : offset + length + 1 + (rest.drop length).length + 1
          = offset + (c :: rest).length + 1 := by simp; omega
      rw [same]
      simp only
      rw [List.drop_append_of_le_length fits, List.take_append_of_le_length fits,
        ih cut (by rw [reach]; exact h')]
      rfl
    · -- the comment takes the line end with it, and nothing is left of the first text
      obtain rfl := Lexeme.text.inj whole
      rw [List.drop_length, segmentsFrom] at cut
      obtain rfl := Except.ok.inj cut
      have reach : offset + (rest.length + 1) + 1 = offset + (c :: rest).length + 1 := rfl
      rw [closed]
      simp only
      rw [reach, List.drop_length_add_append, List.take_length_add_append]
      simp only [List.drop_succ_cons, List.drop_zero, h', Except.ok_map, joined,
        literalCons_literalCons, List.take_length]
      rfl
  | case4 offset c rest kind name length read ih =>
    obtain ⟨others, cut, rfl⟩ := Except.map_eq_ok.1 h
    have fits := Lexeme.le_of_next_placeholder read
    have reach : offset + length + 1 + (rest.drop length).length + 1
        = offset + (c :: rest).length + 1 := by simp; omega
    obtain same | ⟨whole, -⟩ := Lexeme.next_lineEnd plain read more
    · rw [List.cons_append, segmentsFrom, same]
      simp only
      rw [List.drop_append_of_le_length fits, ih cut (by rw [reach]; exact h')]
      rfl
    · contradiction

/-- The segments of two templates with a line end between them: those of the first, the line end
and those of the second, which stand further behind. -/
theorem segments_lineEnd (plain : d.quoteChars.contains '\n' = false) {first second : String}
    (h : Template.segments d first = .ok segments) (h' : Template.segments d second = .ok later) :
    Template.segments d (first ++ "\n" ++ second) =
      .ok (joined segments (literalCons ['\n']
        (later.map (Segment.moved (first.toList.length + 1))))) := by
  have behind := segmentsFrom_moved h' (first ++ "\n" ++ second) (first.toList.length + 1)
  have text_eq : (first ++ "\n" ++ second).toList = first.toList ++ '\n' :: second.toList := by
    simp
  rw [Template.segments, text_eq]
  exact segmentsFrom_lineEnd plain h (by simpa [Nat.add_assoc] using behind)

end SafeSql.Template
