import SafeSql.Proofs.Template.Joining

/-!
# Templates without their names

Leaving out the names of placeholders changes nothing else in a template: spans and comments end
where they ended, and every placeholder keeps its kind. What stands at the front of a text is told
from at most two characters behind it, and these are the same with names or without.

## Main definitions

* `unnamedFrom` — the segments of a text without names, as they stand in the shorter text.
* `Apart` — behind no placeholder stands what could be its name.

## Main statements

* `Lexeme.next_text_congr` — literal text is read alike before texts that begin alike.
* `segmentsFrom_unnamed` — the segments of a text whose names were left out.
-/

namespace SafeSql.Template

variable {d : Dialect} {text rest rest' : List Char}

/-! ## Texts that begin alike -/

/-- Two texts have the same first two characters, as far as they have any. -/
def BeginAlike (text text' : List Char) : Prop :=
  text.take 2 = text'.take 2

namespace BeginAlike

theorem head?_eq (h : BeginAlike rest rest') : rest.head? = rest'.head? := by
  have first := congrArg List.head? h
  simpa [List.head?_take] using first

theorem nil_iff (h : BeginAlike rest rest') : rest = [] ↔ rest' = [] := by
  rw [← List.head?_eq_none_iff, h.head?_eq, List.head?_eq_none_iff]

/-- What stands before two texts that begin alike keeps them so. -/
theorem append (h : BeginAlike rest rest') (text : List Char) :
    BeginAlike (text ++ rest) (text ++ rest') := by
  obtain _ | ⟨c, _ | ⟨c', text⟩⟩ := text
  · exact h
  · have one := h.head?_eq
    cases rest <;> cases rest' <;> simp_all [BeginAlike]
  · rfl

theorem nameFollows_eq (h : BeginAlike rest rest') :
    Lexer.nameFollows rest = Lexer.nameFollows rest' := by
  have two (text : List Char) : Lexer.nameFollows text = Lexer.nameFollows (text.take 2) := by
    obtain _ | ⟨c, _ | ⟨c', text⟩⟩ := text
    · rfl
    · rfl
    · by_cases colon : c = ':' <;> simp [Lexer.nameFollows, colon]
  rw [two rest, two rest', h]

theorem opensLine_eq (h : BeginAlike rest rest') :
    Lexer.opensLine d rest = Lexer.opensLine d rest' := by
  have two (text : List Char) : Lexer.opensLine d text = Lexer.opensLine d (text.take 2) := by
    obtain _ | ⟨c, _ | ⟨c', text⟩⟩ := text
    · rfl
    · rfl
    · by_cases dash : c = '-' <;> simp [Lexer.opensLine, dash]
  rw [two rest, two rest', h]

end BeginAlike

/-! ## Literal text before texts that begin alike -/

/-- A closed span is closed within itself, and no further quote follows it. -/
theorem Span.quotedTail_own {quote : Char} {backslash : Bool} {length : Nat}
    (h : quotedTail quote backslash text = some length) :
    quotedTail quote backslash (text.take length) = some length ∧
      (text.drop length).head? ≠ some quote := by
  fun_induction quotedTail quote backslash text generalizing length with
  | case1 | case2 | case4 => contradiction
  | case3 escaped =>
    obtain rfl := Option.some.inj h
    simp [quotedTail, escaped]
  | case5 c next rest escaped ih =>
    obtain ⟨length, closed, rfl⟩ := Option.map_eq_some_iff.1 h
    simpa [quotedTail, escaped] using ih closed
  | case6 rest escaped ih =>
    obtain ⟨length, closed, rfl⟩ := Option.map_eq_some_iff.1 h
    simpa [quotedTail, escaped] using ih closed
  | case7 next rest single escaped =>
    obtain rfl := Option.some.inj h
    simp_all [quotedTail]
  | case8 c next rest escaped other ih =>
    obtain ⟨length, closed, rfl⟩ := Option.map_eq_some_iff.1 h
    obtain ⟨own, apart⟩ := ih closed
    refine ⟨?_, by simpa using apart⟩
    cases length with
    | zero => simp [quotedTail] at own
    | succ length => simp_all [quotedTail]

theorem Span.blockTail_own {length : Nat} (h : blockTail text = some length) :
    blockTail (text.take length) = some length := by
  fun_induction blockTail text generalizing length with
  | case1 => contradiction
  | case2 c rest closes =>
    obtain rfl := Option.some.inj h
    cases rest <;> simp_all [blockTail]
  | case3 c rest other ih =>
    obtain ⟨length, closed, rfl⟩ := Option.map_eq_some_iff.1 h
    have own := ih closed
    cases rest <;> cases length <;> simp_all [blockTail]

/-- A comment that ends where a text ends is closed by a line end there, or nothing follows. -/
theorem Span.lineTail_congr (h : lineTail (text ++ rest) = text.length)
    (ends : rest = [] ↔ rest' = []) : lineTail (text ++ rest') = text.length := by
  induction text with
  | nil =>
    cases rest with
    | nil => simp [ends.1 rfl, lineTail]
    | cons c rest =>
      by_cases newline : c = '\n' <;> simp [lineTail, newline] at h
  | cons c text ih =>
    by_cases newline : c = '\n'
    · simpa [lineTail, newline] using h
    · simp only [List.cons_append, lineTail, newline, if_false, List.length_cons,
        Nat.add_right_cancel_iff] at h ⊢
      exact ih h

/-- A marker is literal text exactly where no letter follows it. -/
theorem Lexeme.afterMarker_eq_text {more : Nat} :
    afterMarker text = .ok (.text more) ↔ more = 0 ∧ text.head?.any Char.isAlpha = false := by
  cases text with
  | nil => simp [afterMarker, eq_comm]
  | cons letter text =>
    by_cases alpha : letter.isAlpha
    · cases known : Kind.ofSigil? letter with
      | none => simp [afterMarker, alpha, known]
      | some kind => cases named : nameAfter? text <;> simp [afterMarker, alpha, known, named]
    · simp [afterMarker, alpha, eq_comm]

theorem Lexeme.afterSlash_congr (h : afterSlash (text ++ rest) = .ok (.text text.length))
    (heads : (text ++ rest).head? = (text ++ rest').head?) :
    afterSlash (text ++ rest') = .ok (.text text.length) := by
  by_cases star : (text ++ rest).head? = some '*'
  · obtain ⟨tail, opening⟩ := List.head?_eq_some_iff.1 star
    rw [opening] at h
    cases closed : Span.blockTail tail with
    | none => simp [afterSlash, closed] at h
    | some length =>
      have reach : length + 1 = text.length := by simpa [afterSlash, closed] using h
      cases text with
      | nil => simp at reach
      | cons c text =>
        rw [List.cons_append, List.cons.injEq] at opening
        obtain ⟨rfl, rfl⟩ := opening
        obtain rfl : length = text.length := by simpa using reach
        have own := Span.blockTail_own closed
        rw [List.take_left] at own
        simp [afterSlash, Span.blockTail_append own]
  · have alone (other : List Char) (no_star : other.head? ≠ some '*') :
        afterSlash other = .ok (.text 0) := by
      unfold afterSlash
      split <;> simp_all
    rw [alone _ star] at h
    rw [alone _ (heads ▸ star), h]

/-- Literal text at the front of a text stands there as well before a rest that begins alike. -/
theorem Lexeme.next_text_congr {c : Char} (h : next d c (text ++ rest) = .ok (.text text.length))
    (alike : BeginAlike rest rest') : next d c (text ++ rest') = .ok (.text text.length) := by
  have total := alike.append text
  -- the cases are those of `Lexeme.next`, in its order
  unfold next at h ⊢
  split at h
  next quote =>
    rw [if_pos quote]
    cases closed : Span.quotedTail c (d.backslashActive c) (text ++ rest) with
    | none => simp [closed] at h
    | some length =>
      obtain rfl : length = text.length := by simpa [closed] using h
      obtain ⟨own, apart⟩ := Span.quotedTail_own closed
      rw [List.take_left] at own
      rw [List.drop_left, alike.head?_eq] at apart
      rw [Span.quotedTail_append own apart]
  next quote =>
  rw [if_neg quote]
  split at h
  next mark =>
    rw [if_pos mark]
    rw [afterMarker_eq_text, total.head?_eq] at h
    exact afterMarker_eq_text.2 h
  next mark =>
  rw [if_neg mark]
  have line (h : Span.lineTail (text ++ rest) = text.length) :
      Span.lineTail (text ++ rest') = text.length := Span.lineTail_congr h alike.nil_iff
  split at h
  next hash =>
    rw [if_pos hash, line (by simpa using h)]
  next hash =>
  rw [if_neg hash]
  split at h
  next dash =>
    rw [if_pos dash, Lexer.afterDash_eq, ← total.opensLine_eq]
    rw [Lexer.afterDash_eq] at h
    by_cases opens : Lexer.opensLine d (text ++ rest)
    · rw [if_pos opens] at h ⊢
      rw [line (by simpa using h)]
    · rw [if_neg opens] at h ⊢
      exact h
  next dash =>
  rw [if_neg dash]
  split at h
  next slash =>
    rw [if_pos slash]
    exact afterSlash_congr h total.head?_eq
  next slash =>
    rw [if_neg slash]
    exact h

/-! ## Segments without names -/

/-- A marker and a letter are a placeholder without a name where no name follows. -/
theorem Lexeme.next_token {kind : Kind} (plain : d.quoteChars.contains marker = false)
    (follows : Lexer.nameFollows rest = false) :
    next d marker (kind.sigil :: rest) = .ok (.placeholder kind none 1) := by
  have alpha : kind.sigil.isAlpha = true := by cases kind <;> rfl
  have absent : nameAfter? rest = none := by
    unfold Lexer.nameFollows at follows
    unfold nameAfter?
    split <;> simp_all
  rw [next, plain]
  simp [afterMarker, alpha, absent]

/-- Segments without the names of their placeholders, as they stand from an offset on in the text
that is written without the names. -/
def unnamedFrom : Nat → List Segment → List Segment
  | _, [] => []
  | offset, .literal text :: segments =>
    .literal text :: unnamedFrom (offset + text.length) segments
  | offset, .placeholder p :: segments =>
    .placeholder ⟨p.kind, none, offset⟩ :: unnamedFrom (offset + 2) segments

/-- Behind no placeholder stands a colon and the beginning of a name. -/
def Apart : List Segment → Prop
  | [] => True
  | .literal _ :: segments => Apart segments
  | .placeholder _ :: segments =>
    Lexer.nameFollows (segments.flatMap Segment.source) = false ∧ Apart segments

theorem unnamedFrom_literalCons (offset : Nat) (text : List Char) (segments : List Segment) :
    unnamedFrom offset (literalCons text segments) =
      literalCons text (unnamedFrom (offset + text.length) segments) := by
  cases segments with
  | nil => rfl
  | cons segment segments => cases segment <;> simp [literalCons, unnamedFrom, Nat.add_assoc]

theorem apart_literalCons {text : List Char} {segments : List Segment} :
    Apart (literalCons text segments) ↔ Apart segments := by
  cases segments with
  | nil => rfl
  | cons segment segments => cases segment <;> rfl

/-- What stands behind a placeholder is found in the text at the end of its token. -/
theorem apart_of_placed {before : List Char} {segments : List Segment}
    (placed : Placed before.length segments)
    (free : ∀ p ∈ placeholders segments, Lexer.nameFollows
      ((before ++ segments.flatMap Segment.source).drop (p.offset + p.token.length)) = false) :
    Apart segments := by
  induction segments generalizing before with
  | nil => trivial
  | cons segment segments ih =>
    have behind : before ++ (segment :: segments).flatMap Segment.source =
        (before ++ segment.source) ++ segments.flatMap Segment.source := by simp
    rw [behind] at free
    cases segment with
    | literal text =>
      have placed : Placed (before ++ text).length segments := by
        rw [List.length_append]
        exact placed
      exact ih placed free
    | placeholder p =>
      obtain ⟨offset_eq, placed⟩ := placed
      rw [← List.length_append] at placed
      refine ⟨?_, ih placed fun q member => free q (List.mem_cons_of_mem p member)⟩
      have here := free p List.mem_cons_self
      rw [offset_eq, ← List.length_append] at here
      rwa [Segment.source, List.drop_left] at here

/-- A text begins alike with names and without: the name comes behind the marker and the letter. -/
theorem beginAlike_unnamedFrom (offset : Nat) (segments : List Segment) :
    BeginAlike (segments.flatMap Segment.source)
      ((unnamedFrom offset segments).flatMap Segment.source) := by
  induction segments generalizing offset with
  | nil => rfl
  | cons segment segments ih =>
    cases segment with
    | literal text => exact (ih _).append text
    | placeholder p => rfl

/-- The segments of a text whose names were left out are its segments without the names. -/
theorem segmentsFrom_unnamed {template : String} {offset : Nat} {segments : List Segment}
    (h : segmentsFrom d template offset text = .ok segments) (apart : Apart segments)
    (template' : String) (offset' : Nat) :
    segmentsFrom d template' offset' ((unnamedFrom offset' segments).flatMap Segment.source) =
      .ok (unnamedFrom offset' segments) := by
  fun_induction segmentsFrom d template offset text generalizing segments offset' with
  | case1 =>
    obtain rfl := Except.ok.inj h
    simp [unnamedFrom, segmentsFrom]
  | case2 => contradiction
  | case3 offset c rest more read ih =>
    obtain ⟨later, cut, rfl⟩ := Except.map_eq_ok.1 h
    have fits : (rest.take more).length = more :=
      List.length_take_of_le (Lexeme.le_of_next_text read)
    have alike := beginAlike_unnamedFrom (offset' + more + 1) later
    rw [source_of_segmentsFrom cut] at alike
    have whole : Lexeme.next d c (rest.take more ++ rest.drop more) =
        .ok (.text (rest.take more).length) := by rwa [List.take_append_drop, fits]
    have same := Lexeme.next_text_congr whole alike
    rw [fits] at same
    have reach : offset' + (c :: rest.take more).length = offset' + more + 1 := by
      simp [fits, Nat.add_assoc]
    rw [unnamedFrom_literalCons, source_literalCons, reach, List.cons_append, segmentsFrom, same]
    simp only
    rw [List.drop_left' fits, List.take_left' fits, ih cut (apart_literalCons.1 apart),
      Except.ok_map]
  | case4 offset c rest kind name more read ih =>
    obtain ⟨later, cut, rfl⟩ := Except.map_eq_ok.1 h
    obtain ⟨follows, apart⟩ := apart
    obtain ⟨-, plain, -⟩ := Lexeme.opened_of_next read
    rw [(beginAlike_unnamedFrom (offset' + 2) later).nameFollows_eq] at follows
    simp only [unnamedFrom, List.flatMap_cons, Segment.source, Placeholder.token, List.append_nil,
      List.cons_append, List.nil_append]
    rw [segmentsFrom, Lexeme.next_token plain follows]
    simp only [List.drop_succ_cons, List.drop_zero]
    rw [ih cut apart, Except.ok_map]

end SafeSql.Template
