import SafeSql.Proofs.Results
import SafeSql.Template.Segments

/-!
# Where segments stand

The segments of a template, written one after another, are the template again, and every
placeholder knows the offset at which it stands.

## Main definitions

* `Placed` — every placeholder among the segments stands at its offset.

## Main statements

* `source_of_segmentsFrom` — segments put together are the template.
* `placed_of_segmentsFrom` — its placeholders stand where they say.
-/

namespace SafeSql.Template

theorem Span.quotedTail_le {quote : Char} {backslash : Bool} {text : List Char} {length : Nat}
    (h : quotedTail quote backslash text = some length) : length ≤ text.length := by
  fun_induction quotedTail quote backslash text generalizing length <;>
    grind [Option.map_eq_some_iff]

theorem Span.lineTail_le (text : List Char) : lineTail text ≤ text.length := by
  fun_induction lineTail text <;> grind

theorem Span.blockTail_le {text : List Char} {length : Nat} (h : blockTail text = some length) :
    length ≤ text.length := by
  fun_induction blockTail text generalizing length with
  | case1 => simp at h
  | case2 c rest closes =>
    obtain rfl : 2 = length := Option.some.inj h
    cases rest <;> simp_all
  | case3 c rest other ih => grind [Option.map_eq_some_iff]

theorem Kind.sigil_of_ofSigil? {letter : Char} {kind : Kind}
    (h : Kind.ofSigil? letter = some kind) : kind.sigil = letter := by
  simpa using List.find?_some h

theorem take_of_nameAfter? {rest name : List Char} (h : nameAfter? rest = some name) :
    rest.take (name.length + 1) = ':' :: name := by
  unfold nameAfter? at h
  split at h
  · split at h
    · obtain rfl := Option.some.inj h
      simp only [List.length_cons, List.take_succ_cons, List.cons.injEq, true_and]
      exact (List.prefix_iff_eq_take.1 (List.takeWhile_prefix _)).symm
    · contradiction
  · contradiction

/-- Only a marker opens a placeholder. The letter of the kind follows, and the name with a colon
before it where there is one. -/
theorem Lexeme.opened_of_next {d : Dialect} {c : Char} {rest : List Char} {kind : Kind}
    {name : Option String} {more : Nat} (h : next d c rest = .ok (.placeholder kind name more)) :
    c = marker ∧ d.quoteChars.contains marker = false ∧ ∃ tail, rest = kind.sigil :: tail ∧
      ((name = none ∧ more = 1) ∨ ∃ read, nameAfter? tail = some read ∧
        name = some (String.ofList read) ∧ more = read.length + 2) := by
  have marked : c = marker ∧ d.quoteChars.contains marker = false ∧
      afterMarker rest = .ok (.placeholder kind name more) := by
    unfold next afterDash afterSlash at h
    grind
  obtain ⟨rfl, plain, opened⟩ := marked
  refine ⟨rfl, plain, ?_⟩
  unfold afterMarker at opened
  split at opened
  · simp at opened
  next letter tail =>
    split at opened
    · cases known : Kind.ofSigil? letter with
      | none => simp [known] at opened
      | some kind' =>
        have letter_eq := Kind.sigil_of_ofSigil? known
        cases named : nameAfter? tail <;> simp_all
    · simp at opened

theorem Lexeme.token_of_next {d : Dialect} {c : Char} {rest : List Char} {kind : Kind}
    {name : Option String} {more : Nat} (h : next d c rest = .ok (.placeholder kind name more))
    (offset : Nat) : c :: rest.take more = (Placeholder.mk kind name offset).token := by
  obtain ⟨rfl, -, tail, rfl, ⟨rfl, rfl⟩ | ⟨read, named, rfl, rfl⟩⟩ := opened_of_next h
  · rfl
  · simp [Placeholder.token, take_of_nameAfter? named]

theorem Lexeme.le_of_next_placeholder {d : Dialect} {c : Char} {rest : List Char} {kind : Kind}
    {name : Option String} {more : Nat} (h : next d c rest = .ok (.placeholder kind name more)) :
    more ≤ rest.length := by
  obtain ⟨-, -, tail, rfl, ⟨-, rfl⟩ | ⟨read, named, -, rfl⟩⟩ := opened_of_next h
  · simp
  · have written := congrArg List.length (take_of_nameAfter? named)
    simp only [List.length_take, List.length_cons] at written ⊢
    omega

theorem Lexeme.le_of_next_text {d : Dialect} {c : Char} {rest : List Char} {more : Nat}
    (h : next d c rest = .ok (.text more)) : more ≤ rest.length := by
  unfold next at h
  split at h
  · cases closed : Span.quotedTail c (d.backslashActive c) rest with
    | none => simp [closed] at h
    | some length =>
      obtain rfl : length = more := by simpa [closed] using h
      exact Span.quotedTail_le closed
  split at h
  · unfold afterMarker at h
    grind
  split at h
  · obtain rfl : Span.lineTail rest = more := by simpa using h
    exact Span.lineTail_le rest
  split at h
  · unfold afterDash at h
    split at h
    next tail =>
      have := Span.lineTail_le tail
      grind
    · grind
  split at h
  · unfold afterSlash at h
    split at h
    next tail =>
      cases closed : Span.blockTail tail with
      | none => simp [closed] at h
      | some length =>
        obtain rfl : length + 1 = more := by simpa [closed] using h
        have := Span.blockTail_le closed
        simpa using this
    · grind
  · grind

@[simp] theorem source_literalCons (text : List Char) (segments : List Segment) :
    (literalCons text segments).flatMap Segment.source =
      text ++ segments.flatMap Segment.source := by
  cases segments with
  | nil => rfl
  | cons segment segments => cases segment <;> simp [literalCons, Segment.source]

/-- Segments put together are the text that was cut. -/
theorem source_of_segmentsFrom {d : Dialect} {template : String} {offset : Nat}
    {text : List Char} {segments : List Segment}
    (h : segmentsFrom d template offset text = .ok segments) :
    segments.flatMap Segment.source = text := by
  fun_induction segmentsFrom d template offset text generalizing segments with
  | case1 => obtain rfl := Except.ok.inj h; rfl
  | case2 => contradiction
  | case3 offset c rest more read ih =>
    obtain ⟨later, cut, rfl⟩ := Except.map_eq_ok.1 h
    simp [ih cut]
  | case4 offset c rest kind name more read ih =>
    obtain ⟨later, cut, rfl⟩ := Except.map_eq_ok.1 h
    simp [ih cut, Segment.source, ← Lexeme.token_of_next read offset]

/-- Every placeholder among segments that begin at an offset stands where it says. -/
def Placed : Nat → List Segment → Prop
  | _, [] => True
  | offset, .literal text :: segments => Placed (offset + text.length) segments
  | offset, .placeholder p :: segments =>
    p.offset = offset ∧ Placed (offset + p.token.length) segments

theorem placed_literalCons {offset : Nat} {text : List Char} {segments : List Segment} :
    Placed offset (literalCons text segments) ↔ Placed (offset + text.length) segments := by
  cases segments with
  | nil => rfl
  | cons segment segments =>
    cases segment <;> simp [literalCons, Placed, Nat.add_assoc]

/-- The placeholders of a text that begins at an offset stand where they say. -/
theorem placed_of_segmentsFrom {d : Dialect} {template : String} {offset : Nat}
    {text : List Char} {segments : List Segment}
    (h : segmentsFrom d template offset text = .ok segments) : Placed offset segments := by
  fun_induction segmentsFrom d template offset text generalizing segments with
  | case1 => obtain rfl := Except.ok.inj h; trivial
  | case2 => contradiction
  | case3 offset c rest more read ih =>
    obtain ⟨later, cut, rfl⟩ := Except.map_eq_ok.1 h
    have fits := Lexeme.le_of_next_text read
    have reach : offset + (c :: rest.take more).length = offset + more + 1 := by
      simp; omega
    rw [placed_literalCons, reach]
    exact ih cut
  | case4 offset c rest kind name more read ih =>
    obtain ⟨later, cut, rfl⟩ := Except.map_eq_ok.1 h
    have fits := Lexeme.le_of_next_placeholder read
    have reach : offset + (c :: rest.take more).length = offset + more + 1 := by
      simp; omega
    refine ⟨rfl, ?_⟩
    rw [← Lexeme.token_of_next read offset, reach]
    exact ih cut

end SafeSql.Template
