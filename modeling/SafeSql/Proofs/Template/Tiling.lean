import SafeSql.Proofs.Template.Classes
import SafeSql.Proofs.Template.Placement

/-!
# Segments and classes

Literal segments end in code: before a placeholder no quoted span and no comment is open, and at
the end of a template at most a comment that its line would end.

## Main definitions

* `Tiled` — segments between which nothing is open.

## Main statements

* `tiled_of_segmentsFrom` — the segments of a template are such.
-/

namespace SafeSql.Template

open Walk (Reads Mode)

variable {d : Dialect} {template : String} {offset : Nat}

/-- Segments between which no span and no comment is open. A literal segment stands before a
placeholder or at the end. -/
inductive Tiled (d : Dialect) : List Segment → Prop
  | nil : Tiled d []
  | last {text : List Char} {found : List CharClass} {mode : Mode}
      (read : Reads d .code text [] found mode) (closed : mode.closed) :
      Tiled d [.literal text]
  | literal {text : List Char} {found : List CharClass} {p : Placeholder}
      {segments : List Segment}
      (read : Reads d .code text ((Segment.placeholder p :: segments).flatMap Segment.source) found
        .code)
      (later : Tiled d (.placeholder p :: segments)) :
      Tiled d (.literal text :: .placeholder p :: segments)
  | placeholder {p : Placeholder} {segments : List Segment} (later : Tiled d segments) :
      Tiled d (.placeholder p :: segments)

theorem stretch_of_next {c : Char} {rest : List Char} {more : Nat}
    (h : Lexeme.next d c rest = .ok (.text more)) : ∃ cls, stretch d c rest = some (cls, more) := by
  have opened_text (n : Nat) : ∃ cls, opened (.text n) = (cls, n) := by
    cases n with
    | zero => exact ⟨.code, rfl⟩
    | succ n => exact ⟨.comment, rfl⟩
  unfold Lexeme.next at h
  unfold stretch
  split at h
  next quote =>
    rw [if_pos quote]
    cases closed : Span.quotedTail c (d.backslashActive c) rest <;> simp_all
  next quote =>
  rw [if_neg quote]
  split at h
  next mark =>
    obtain rfl : 0 = more := by
      unfold Lexeme.afterMarker at h
      grind
    exact ⟨.code, by simp [mark, marker]⟩
  next mark =>
  split at h
  next hash =>
    obtain rfl : Span.lineTail rest = more := by simpa using h
    exact ⟨.comment, by rw [if_pos hash]⟩
  next hash =>
  rw [if_neg hash]
  split at h
  next dash =>
    obtain found : Lexeme.afterDash d rest = .text more := by simpa using h
    obtain ⟨cls, opens⟩ := opened_text more
    exact ⟨cls, by rw [if_pos dash, found, opens]⟩
  next dash =>
  rw [if_neg dash]
  split at h
  next slash =>
    obtain ⟨cls, opens⟩ := opened_text more
    exact ⟨cls, by simp only [slash, h, opens, if_true]⟩
  next slash =>
    obtain rfl : 0 = more := by simpa using h
    exact ⟨.code, by rw [if_neg slash]⟩

theorem tiled_literalCons {text : List Char} {found : List CharClass} {mode : Mode}
    {segments : List Segment}
    (read : Reads d .code text (segments.flatMap Segment.source) found mode)
    (ends : mode = .code ∨ mode = .line ∧ segments.flatMap Segment.source = [])
    (later : Tiled d segments) : Tiled d (literalCons text segments) := by
  cases later with
  | nil =>
    refine .last read ?_
    obtain rfl | ⟨rfl, -⟩ := ends <;> rfl
  | @last more found' mode' read' closed =>
    obtain rfl | ⟨rfl, empty⟩ := ends
    · exact .last (read.append (by simpa [Segment.source] using read')) closed
    · obtain rfl : more = [] := by simpa [Segment.source] using empty
      simpa [literalCons] using Tiled.last read rfl
  | @literal more found' p segments read' later' =>
    obtain rfl | ⟨rfl, empty⟩ := ends
    · exact .literal (read.append read') later'
    · simp [Segment.source, Placeholder.token] at empty
  | @placeholder p segments later' =>
    obtain rfl | ⟨rfl, empty⟩ := ends
    · exact .literal read (.placeholder later')
    · simp [Segment.source, Placeholder.token] at empty

/-- Nothing is open between the segments of a text. -/
theorem tiled_of_segmentsFrom {text : List Char} {segments : List Segment}
    (h : segmentsFrom d template offset text = .ok segments) : Tiled d segments := by
  fun_induction segmentsFrom d template offset text generalizing segments with
  | case1 => obtain rfl := Except.ok.inj h; exact .nil
  | case2 => contradiction
  | case3 offset c rest more found ih =>
    obtain ⟨later, cut, rfl⟩ := Except.map_eq_ok.1 h
    obtain ⟨cls, one⟩ := stretch_of_next found
    have read := Walk.leaves_stretch d c rest
    rw [one] at read
    obtain ⟨mode, read, ends⟩ := read
    have source_eq := source_of_segmentsFrom cut
    rw [List.take_succ_cons, List.drop_succ_cons, ← source_eq] at read
    rw [List.drop_succ_cons, ← source_eq] at ends
    exact tiled_literalCons read ends (ih cut)
  | case4 offset c rest kind name more found ih =>
    obtain ⟨later, cut, rfl⟩ := Except.map_eq_ok.1 h
    exact .placeholder (ih cut)

end SafeSql.Template
