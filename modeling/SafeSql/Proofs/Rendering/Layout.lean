import SafeSql.Proofs.Fragment.Pieces
import SafeSql.Proofs.Rendering.Outcome
import SafeSql.Proofs.Template.Tiling

/-!
# The layout of rendered text

Every character of rendered text comes from the template or from a fragment, where it belongs to
a literal or an identifier or stands between them. The layout of a rendered text says so for each
character, and says what class a character is meant to have.

## Main definitions

* `layout` — rendered text with the origin of every character.
* `Kept`, `LexicallySafe` — characters are read as what they were meant to be.
* `Filled` — segments with their values and fragments.

## Main statements

* `filled_of_rendered` — what is rendered is filled in.
* `map_fst_layout` — a layout is one of the rendered text.
-/

namespace SafeSql.Rendering

open Template (Segment Placeholder placeholders CharClass classes Tiled)
open Template.Walk (Reads Mode)
open Fragment (Piece pieces classesOf)
open Dialect (Regular)

/-! ## Origins -/

/-- Where a character of rendered text comes from. -/
inductive Origin
  /-- From the template, where it stands at the offset. -/
  | copied (offset : Nat)
  /-- From a fragment, outside of its literals and identifiers. -/
  | bare
  /-- From a literal or an identifier of a fragment, its quotes included. -/
  | quoted
  deriving DecidableEq, Repr

/-- Literal text that stands at an offset of the template, with its origin. -/
def copiedLayout (offset : Nat) (text : List Char) : List (Char × Origin) :=
  (text.zipIdx offset).map fun (c, i) => (c, .copied i)

def pieceLayout : Piece → List (Char × Origin)
  | .bare text => text.map fun c => (c, .bare)
  | .quoted quote content => ([quote] ++ content ++ [quote]).map fun c => (c, .quoted)

/-- Rendered segments that stand at an offset of the template, with the origin of every
character. -/
def layout (d : Dialect) : Nat → List Segment → List Value → List (Char × Origin)
  | offset, .literal text :: segments, arguments =>
    copiedLayout offset text ++ layout d (offset + text.length) segments arguments
  | offset, .placeholder p :: segments, value :: arguments =>
    (pieces d p.kind value).flatMap pieceLayout
      ++ layout d (offset + p.token.length) segments arguments
  | _, _, _ => []

/-- Whether a character of rendered text is read as what it was meant to be: a copied one as the
same character of the template, one of a literal or an identifier as quoted, and any other one of
a fragment not as part of a comment. -/
def Kept (source : List Char) (found : List CharClass) (laid : Char × Origin) (cls : CharClass) :
    Prop :=
  match laid.2 with
  | .copied offset => source[offset]? = some laid.1 ∧ found[offset]? = some cls
  | .bare => cls ≠ .comment
  | .quoted => cls = .quoted

/-- Neither the template nor the rendered text has an open span or comment, and every character
of the rendered text is read as what it was meant to be. -/
def LexicallySafe (d : Dialect) (source sql : List Char) (laid : List (Char × Origin)) : Prop :=
  laid.map (·.1) = sql ∧ ∃ found written, classes d source = some found ∧
    classes d sql = some written ∧ List.Forall₂ (Kept source found) laid written

/-! ## Characters with their origins -/

@[simp] theorem map_fst_copiedLayout (offset : Nat) (text : List Char) :
    (copiedLayout offset text).map (·.1) = text := by
  simp [copiedLayout, Function.comp_def, List.zipIdx_map_fst]

@[simp] theorem length_copiedLayout (offset : Nat) (text : List Char) :
    (copiedLayout offset text).length = text.length := by
  simp [copiedLayout]

@[simp] theorem map_fst_pieceLayout (piece : Piece) :
    (pieceLayout piece).map (·.1) = piece.text := by
  cases piece <;> simp [pieceLayout, Piece.text, Function.comp_def]

theorem map_fst_piecesLayout (parts : List Piece) :
    (parts.flatMap pieceLayout).map (·.1) = parts.flatMap Piece.text := by
  simp [List.map_flatMap]

/-- Copied text keeps its classes where it has them in the template. -/
theorem kept_copied {before text after : List Char} {earlier found later : List CharClass}
    (same : earlier.length = before.length) (all : found.length = text.length) :
    List.Forall₂ (Kept (before ++ text ++ after) (earlier ++ found ++ later))
      (copiedLayout before.length text) found := by
  induction text generalizing before earlier found with
  | nil =>
    obtain rfl := List.length_eq_zero_iff.1 all
    exact .nil
  | cons c text ih =>
    obtain _ | ⟨cls, found⟩ := found
    · simp at all
    · have same' : (earlier ++ [cls]).length = (before ++ [c]).length := by simp [same]
      have rest := ih same' (by simpa using all)
      refine .cons ⟨by simp, by simp [← same]⟩ ?_
      simpa [copiedLayout] using rest

/-- Pieces that are read as what they are keep the classes of their characters. -/
theorem kept_pieces (source : List Char) (found : List CharClass) (parts : List Piece) :
    List.Forall₂ (Kept source found) (parts.flatMap pieceLayout) (classesOf parts) := by
  have constant (origin : Origin) (cls : CharClass) (kept : ∀ c, Kept source found (c, origin) cls)
      (text : List Char) : List.Forall₂ (Kept source found) (text.map fun c => (c, origin))
        (List.replicate text.length cls) := by
    induction text with
    | nil => exact .nil
    | cons c text ih => exact .cons (kept c) ih
  induction parts with
  | nil => exact .nil
  | cons piece parts ih =>
    refine List.rel_append ?_ ih
    cases piece with
    | bare text => exact constant .bare .code (fun _ => by simp [Kept]) text
    | quoted quote content => exact constant .quoted .quoted (fun _ => rfl) _

/-- No character of a piece is in a comment. -/
theorem not_kept_comment {source : List Char} {found : List CharClass} {parts : List Piece}
    {laid : Char × Origin} (member : laid ∈ parts.flatMap pieceLayout) :
    ¬ Kept source found laid .comment := by
  obtain ⟨piece, -, member⟩ := List.mem_flatMap.1 member
  cases piece with
  | bare text =>
    obtain ⟨c, -, rfl⟩ := List.mem_map.1 member
    simp [Kept]
  | quoted quote content =>
    obtain ⟨c, -, rfl⟩ := List.mem_map.1 member
    simp [Kept]

/-! ## Segments with their fragments -/

/-- Segments between which nothing is open, with the values of their placeholders and the
fragments of these. -/
inductive Filled (d : Dialect) : List Segment → List Value → List (List Char) → Prop
  | nil : Filled d [] [] []
  | last {text : List Char} {found : List CharClass} {mode : Mode}
      (read : Reads d .code text [] found mode) (closed : mode.closed) :
      Filled d [.literal text] [] []
  | literal {text : List Char} {found : List CharClass} {p : Placeholder}
      {segments : List Segment} {arguments : List Value} {fragments : List (List Char)}
      (read : Reads d .code text ((Segment.placeholder p :: segments).flatMap Segment.source) found
        .code)
      (later : Filled d (.placeholder p :: segments) arguments fragments) :
      Filled d (.literal text :: .placeholder p :: segments) arguments fragments
  | placeholder {p : Placeholder} {value : Value} {fragment : List Char}
      {segments : List Segment} {arguments : List Value} {fragments : List (List Char)}
      (unnamed : p.name = none) (parsed : p.kind ≠ .raw)
      (written : Fragment.format d p.kind value = .ok fragment)
      (later : Filled d segments arguments fragments) :
      Filled d (.placeholder p :: segments) (value :: arguments) (fragment :: fragments)

variable {d : Dialect} {segments : List Segment} {arguments : List Value}
  {fragments : List (List Char)}

theorem filled_of_tiled (tiled : Tiled d segments)
    (unnamed : ∀ p ∈ placeholders segments, p.name = none)
    (parsed : ∀ p ∈ placeholders segments, p.kind ≠ .raw)
    (enough : (placeholders segments).length = arguments.length)
    (written : List.Forall₂ (fun binding fragment => fragmentOf d binding = .ok fragment)
      ((placeholders segments).zip arguments) fragments) :
    Filled d segments arguments fragments := by
  induction tiled generalizing arguments fragments with
  | nil =>
    obtain rfl := List.length_eq_zero_iff.1 enough.symm
    cases written
    exact .nil
  | last read closed =>
    obtain rfl := List.length_eq_zero_iff.1 enough.symm
    cases written
    exact .last read closed
  | literal read later ih => exact .literal read (ih unnamed parsed enough written)
  | @placeholder p segments later ih =>
    obtain _ | ⟨value, arguments⟩ := arguments
    · simp at enough
    · simp only [placeholders_placeholder, List.zip_cons_cons, List.mem_cons, forall_eq_or_imp]
        at unnamed parsed written
      obtain _ | ⟨first, rest⟩ := written
      exact .placeholder unnamed.1 parsed.1 first
        (ih unnamed.2 parsed.2 (by simpa using enough) rest)

/-- What is rendered is filled in. -/
theorem filled_of_rendered {template : Value} {source sql : String} {caller : Option String}
    (text : templateText template = .ok source) (read : Template.segments d source = .ok segments)
    (parsed : ∀ p ∈ placeholders segments, p.kind ≠ .raw)
    (rendered : positional d template arguments caller = .ok (.ok sql)) :
    ∃ fragments, Filled d segments arguments fragments ∧ sql.toList = fill segments fragments := by
  obtain ⟨segments', fragments, whole, rfl⟩ := (positional_eq_ok text).1 rendered
  obtain rfl := Except.ok.inj (read.symm.trans whole.read)
  obtain ⟨unnamed, enough⟩ := not_or.1 whole.matched
  refine ⟨fragments, filled_of_tiled (Template.tiled_of_segmentsFrom read) ?_ parsed
    (not_not.1 enough) whole.written, by simp⟩
  intro p member
  by_contra named
  exact unnamed ⟨p, member, Option.isSome_iff_ne_none.2 named⟩

theorem map_fst_layout (regular : Regular d) (h : Filled d segments arguments fragments)
    (offset : Nat) :
    (layout d offset segments arguments).map (·.1) = fill segments fragments := by
  induction h generalizing offset with
  | nil => rfl
  | last => simp [layout, fill]
  | literal read later ih => simp [layout, fill, ih]
  | placeholder unnamed parsed written later ih =>
    have text_eq := (Fragment.written_format regular parsed written).text_eq
    rw [layout, fill, List.map_append, map_fst_piecesLayout, text_eq, ih]

/-- A placeholder without a name is code. -/
theorem reads_token (regular : Regular d) {p : Placeholder} (unnamed : p.name = none)
    (rest : List Char) :
    Reads d .code p.token rest (List.replicate p.token.length .code) .code := by
  refine regular.plain (fun c member => ?_) rest
  obtain ⟨kind, name, offset⟩ := p
  obtain rfl : name = none := unnamed
  obtain rfl | rfl : c = Template.marker ∨ c = kind.sigil := by
    simpa [Placeholder.token] using member
  · decide
  · cases kind <;> decide

end SafeSql.Rendering
