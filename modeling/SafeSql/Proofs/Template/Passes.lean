import SafeSql.Proofs.Template.Joining
import SafeSql.Proofs.Template.Offsets

/-!
# Reading a template in passes

A template is read by moving an offset. A pass looks for the next character at which something may
open, and moves behind the span, the comment, the placeholder or the single character that stands
there; the reading ends when there is no such character. Every pass moves the offset on and keeps
it inside of the template, so that there are no more passes than characters. What they find are
the segments of the template.

## Main definitions

* `Reading`, `Reading.pass` — how far a template was read, and what a pass does.
* `Reading.Passes` — a number of passes, one after another.
* `Reading.Faithful` — what was found and what is left to read are the template.

## Main statements

* `Reading.pass_cases` — a pass goes over plain characters and one lexeme.
* `Reading.Faithful.pass` — a pass keeps what was found and what is left.
* `passes_advance` — spans end inside of the template, and passes come to an end.
-/

namespace SafeSql.Template

/-- Whether something may open at a character. -/
def opens (d : Dialect) (c : Char) : Bool :=
  d.quoteChars.contains c || c = marker || c = '-' || c = '/' || (c = '#' && d.hashComments)

/-- The next offset at which something may open. -/
def nextOpening (d : Dialect) (text : List Char) (offset : Nat) : Option Nat :=
  ((text.drop offset).findIdx? (opens d)).map (offset + ·)

def slice (text : List Char) (start stop : Nat) : List Char :=
  (text.take stop).drop start

/-- The literal text between two offsets, where there is any. -/
def literalBetween (text : List Char) (start stop : Nat) : List Segment :=
  if start < stop then [.literal (slice text start stop)] else []

/-- How far a template was read. -/
structure Reading where
  offset : Nat
  /-- Where the literal text begins that is no segment yet. -/
  pending : Nat
  found : List Segment
  deriving DecidableEq, Repr

namespace Reading

def start : Reading := ⟨0, 0, []⟩

/-- The segments when nothing opens any more. -/
def segments (template : String) (r : Reading) : List Segment :=
  r.found ++ literalBetween template.toList r.pending template.toList.length

/-- The reading behind a lexeme that stands where it has come to. -/
def behind (template : String) (r : Reading) :
    Except Flaw Lexeme → Except Halt (Option Reading)
  | .error flaw => .error (.fault (flaw.fault template r.offset))
  | .ok (.text more) => .ok (some { r with offset := r.offset + more + 1 })
  | .ok (.placeholder kind name more) =>
    .ok (some {
      offset := r.offset + more + 1
      pending := r.offset + more + 1
      found := r.found ++ literalBetween template.toList r.pending r.offset ++
        [.placeholder ⟨kind, name, r.offset⟩] })

/-- Moves behind what opens next; nothing when nothing does. -/
def pass (d : Dialect) (template : String) (r : Reading) : Except Halt (Option Reading) :=
  match nextOpening d template.toList r.offset with
  | none => .ok none
  | some here => do
    let c ← charAt template.toList here
    if d.quoteChars.contains c then
      return some { r with offset := ← quotedEnd d template here }
    else if c ≠ marker then
      return some { r with offset := ← commentEnd d template here }
    else
      let letter ← lookAhead template.toList (here + 1)
      behind template { r with offset := here }
        (Lexeme.afterMarker (letter.toList ++ template.toList.drop (here + 2)))

/-- So many passes lead from one reading to another. -/
inductive Passes (d : Dialect) (template : String) : Nat → Reading → Reading → Prop
  | none {r : Reading} : Passes d template 0 r r
  | cons {passes : Nat} {r r' r'' : Reading} (first : pass d template r = .ok (some r'))
      (later : Passes d template passes r' r'') : Passes d template (passes + 1) r r''

variable {d : Dialect} {template : String} {r r' : Reading} {here : Nat} {c : Char}

/-! ## One pass -/

/-- Behind a lexeme the reading goes on. -/
theorem behind_of_ok (template : String) (r : Reading) (lexeme : Lexeme) :
    ∃ r', behind template r (.ok lexeme) = .ok (some r') ∧
      r'.offset = r.offset + lexeme.more + 1 := by
  cases lexeme <;> exact ⟨_, rfl, rfl⟩

/-- What opens next stands behind plain characters. -/
theorem opening_of_nextOpening {text : List Char} {offset : Nat}
    (h : nextOpening d text offset = some here) :
    ∃ plain c, text.drop offset = plain ++ c :: text.drop (here + 1) ∧
      here = offset + plain.length ∧ (∀ p ∈ plain, opens d p = false) ∧ opens d c = true ∧
      text[here]? = some c := by
  obtain ⟨n, found, rfl⟩ := Option.map_eq_some_iff.1 h
  obtain ⟨inside, opening, before⟩ := List.findIdx?_eq_some_iff_getElem.1 found
  have here : text[offset + n]? = some (text.drop offset)[n] := by simp
  refine ⟨(text.drop offset).take n, _, ?_, ?_, fun p member => ?_, opening, here⟩
  · rw [← drop_of_getElem? here, ← List.drop_drop, List.take_append_drop]
  · rw [List.length_take_of_le (Nat.le_of_lt inside)]
  · obtain ⟨m, earlier, rfl⟩ := List.mem_take_iff_getElem.1 member
    simpa using before m (by omega)

/-- Behind literal text the reading differs in its offset only. -/
theorem behind_of_literal (template : String) (r : Reading) {read : Except Flaw Lexeme}
    (literal : ∀ kind name more, read ≠ .ok (.placeholder kind name more)) :
    behind template r read =
      (stopOf template r.offset read).map fun stop => some { r with offset := stop } := by
  match read with
  | .error flaw => rfl
  | .ok (.text more) => rfl
  | .ok (.placeholder kind name more) => exact absurd rfl (literal kind name more)

/-- At a quote or a sign the scanner reads as far as the offset goes. -/
theorem stopOf_next (opening : template.toList[here]? = some c) (opened : opens d c = true)
    (marked : c = marker → d.quoteChars.contains c = true) :
    stopOf template here (Lexeme.next d c (template.toList.drop (here + 1))) =
      if d.quoteChars.contains c then quotedEnd d template here
      else commentEnd d template here := by
  split
  next quote => exact stopOf_next_of_quote opening quote
  next quote =>
    have other (mark : c = marker) : False := quote (marked mark)
    refine stopOf_next_of_sign opening (by simpa using quote) other ?_
    rintro rfl
    have either : '#' ∈ d.quoteChars ∨ d.hashComments = true := by
      simpa [opens, marker] using opened
    exact either.resolve_left (by simpa using quote)

/-- A pass reads the lexeme at what opens next. -/
theorem pass_of_opening (next : nextOpening d template.toList r.offset = some here)
    (opening : template.toList[here]? = some c) (opened : opens d c = true) :
    pass d template r =
      behind template { r with offset := here }
        (Lexeme.next d c (template.toList.drop (here + 1))) := by
  simp only [pass, next, charAt_of_getElem? opening, Except.ok_bind]
  by_cases quote : d.quoteChars.contains c
  · rw [if_pos quote, behind_of_literal, stopOf_next opening opened (fun _ => quote), if_pos quote]
    · rfl
    · rintro kind name more read
      obtain ⟨rfl, plain, -⟩ := Lexeme.opened_of_next read
      rw [plain] at quote
      contradiction
  rw [if_neg quote]
  by_cases mark : c = marker
  · subst mark
    rw [if_neg (by simp), lookAhead_eq, Except.ok_bind, ← List.drop_eq_getElem?_toList_append,
      Lexeme.next, if_neg quote, if_pos rfl]
  · rw [if_pos mark, behind_of_literal, stopOf_next opening opened (fun same => absurd same mark),
      if_neg quote]
    · rfl
    · rintro kind name more read
      exact mark (Lexeme.opened_of_next read).1

/-- A pass finds only plain characters, or goes over those before what opens next and reads one
lexeme there. -/
theorem pass_cases (d : Dialect) (template : String) (r : Reading) :
    ((∀ p ∈ template.toList.drop r.offset, opens d p = false) ∧ pass d template r = .ok none) ∨
      ∃ plain c rest, template.toList.drop r.offset = plain ++ c :: rest ∧
        (∀ p ∈ plain, opens d p = false) ∧
        pass d template r =
          behind template { r with offset := r.offset + plain.length } (Lexeme.next d c rest) := by
  cases next : nextOpening d template.toList r.offset with
  | none =>
    refine .inl ⟨?_, by simp only [pass, next]⟩
    exact List.findIdx?_eq_none_iff.1 (Option.map_eq_none_iff.1 next)
  | some here =>
    obtain ⟨plain, c, front, rfl, before, opened, opening⟩ := opening_of_nextOpening next
    exact .inr ⟨plain, c, _, front, before, pass_of_opening next opening opened⟩

theorem pass_outcome (d : Dialect) (template : String) (r : Reading) :
    pass d template r = .ok none ∨
      (∃ fault, pass d template r = .error (.fault fault) ∧ r.offset < template.toList.length) ∨
      ∃ r', pass d template r = .ok (some r') ∧ r.offset < r'.offset ∧
        r'.offset ≤ template.toList.length := by
  obtain ⟨-, ends⟩ | ⟨plain, c, rest, front, -, passed⟩ := pass_cases d template r
  · exact .inl ends
  · have size := congrArg List.length front
    simp only [List.length_drop, List.length_append, List.length_cons] at size
    rw [passed]
    cases read : Lexeme.next d c rest with
    | error flaw => exact .inr (.inl ⟨_, rfl, by omega⟩)
    | ok lexeme =>
      obtain ⟨r', moved, reach⟩ :=
        behind_of_ok template { r with offset := r.offset + plain.length } lexeme
      have fits := Lexeme.more_le_of_next read
      dsimp only at reach
      exact .inr (.inr ⟨r', moved, by omega, by omega⟩)

theorem pass_moves (h : pass d template r = .ok (some r')) :
    r.offset < r'.offset ∧ r'.offset ≤ template.toList.length := by
  obtain ends | ⟨fault, refused, -⟩ | ⟨moved, passed, bounds⟩ := pass_outcome d template r
  · simp [ends] at h
  · simp [refused] at h
  · obtain rfl : moved = r' := by simpa [passed] using h
    exact bounds

theorem pass_ne_outside (d : Dialect) (template : String) (r : Reading) (offset : Nat) :
    pass d template r ≠ .error (.outside offset) := by
  obtain ends | ⟨fault, refused, -⟩ | ⟨moved, passed, -⟩ := pass_outcome d template r
  · simp [ends]
  · simp [refused]
  · simp [passed]

/-! ## Passes one after another -/

theorem Passes.offset_le {passes : Nat} (h : Passes d template passes r r') :
    r.offset + passes ≤ r'.offset := by
  induction h with
  | none => exact Nat.le_refl _
  | cons first later ih =>
    have moved := (pass_moves first).1
    omega

theorem Passes.inside {passes : Nat} (h : Passes d template passes r r')
    (inside : r.offset ≤ template.toList.length) : r'.offset ≤ template.toList.length := by
  induction h with
  | none => exact inside
  | cons first later ih => exact ih (pass_moves first).2

/-- Passes come to an end: each leaves less to be read. -/
theorem exists_passes (d : Dialect) (template : String) (r : Reading) :
    ∃ passes r', Passes d template passes r r' ∧
      (pass d template r' = .ok none ∨
        ∃ fault, pass d template r' = .error (.fault fault) ∧
          r'.offset < template.toList.length) := by
  obtain ends | refused | ⟨moved, passed, -⟩ := pass_outcome d template r
  · exact ⟨0, r, .none, .inl ends⟩
  · exact ⟨0, r, .none, .inr refused⟩
  · obtain ⟨passes, r', later, stops⟩ := exists_passes d template moved
    exact ⟨passes + 1, r', .cons passed later, stops⟩
termination_by template.toList.length - r.offset
decreasing_by
  have := pass_moves passed
  omega

/-! ## What passes find -/

/-- Segments behind literal text, if there is any. -/
def behindLiteral (text : List Char) (later : List Segment) : List Segment :=
  if text = [] then later else literalCons text later

theorem behindLiteral_append (text more : List Char) (later : List Segment) :
    behindLiteral (text ++ more) later = behindLiteral text (behindLiteral more later) := by
  by_cases empty : text = []
  · simp [behindLiteral, empty]
  · by_cases nothing : more = []
    · simp [behindLiteral, nothing]
    · simp [behindLiteral, empty, nothing, literalCons_literalCons]

theorem behindLiteral_nil (later : List Segment) : behindLiteral [] later = later := rfl

theorem behindLiteral_cons (c : Char) (text : List Char) :
    behindLiteral (c :: text) = literalCons (c :: text) := by
  funext later
  exact if_neg (List.cons_ne_nil _ _)

theorem next_of_not_opens (plain : opens d c = false) (rest : List Char) :
    Lexeme.next d c rest = .ok (.text 0) := by
  obtain ⟨quote, mark, dash, slash, hash⟩ : d.quoteChars.contains c = false ∧ c ≠ marker ∧
      c ≠ '-' ∧ c ≠ '/' ∧ (c = '#' && d.hashComments) = false := by
    simpa [opens, and_assoc] using plain
  simp only [Lexeme.next, quote, mark, dash, slash, hash]
  rfl

/-- Where nothing opens, literal text goes on. -/
theorem segmentsFrom_plain (offset : Nat) (plain rest : List Char)
    (h : ∀ p ∈ plain, opens d p = false) :
    segmentsFrom d template offset (plain ++ rest) =
      (segmentsFrom d template (offset + plain.length) rest).map (behindLiteral plain) := by
  induction plain generalizing offset with
  | nil =>
    cases cut : segmentsFrom d template offset rest <;> simp [cut, behindLiteral_nil]
  | cons c plain ih =>
    have one := next_of_not_opens (h c (by simp)) (plain ++ rest)
    have later := ih (offset + 1) fun p member => h p (by simp [member])
    have reach : offset + (c :: plain).length = offset + 1 + plain.length := by simp; omega
    rw [List.cons_append, segmentsFrom, one]
    simp only [List.drop_zero, List.take_zero, Nat.add_zero, later, reach, Except.map_map]
    congr 1
    funext later
    exact (behindLiteral_append [c] plain later).symm

/-- What was found, the literal text behind it and what is left to read are the template. -/
structure Faithful (d : Dialect) (template : String) (r : Reading) : Prop where
  ordered : r.pending ≤ r.offset
  inside : r.offset ≤ template.toList.length
  rest : Template.segments d template =
    (segmentsFrom d template r.offset (template.toList.drop r.offset)).map fun later =>
      r.found ++ behindLiteral (slice template.toList r.pending r.offset) later

theorem faithful_start (d : Dialect) (template : String) : Faithful d template .start := by
  refine ⟨Nat.le_refl _, Nat.zero_le _, ?_⟩
  cases cut : Template.segments d template <;>
    simp_all [Template.segments, start, slice, behindLiteral_nil]

theorem slice_append {text more rest : List Char} {start stop : Nat} (ordered : start ≤ stop)
    (inside : stop ≤ text.length) (front : text.drop stop = more ++ rest) :
    slice text start (stop + more.length) = slice text start stop ++ more := by
  rw [slice, List.take_add, front, List.take_left, slice, List.drop_append_of_le_length]
  rwa [List.length_take_of_le inside]

theorem literalBetween_append {text : List Char} (start : Nat) {stop : Nat}
    (inside : stop ≤ text.length) {later : List Segment}
    (apart : later = [] ∨ ∃ p more, later = .placeholder p :: more) :
    literalBetween text start stop ++ later = behindLiteral (slice text start stop) later := by
  have size : (slice text start stop).length = stop - start := by
    rw [slice, List.length_drop, List.length_take_of_le inside]
  unfold literalBetween behindLiteral
  by_cases some : start < stop
  · have nonempty : slice text start stop ≠ [] := by
      rw [← List.length_pos_iff, size]
      omega
    rw [if_pos some, if_neg nonempty]
    obtain rfl | ⟨p, more, rfl⟩ := apart <;> rfl
  · have empty : slice text start stop = [] := by
      rw [← List.length_eq_zero_iff, size]
      omega
    rw [if_neg some, if_pos empty, List.nil_append]

/-- A reading goes over literal text. -/
theorem Faithful.literal (faithful : Faithful d template r) {text rest : List Char}
    (front : template.toList.drop r.offset = text ++ rest)
    (cut : segmentsFrom d template r.offset (text ++ rest) =
      (segmentsFrom d template (r.offset + text.length) rest).map (behindLiteral text)) :
    Faithful d template { r with offset := r.offset + text.length } := by
  obtain ⟨ordered, inside, read⟩ := faithful
  have size := congrArg List.length front
  simp only [List.length_drop, List.length_append] at size
  refine ⟨by dsimp only; omega, by dsimp only; omega, ?_⟩
  rw [read, front, cut, Except.map_map, drop_of_append front, slice_append ordered inside front]
  simp only [Function.comp_def, behindLiteral_append]

theorem Faithful.plain (faithful : Faithful d template r) {plain rest : List Char}
    (front : template.toList.drop r.offset = plain ++ rest)
    (before : ∀ p ∈ plain, opens d p = false) :
    Faithful d template { r with offset := r.offset + plain.length } :=
  faithful.literal front (segmentsFrom_plain _ _ _ before)

/-- A reading goes over a lexeme. -/
theorem Faithful.behind {rest : List Char} {lexeme : Lexeme} (faithful : Faithful d template r)
    (front : template.toList.drop r.offset = c :: rest)
    (read : Lexeme.next d c rest = .ok lexeme)
    (passed : Reading.behind template r (.ok lexeme) = .ok (some r')) :
    Faithful d template r' := by
  cases lexeme with
  | text more =>
    obtain rfl := Option.some.inj (Except.ok.inj passed)
    have fits := Lexeme.le_of_next_text read
    have split : c :: rest = (c :: rest.take more) ++ rest.drop more := by simp
    have taken : (c :: rest.take more).length = more + 1 := by
      rw [List.length_cons, List.length_take_of_le fits]
    have later := faithful.literal (front.trans split) (by
      rw [← split, segmentsFrom, read, taken, behindLiteral_cons]
      rfl)
    rwa [taken] at later
  | placeholder kind name more =>
    obtain rfl := Option.some.inj (Except.ok.inj passed)
    obtain ⟨ordered, inside, agree⟩ := faithful
    have fits := Lexeme.le_of_next_placeholder read
    have size := congrArg List.length front
    simp only [List.length_drop, List.length_cons] at size
    have left : template.toList.drop (r.offset + more + 1) = rest.drop more := by
      rw [Nat.add_right_comm, ← List.drop_drop, drop_of_cons front]
    refine ⟨Nat.le_refl _, by dsimp only; omega, ?_⟩
    rw [agree, front, segmentsFrom, read, left]
    simp only [Except.map_map]
    congr 1
    funext later
    have nothing : slice template.toList (r.offset + more + 1) (r.offset + more + 1) = [] := by
      simp [slice]
    have parts := literalBetween_append r.pending inside (.inr ⟨⟨kind, name, r.offset⟩, later, rfl⟩)
    simp [nothing, behindLiteral_nil, ← parts]

theorem Faithful.pass (faithful : Faithful d template r)
    (passed : pass d template r = .ok (some r')) : Faithful d template r' := by
  obtain ⟨-, ends⟩ | ⟨plain, c, rest, front, before, passed'⟩ := pass_cases d template r
  · simp [ends] at passed
  · rw [passed'] at passed
    cases read : Lexeme.next d c rest with
    | error flaw => simp [read, Reading.behind] at passed
    | ok lexeme =>
      rw [read] at passed
      exact (faithful.plain front before).behind (drop_of_append front) read passed

theorem Faithful.passes {passes : Nat} (faithful : Faithful d template r)
    (h : Passes d template passes r r') : Faithful d template r' := by
  induction h with
  | none => exact faithful
  | cons first later ih => exact ih (faithful.pass first)

theorem Faithful.segments_of_end (faithful : Faithful d template r)
    (ends : Reading.pass d template r = .ok none) :
    Template.segments d template = .ok (r.segments template) := by
  obtain ⟨plain, -⟩ | ⟨plain, c, rest, -, -, passed⟩ := pass_cases d template r
  · have last := faithful.plain (List.append_nil _).symm plain
    have reach : r.offset + (template.toList.drop r.offset).length = template.toList.length := by
      rw [List.length_drop]
      exact Nat.add_sub_cancel' faithful.inside
    rw [reach] at last
    rw [last.rest, List.drop_length, segmentsFrom, Except.ok_map, Reading.segments,
      ← literalBetween_append _ (Nat.le_refl _) (.inl rfl), List.append_nil]
  · rw [passed] at ends
    cases read : Lexeme.next d c rest with
    | error flaw => simp [read, Reading.behind] at ends
    | ok lexeme =>
      obtain ⟨r', moved, -⟩ :=
        behind_of_ok template { r with offset := r.offset + plain.length } lexeme
      simp [read, moved] at ends

theorem Faithful.segments_of_fault (faithful : Faithful d template r) {fault : Fault}
    (refused : Reading.pass d template r = .error (.fault fault)) :
    Template.segments d template = .error fault := by
  obtain ⟨-, ends⟩ | ⟨plain, c, rest, front, before, passed⟩ := pass_cases d template r
  · simp [ends] at refused
  · rw [passed] at refused
    cases read : Lexeme.next d c rest with
    | error flaw =>
      obtain rfl : flaw.fault template (r.offset + plain.length) = fault := by
        simpa [read, Reading.behind] using refused
      rw [(faithful.plain front before).rest, drop_of_append front, segmentsFrom, read]
      rfl
    | ok lexeme =>
      obtain ⟨r', moved, -⟩ :=
        behind_of_ok template { r with offset := r.offset + plain.length } lexeme
      simp [read, moved] at refused

end Reading

open Reading (Passes pass)

/-- That spans and passes move on and stay inside of a template. -/
structure Advances (d : Dialect) (template : String) : Prop where
  /-- A quoted span that opens at an offset has one end, and this is found, or it has none and is
  refused. -/
  quoted : ∀ start quote, template.toList[start]? = some quote →
    (∃ stop, quotedEnd d template start = .ok stop ∧
        QuotedSpan d quote template.toList start stop ∧
        ∀ stop', QuotedSpan d quote template.toList start stop' → stop' = stop) ∨
      quotedEnd d template start = .error (.fault (.openQuote quote start template)) ∧
        ∀ stop, ¬ QuotedSpan d quote template.toList start stop
  /-- A comment, or a sign alone, ends behind its first character and inside of the template,
  unless it is a block comment that nothing closes; this is refused. -/
  comments : ∀ start sign, template.toList[start]? = some sign →
    (∃ stop, commentEnd d template start = .ok stop ∧ start < stop ∧
        stop ≤ template.toList.length ∧ ¬ OpenComment template.toList start) ∨
      commentEnd d template start = .error (.fault (.openComment start template)) ∧
        OpenComment template.toList start
  /-- These ends are those of the lexemes that are read where something opens. -/
  lexemes : ∀ start c, template.toList[start]? = some c → opens d c = true → c ≠ marker →
    stopOf template start (Lexeme.next d c (template.toList.drop (start + 1))) =
      if d.quoteChars.contains c then quotedEnd d template start else commentEnd d template start
  /-- No pass asks for a character that the template does not have. -/
  inside : ∀ r offset, pass d template r ≠ .error (.outside offset)
  moves : ∀ r r', pass d template r = .ok (some r') →
    r.offset < r'.offset ∧ r'.offset ≤ template.toList.length
  bounded : ∀ passes r, Passes d template passes .start r → passes ≤ template.toList.length
  /-- Passes end where nothing opens any more, and have found the segments of the template, or with
  the fault in it, in a pass that is counted too. -/
  ends : ∃ passes r, Passes d template passes .start r ∧
    (pass d template r = .ok none ∧ segments d template = .ok (r.segments template) ∨
      ∃ fault, pass d template r = .error (.fault fault) ∧
        passes + 1 ≤ template.toList.length ∧ segments d template = .error fault)

/-- In every dialect and on every template, well formed or not, spans end inside of the template
or are refused, every pass moves on, and the reading ends after no more passes than there are
characters. -/
theorem passes_advance (d : Dialect) (template : String) : Advances d template where
  quoted start quote opening := quotedEnd_cases d template opening
  comments start sign opening := commentEnd_cases d template opening
  lexemes start c opening opened other :=
    Reading.stopOf_next opening opened fun same => absurd same other
  inside := Reading.pass_ne_outside d template
  moves r r' := Reading.pass_moves
  bounded passes r run :=
    calc passes = Reading.start.offset + passes := (Nat.zero_add passes).symm
      _ ≤ r.offset := run.offset_le
      _ ≤ template.toList.length := run.inside (Nat.zero_le _)
  ends := by
    obtain ⟨passes, r, run, stops⟩ := Reading.exists_passes d template .start
    have faithful := (Reading.faithful_start d template).passes run
    refine ⟨passes, r, run, ?_⟩
    obtain ends | ⟨fault, refused, unread⟩ := stops
    · exact .inl ⟨ends, faithful.segments_of_end ends⟩
    · have moved := run.offset_le
      exact .inr ⟨fault, refused, by omega, faithful.segments_of_fault refused⟩

/-- A quote behind a backslash does not end its span, and a backslash at the end of the template
leaves its span open. -/
theorem passes_advance_last_backslash :
    ("'\\''/**/'\\".toList[0]? = some '\'' ∧ quotedEnd .mysql "'\\''/**/'\\" 0 = .ok 4 ∧
      QuotedSpan .mysql '\'' "'\\''/**/'\\".toList 0 4) ∧
    ("'\\''/**/'\\".toList[8]? = some '\'' ∧
      quotedEnd .mysql "'\\''/**/'\\" 8
        = .error (.fault (.openQuote '\'' 8 "'\\''/**/'\\")) ∧
      ∀ stop, ¬ QuotedSpan .mysql '\'' "'\\''/**/'\\".toList 8 stop) ∧
    ("'\\''/**/'\\".toList[4]? = some '/' ∧ commentEnd .mysql "'\\''/**/'\\" 4 = .ok 8 ∧
      ¬ OpenComment "'\\''/**/'\\".toList 4) ∧
    Passes .mysql "'\\''/**/'\\" 2 .start ⟨8, 0, []⟩ ∧
      2 ≤ "'\\''/**/'\\".toList.length := by
  obtain ⟨quoted, comments, -, -, -, bounded, -⟩ := passes_advance .mysql "'\\''/**/'\\"
  have closed : quotedEnd .mysql "'\\''/**/'\\" 0 = .ok 4 := by decide +kernel
  have unclosed : quotedEnd .mysql "'\\''/**/'\\" 8
      = .error (.fault (.openQuote '\'' 8 "'\\''/**/'\\")) := by decide +kernel
  have comment : commentEnd .mysql "'\\''/**/'\\" 4 = .ok 8 := by decide +kernel
  have first : pass .mysql "'\\''/**/'\\" .start = .ok (some ⟨4, 0, []⟩) := by decide +kernel
  have second : pass .mysql "'\\''/**/'\\" ⟨4, 0, []⟩ = .ok (some ⟨8, 0, []⟩) := by
    decide +kernel
  have run : Passes .mysql "'\\''/**/'\\" 2 .start ⟨8, 0, []⟩ := .cons first (.cons second .none)
  refine ⟨⟨rfl, closed, ?_⟩, ⟨rfl, unclosed, ?_⟩, ⟨rfl, comment, ?_⟩, run, bounded 2 _ run⟩
  · obtain ⟨stop, found, span, -⟩ | ⟨refused, -⟩ := quoted 0 '\'' rfl
    · obtain rfl := Except.ok.inj (closed.symm.trans found)
      exact span
    · cases closed.symm.trans refused
  · obtain ⟨stop, found, -⟩ | ⟨-, none⟩ := quoted 8 '\'' rfl
    · cases unclosed.symm.trans found
    · exact none
  · obtain ⟨stop, -, -, -, closes⟩ | ⟨refused, -⟩ := comments 4 '/' rfl
    · exact closes
    · cases comment.symm.trans refused

end SafeSql.Template
