import SafeSql.Proofs.Template.Spans

/-!
# Ends of spans by offsets

The end of a span can be found by moving an offset through the template. Characters are asked for
by their offset, and to ask for one where the text has none is an outcome of its own. It never
comes to this: where a quoted span or a comment opens, the offset arrives at its end, which is
inside of the template, or there is no end and the span is refused.

## Main definitions

* `Halt`, `charAt` — characters by their offsets.
* `quotedEnd`, `commentEnd` — where a span ends.

## Main statements

* `quotedFrom_eq` — an offset arrives where the scanner leaves the span.
* `stopOf_next_of_quote`, `stopOf_next_of_sign` — the scanner reads as far.
* `quotedEnd_cases` — a quoted span has one end, which is found, or none.
* `commentEnd_cases` — a comment ends inside of the template unless nothing closes it.
-/

namespace SafeSql.Template

/-- Why a reading by offsets stops. -/
inductive Halt
  /-- The character at an offset was asked for, and the text has none there. -/
  | outside (offset : Nat)
  | fault (fault : Fault)
  deriving DecidableEq, Repr

def charAt (text : List Char) (offset : Nat) : Except Halt Char :=
  match text[offset]? with
  | some c => .ok c
  | none => .error (.outside offset)

/-- The character at an offset, which is asked for only if the text reaches so far. -/
def lookAhead (text : List Char) (offset : Nat) : Except Halt (Option Char) :=
  if offset < text.length then (charAt text offset).map some else .ok none

/-- Where a quoted span ends, from an offset inside of it on. A backslash at the end of the text
takes the offset beyond it. -/
def quotedFrom (fault : Fault) (quote : Char) (backslash : Bool) (text : List Char)
    (offset : Nat) : Except Halt Nat :=
  if offset < text.length then do
    let c ← charAt text offset
    if backslash && c = '\\' then quotedFrom fault quote backslash text (offset + 2)
    else if c = quote then
      let next ← lookAhead text (offset + 1)
      if next = some quote then quotedFrom fault quote backslash text (offset + 2)
      else return offset + 1
    else quotedFrom fault quote backslash text (offset + 1)
  else throw (.fault fault)
termination_by text.length - offset

/-- Where the quoted span ends that opens at an offset. -/
def quotedEnd (d : Dialect) (template : String) (start : Nat) : Except Halt Nat := do
  let quote ← charAt template.toList start
  quotedFrom (.openQuote quote start template) quote (d.backslashActive quote) template.toList
    (start + 1)

def Lexeme.more : Lexeme → Nat
  | .text more | .placeholder _ _ more => more

/-- What a sign opens with which comments begin. -/
def Lexeme.afterSign (d : Dialect) (sign : Char) (rest : List Char) : Except Flaw Lexeme :=
  if sign = '#' then .ok (.text (Span.lineTail rest))
  else if sign = '-' then .ok (afterDash d rest)
  else if sign = '/' then afterSlash rest
  else .ok (.text 0)

/-- The offset behind a lexeme that stands at an offset, or what is wrong with it. -/
def stopOf (template : String) (start : Nat) : Except Flaw Lexeme → Except Halt Nat
  | .error flaw => .error (.fault (flaw.fault template start))
  | .ok lexeme => .ok (start + lexeme.more + 1)

/-- Where the comment ends that opens at an offset, or the sign that stands there alone. -/
def commentEnd (d : Dialect) (template : String) (start : Nat) : Except Halt Nat := do
  let sign ← charAt template.toList start
  stopOf template start (Lexeme.afterSign d sign (template.toList.drop (start + 1)))

section Laws

variable {d : Dialect} {template : String} {text : List Char} {offset : Nat} {c : Char}

theorem charAt_of_getElem? (h : text[offset]? = some c) : charAt text offset = .ok c := by
  simp only [charAt, h]

theorem lookAhead_eq (text : List Char) (offset : Nat) :
    lookAhead text offset = .ok text[offset]? := by
  unfold lookAhead
  split
  next inside => simp [charAt, inside]
  next outside => simp [List.getElem?_eq_none (Nat.le_of_not_lt outside)]

/-- So many characters behind an offset, or a fault where there is no such number. -/
def reached (fault : Fault) (offset : Nat) : Option Nat → Except Halt Nat
  | none => .error (.fault fault)
  | some length => .ok (offset + length)

theorem reached_map (fault : Fault) (offset n : Nat) (length : Option Nat) :
    reached fault offset (length.map (· + n)) = reached fault (offset + n) length := by
  cases length with
  | none => rfl
  | some length => simp only [Option.map_some, reached, Nat.add_assoc, Nat.add_comm n]

/-! ## Quoted spans -/

/-- At the end of the text a span is open. -/
theorem quotedFrom_of_nil (fault : Fault) (quote : Char) (backslash : Bool)
    (nothing : text.drop offset = []) :
    quotedFrom fault quote backslash text offset = .error (.fault fault) := by
  have outside : ¬ offset < text.length := by simpa using nothing
  rw [quotedFrom, if_neg outside]
  rfl

/-- One character of a span, with a look at the next one. -/
theorem quotedFrom_of_cons (fault : Fault) (quote : Char) (backslash : Bool) {rest : List Char}
    (front : text.drop offset = c :: rest) :
    quotedFrom fault quote backslash text offset =
      if backslash && c = '\\' then quotedFrom fault quote backslash text (offset + 2)
      else if c = quote then
        if rest.head? = some quote then quotedFrom fault quote backslash text (offset + 2)
        else .ok (offset + 1)
      else quotedFrom fault quote backslash text (offset + 1) := by
  have here : text[offset]? = some c := by simpa using congrArg List.head? front
  have next : text[offset + 1]? = rest.head? := by
    simpa [drop_of_getElem? here] using congrArg (fun more => more.tail.head?) front
  have inside : offset < text.length := (List.getElem?_eq_some_iff.1 here).1
  rw [quotedFrom, if_pos inside, charAt_of_getElem? here, lookAhead_eq, next]
  rfl

/-- Reading a span by offsets ends where the span does; no character is asked for beyond the
text. -/
theorem quotedFrom_eq (fault : Fault) (quote : Char) (backslash : Bool) (text : List Char)
    (offset : Nat) :
    quotedFrom fault quote backslash text offset =
      reached fault offset (Span.quotedTail quote backslash (text.drop offset)) := by
  generalize front : text.drop offset = rest
  fun_induction Span.quotedTail quote backslash rest generalizing offset with
  | case1 => exact quotedFrom_of_nil _ _ _ front
  | case2 c escaped =>
    -- the backslash takes the offset beyond the end of the text
    have beyond : text.drop (offset + 2) = [] := by
      rw [← List.drop_drop, front]
      rfl
    rw [quotedFrom_of_cons _ _ _ front, if_pos escaped]
    exact quotedFrom_of_nil _ _ _ beyond
  | case3 escaped =>
    rw [quotedFrom_of_cons _ _ _ front, if_neg escaped, if_pos rfl]
    rfl
  | case4 c escaped other =>
    rw [quotedFrom_of_cons _ _ _ front, if_neg escaped, if_neg other]
    exact quotedFrom_of_nil _ _ _ (drop_of_cons front)
  | case5 c next rest escaped ih =>
    rw [quotedFrom_of_cons _ _ _ front, if_pos escaped, reached_map]
    exact ih _ (drop_of_cons (drop_of_cons front))
  | case6 rest escaped ih =>
    rw [quotedFrom_of_cons _ _ _ front, if_neg escaped, if_pos rfl,
      if_pos List.head?_cons, reached_map]
    exact ih _ (drop_of_cons (drop_of_cons front))
  | case7 next rest single escaped =>
    rw [quotedFrom_of_cons _ _ _ front, if_neg escaped, if_pos rfl, if_neg (by simpa using single)]
    rfl
  | case8 c next rest escaped other ih =>
    rw [quotedFrom_of_cons _ _ _ front, if_neg escaped, if_neg other, reached_map]
    exact ih _ (drop_of_cons front)

theorem quotedEnd_eq (opening : template.toList[offset]? = some c) :
    quotedEnd d template offset = reached (.openQuote c offset template) (offset + 1)
      (Span.quotedTail c (d.backslashActive c) (template.toList.drop (offset + 1))) := by
  rw [quotedEnd, charAt_of_getElem? opening]
  exact quotedFrom_eq _ _ _ _ _

/-- At a quote the scanner reads as far as the offset goes. -/
theorem stopOf_next_of_quote (opening : template.toList[offset]? = some c)
    (quote : d.quoteChars.contains c = true) :
    stopOf template offset (Lexeme.next d c (template.toList.drop (offset + 1))) =
      quotedEnd d template offset := by
  rw [quotedEnd_eq opening, Lexeme.next, if_pos quote]
  cases Span.quotedTail c (d.backslashActive c) (template.toList.drop (offset + 1)) with
  | none => rfl
  | some length => simp only [stopOf, Lexeme.more, reached, Nat.add_right_comm]

/-- A quoted span that opens at an offset has one end, which is found, or none, and then the span
is refused. -/
theorem quotedEnd_cases (d : Dialect) (template : String) {start : Nat} {quote : Char}
    (opening : template.toList[start]? = some quote) :
    (∃ stop, quotedEnd d template start = .ok stop ∧
        QuotedSpan d quote template.toList start stop ∧
        ∀ stop', QuotedSpan d quote template.toList start stop' → stop' = stop) ∨
      quotedEnd d template start = .error (.fault (.openQuote quote start template)) ∧
        ∀ stop, ¬ QuotedSpan d quote template.toList start stop := by
  rw [quotedEnd_eq opening]
  simp only [quotedSpan_iff opening]
  cases Span.quotedTail quote (d.backslashActive quote) (template.toList.drop (start + 1)) with
  | none => exact .inr ⟨rfl, by simp⟩
  | some length => exact .inl ⟨_, rfl, ⟨length, rfl, rfl⟩, by simp⟩

/-! ## Comments -/

theorem commentEnd_eq (opening : template.toList[offset]? = some c) :
    commentEnd d template offset =
      stopOf template offset (Lexeme.afterSign d c (template.toList.drop (offset + 1))) := by
  rw [commentEnd, charAt_of_getElem? opening, Except.ok_bind]

theorem Lexeme.more_le_of_next {rest : List Char} {lexeme : Lexeme}
    (h : next d c rest = .ok lexeme) : lexeme.more ≤ rest.length := by
  cases lexeme with
  | text more => exact le_of_next_text h
  | placeholder kind name more => exact le_of_next_placeholder h

/-- What stands at a sign that the dialect does not read as a quote. -/
theorem Lexeme.next_eq_afterSign (plain : d.quoteChars.contains c = false) (other : c ≠ marker)
    (hash : c = '#' → d.hashComments = true) (rest : List Char) :
    next d c rest = afterSign d c rest := by
  rw [next, plain, afterSign, if_neg other]
  by_cases sign : c = '#' <;> simp [sign, hash]

theorem Lexeme.more_le_of_afterSign {rest : List Char} {lexeme : Lexeme}
    (h : afterSign d c rest = .ok lexeme) : lexeme.more ≤ rest.length := by
  by_cases mark : c = marker
  · subst mark
    obtain rfl : Lexeme.text 0 = lexeme := Except.ok.inj h
    exact Nat.zero_le _
  · -- the sign is read alike where nothing is a quote and a hash opens comments
    let signs : Dialect := { d with quoteChars := [], hashComments := true }
    have read : next signs c rest = afterSign signs c rest :=
      next_eq_afterSign rfl mark (fun _ => rfl) rest
    exact more_le_of_next (read.trans h)

theorem Lexeme.afterSign_eq_error_iff (opening : text[offset]? = some c) {flaw : Flaw} :
    afterSign d c (text.drop (offset + 1)) = .error flaw ↔
      flaw = .openComment ∧ OpenComment text offset := by
  by_cases slash : c = '/'
  · subst slash
    exact afterSlash_eq_error_iff opening
  · refine iff_of_false (fun refused => ?_) fun open_ => ?_
    · unfold afterSign at refused
      split_ifs at refused
    · rw [open_.2.slash] at opening
      exact slash (Option.some.inj opening).symm

/-- At a sign the scanner reads as far as the offset goes. -/
theorem stopOf_next_of_sign (opening : template.toList[offset]? = some c)
    (plain : d.quoteChars.contains c = false) (other : c ≠ marker)
    (hash : c = '#' → d.hashComments = true) :
    stopOf template offset (Lexeme.next d c (template.toList.drop (offset + 1))) =
      commentEnd d template offset := by
  rw [commentEnd_eq opening, Lexeme.next_eq_afterSign plain other hash]

/-- A comment that opens at an offset ends behind it and inside of the template, or it is a block
comment that nothing closes, and is refused. -/
theorem commentEnd_cases (d : Dialect) (template : String) {start : Nat} {sign : Char}
    (opening : template.toList[start]? = some sign) :
    (∃ stop, commentEnd d template start = .ok stop ∧ start < stop ∧
        stop ≤ template.toList.length ∧ ¬ OpenComment template.toList start) ∨
      commentEnd d template start = .error (.fault (.openComment start template)) ∧
        OpenComment template.toList start := by
  rw [commentEnd_eq opening]
  have refused (flaw : Flaw) :
      Lexeme.afterSign d sign (template.toList.drop (start + 1)) = .error flaw ↔
        flaw = .openComment ∧ OpenComment template.toList start :=
    Lexeme.afterSign_eq_error_iff opening
  cases read : Lexeme.afterSign d sign (template.toList.drop (start + 1)) with
  | error flaw =>
    obtain ⟨rfl, open_⟩ := (refused flaw).1 read
    exact .inr ⟨rfl, open_⟩
  | ok lexeme =>
    have inside := (List.getElem?_eq_some_iff.1 opening).1
    have fits := Lexeme.more_le_of_afterSign read
    rw [List.length_drop] at fits
    refine .inl ⟨_, rfl, by omega, by omega, fun open_ => ?_⟩
    rw [(refused .openComment).2 ⟨rfl, open_⟩] at read
    contradiction

end Laws

end SafeSql.Template
