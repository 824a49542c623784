import SafeSql.Proofs.Template.Lexer

/-!
# Code, quoted text and comments

Every character of a text is code, or belongs to a quoted span or to a comment. The classes are
found by going through the text with the rules of the scanner, where a marker is a character like
any other. A machine that reads one character at a time finds the same classes; unlike the rules
it never looks beyond the next two characters, so that it can be followed through texts that are
put together from parts.

## Main definitions

* `CharClass`, `classes` — the classes of the characters of a text.
* `Walk.Mode`, `Walk.next`, `Walk.walk` — the machine.
* `Walk.Reads` — what the machine does with a part of a text.

## Main statements

* `classes_eq_walk` — the machine finds the classes.
* `Walk.Reads.congr` — a part is read alike before texts that begin alike.
-/

namespace SafeSql.Template

/-- What a character of SQL text belongs to; the delimiters of a span belong to it. -/
inductive CharClass
  | code
  | quoted
  | comment
  deriving DecidableEq, Repr

/-- What a dash or a slash opens: a comment if more than the character itself belongs to it. -/
def opened : Lexeme → CharClass × Nat
  | .text (more + 1) => (.comment, more + 1)
  | _ => (.code, 0)

/-- The class of the stretch at the front of the text `c :: rest` with the number of characters
behind the first one that belong to it; nothing when the stretch is not closed. -/
def stretch (d : Dialect) (c : Char) (rest : List Char) : Option (CharClass × Nat) :=
  if d.quoteChars.contains c then
    (Span.quotedTail c (d.backslashActive c) rest).map fun more => (.quoted, more)
  else if c = '#' && d.hashComments then some (.comment, Span.lineTail rest)
  else if c = '-' then some (opened (Lexeme.afterDash d rest))
  else if c = '/' then
    match Lexeme.afterSlash rest with
    | .ok lexeme => some (opened lexeme)
    | .error _ => none
  else some (.code, 0)

/-- The classes of the characters of a text, if all its spans and comments are closed. -/
def classes (d : Dialect) : List Char → Option (List CharClass)
  | [] => some []
  | c :: rest =>
    match stretch d c rest with
    | none => none
    | some (cls, more) =>
      (classes d (rest.drop more)).map (List.replicate (more + 1) cls ++ ·)
termination_by text => text.length
decreasing_by simp only [List.length_cons, List.length_drop]; omega

namespace Walk

open Lexer (opensLine)

/-- Where the machine stands. A quoted span is left at its quote: a doubled quote leaves the span
and opens it again. -/
inductive Mode
  | code
  | quoted (quote : Char)
  /-- Behind an active backslash. -/
  | taken (quote : Char)
  | line
  /-- Behind the slash of a block comment, before its asterisk. -/
  | opened
  | block
  /-- In a block comment behind an asterisk. -/
  | star
  deriving DecidableEq, Repr

def Mode.closed : Mode → Bool
  | .code | .line => true
  | _ => false

def inCode (d : Dialect) (c : Char) (rest : List Char) : Mode × CharClass :=
  if d.quoteChars.contains c then (.quoted c, .quoted)
  else if (c = '#' && d.hashComments) || (c = '-' && opensLine d rest) then (.line, .comment)
  else if c = '/' && rest.head? = some '*' then (.opened, .comment)
  else (.code, .code)

def inBlock (c : Char) : Mode :=
  if c = '*' then .star else .block

def next (d : Dialect) (c : Char) (rest : List Char) : Mode → Mode × CharClass
  | .code => inCode d c rest
  | .quoted quote =>
    (if d.backslashActive quote && c = '\\' then .taken quote
      else if c = quote then .code else .quoted quote, .quoted)
  | .taken quote => (.quoted quote, .quoted)
  | .line => (if c = '\n' then .code else .line, .comment)
  | .opened => (.block, .comment)
  | .block => (inBlock c, .comment)
  | .star => (if c = '/' then .code else inBlock c, .comment)

/-- Reads a text to its end. -/
def walk (d : Dialect) : Mode → List Char → Option (List CharClass)
  | mode, [] => if mode.closed then some [] else none
  | mode, c :: rest =>
    (walk d (next d c rest mode).1 rest).map ((next d c rest mode).2 :: ·)

/-- From a mode the machine reads a text, before the text `rest`, giving its characters classes
and reaching another mode. -/
inductive Reads (d : Dialect) : Mode → List Char → List Char → List CharClass → Mode → Prop
  | nil {mode : Mode} {rest : List Char} : Reads d mode [] rest [] mode
  | cons {mode mode' last : Mode} {c : Char} {text rest : List Char} {cls : CharClass}
      {more : List CharClass} (first : next d c (text ++ rest) mode = (mode', cls))
      (later : Reads d mode' text rest more last) :
      Reads d mode (c :: text) rest (cls :: more) last

section Laws

variable {d : Dialect} {mode mode' last : Mode} {text more rest rest' : List Char}
  {before after found : List CharClass}

theorem Reads.append (h : Reads d mode text (more ++ rest) before mode')
    (h' : Reads d mode' more rest after last) :
    Reads d mode (text ++ more) rest (before ++ after) last := by
  induction text generalizing mode before with
  | nil => cases h; exact h'
  | cons c text ih =>
    obtain _ | ⟨first, later⟩ := h
    exact .cons (by simpa using first) (ih later)

theorem Reads.walk_eq (h : Reads d mode text rest before mode') :
    walk d mode (text ++ rest) = (walk d mode' rest).map (before ++ ·) := by
  induction h with
  | nil => simp
  | cons first later ih => simp [walk, first, ih, Function.comp_def]

theorem Reads.length_eq (h : Reads d mode text rest before mode') :
    before.length = text.length := by
  induction h <;> simp_all

theorem Reads.split (h : Reads d mode (text ++ more) rest found last) :
    ∃ before mode' after, found = before ++ after ∧ Reads d mode text (more ++ rest) before mode' ∧
      Reads d mode' more rest after last := by
  induction text generalizing mode found with
  | nil => exact ⟨[], mode, found, rfl, .nil, h⟩
  | cons c text ih =>
    obtain _ | ⟨first, later⟩ := h
    obtain ⟨before, mode', after, rfl, read, behind⟩ := ih later
    exact ⟨_ :: before, mode', after, rfl, .cons (by simpa using first) read, behind⟩

theorem Reads.one {c : Char} {cls : CharClass} (h : next d c rest mode = (mode', cls)) :
    Reads d mode [c] rest [cls] mode' :=
  .cons h .nil

/-- Inside of a span, its quote is one of the dialect. -/
def Mode.Own (d : Dialect) : Mode → Prop
  | .quoted quote | .taken quote => d.quoteChars.contains quote
  | _ => True

theorem own_next {c : Char} {cls : CharClass} (own : mode.Own d)
    (h : next d c rest mode = (mode', cls)) : mode'.Own d := by
  obtain rfl : (next d c rest mode).1 = mode' := congrArg Prod.fst h
  cases mode with
  | code => unfold next inCode; split_ifs <;> assumption
  | quoted quote => unfold next; dsimp only; split_ifs <;> first | exact own | trivial
  | taken quote => exact own
  | line => unfold next; dsimp only; split_ifs <;> trivial
  | opened => trivial
  | block => unfold next inBlock; dsimp only; split_ifs <;> trivial
  | star => unfold next inBlock; dsimp only; split_ifs <;> trivial

theorem Reads.own (h : Reads d mode text rest before mode') (own : mode.Own d) : mode'.Own d := by
  induction h with
  | nil => exact own
  | cons first later ih => exact ih (own_next own first)

theorem code_of_dash {cls : CharClass} (no_quote : d.quoteChars.contains '-' = false)
    (own : mode.Own d) (h : next d '-' rest mode = (.code, cls)) : mode = .code := by
  cases mode with
  | code => rfl
  | quoted quote =>
    have other : '-' ≠ quote := by
      rintro rfl
      rw [Mode.Own, no_quote] at own
      contradiction
    simp [next, other] at h
  | taken | line | opened | block | star => simp [next, inBlock] at h

/-- A text that ends in code with a dash is in code before it. -/
theorem Reads.before_dash (no_quote : d.quoteChars.contains '-' = false)
    (h : Reads d .code (text ++ ['-']) rest found .code) :
    ∃ before cls, found = before ++ [cls] ∧ Reads d .code text ('-' :: rest) before .code := by
  obtain ⟨before, mode, after, rfl, read, behind⟩ := h.split
  obtain _ | ⟨dash, _ | _⟩ := behind
  obtain rfl := code_of_dash no_quote (read.own trivial) dash
  exact ⟨before, _, rfl, read⟩

/-- What stands behind a dash that opens a comment is in the comment. -/
theorem comment_of_opensLine {c : Char} (no_quote : d.quoteChars.contains '-' = false)
    (opens : opensLine d (c :: rest) = true) (h : walk d .code ('-' :: c :: rest) = some found) :
    ∃ others, found = .comment :: .comment :: others := by
  have first : next d '-' (c :: rest) .code = (.line, .comment) := by
    simp only [next, inCode, no_quote, opens]
    rfl
  rw [walk, first, walk] at h
  obtain ⟨_, later, rfl⟩ := Option.map_eq_some_iff.1 h
  obtain ⟨others, _, rfl⟩ := Option.map_eq_some_iff.1 later
  exact ⟨others, rfl⟩

/-! ## Parts of texts -/

/-- Whether a comment opens at a dash can be told from a text of two characters, or from one
and the beginning of what follows. -/
theorem opensLine_append (blank : rest.head?.map Text.isBlank = rest'.head?.map Text.isBlank)
    (nonempty : text ≠ []) : opensLine d (text ++ rest) = opensLine d (text ++ rest') := by
  obtain _ | ⟨c, _ | ⟨c', text⟩⟩ := text
  · contradiction
  · by_cases dash : c = '-'
    · cases rest <;> cases rest' <;> simp_all [opensLine]
    · simp [opensLine, dash]
  · by_cases dash : c = '-' <;> simp [opensLine, dash]

/-- A part is read alike before texts that begin alike. -/
theorem Reads.congr (h : Reads d mode text rest before mode')
    (dash : text.getLast? = some '-' → opensLine d rest = opensLine d rest')
    (blank : rest.head?.map Text.isBlank = rest'.head?.map Text.isBlank)
    (star : rest.head? = some '*' ↔ rest'.head? = some '*') :
    Reads d mode text rest' before mode' := by
  induction h with
  | nil => exact .nil
  | @cons mode mode' last c text rest cls more first later ih =>
    refine .cons ?_ (ih (fun ends => dash (by simp [List.getLast?_cons, ends])) blank star)
    rw [← first]
    have opens (is_dash : c = '-') : opensLine d (text ++ rest') = opensLine d (text ++ rest) := by
      by_cases nonempty : text = []
      · subst nonempty is_dash
        exact (dash rfl).symm
      · exact opensLine_append blank.symm nonempty
    have heads : (text ++ rest').head? = some '*' ↔ (text ++ rest).head? = some '*' := by
      cases text with
      | nil => exact star.symm
      | cons => rfl
    cases mode with
    | code =>
      by_cases is_dash : c = '-'
      · simp only [next, inCode, heads, opens is_dash]
      · simp only [next, inCode, heads, is_dash, decide_false, Bool.false_and]
    | _ => rfl

/-! ## Spans and comments -/

/-- From a mode the machine reads so many characters of one class and is in code again, or at the
end of a line that the text does not close; it never closes what is not closed. -/
def Leaves (d : Dialect) (mode : Mode) (cls : CharClass) (text : List Char) : Option Nat → Prop
  | none => walk d mode text = none
  | some n => ∃ last, Reads d mode (text.take n) (text.drop n) (List.replicate n cls) last ∧
      (last = .code ∨ last = .line ∧ text.drop n = [])

theorem Leaves.one {cls : CharClass} {c : Char} (h : next d c rest mode = (.code, cls)) :
    Leaves d mode cls (c :: rest) (some 1) :=
  ⟨.code, .one h, .inl rfl⟩

theorem Leaves.cons {cls : CharClass} {c : Char} {n : Option Nat}
    (first : next d c rest mode = (mode', cls)) (later : Leaves d mode' cls rest n) :
    Leaves d mode cls (c :: rest) (n.map (· + 1)) := by
  cases n with
  | none =>
    rw [Leaves] at later
    simp [Leaves, walk, first, later]
  | some n =>
    obtain ⟨last, read, ends⟩ := later
    refine ⟨last, .cons ?_ read, ends⟩
    rwa [List.drop_succ_cons, List.take_append_drop]

theorem leaves_quoted {quote : Char} (own : d.quoteChars.contains quote) (text : List Char) :
    Leaves d (.quoted quote) .quoted text
      (Span.quotedTail quote (d.backslashActive quote) text) := by
  generalize active : d.backslashActive quote = backslash
  fun_induction Span.quotedTail quote backslash text with
  | case1 => rfl
  | case2 c escaped => simp [Leaves, walk, next, active, escaped, Mode.closed]
  | case3 escaped => exact .one (by simp [next, active, escaped])
  | case4 c escaped other => simp [Leaves, walk, next, active, escaped, other, Mode.closed]
  | case5 c c' rest escaped ih =>
    have first : next d c (c' :: rest) (.quoted quote) = (.taken quote, .quoted) := by
      simp [next, active, escaped]
    have second : next d c' rest (.taken quote) = (.quoted quote, .quoted) := rfl
    simpa [Function.comp_def] using Leaves.cons first (Leaves.cons second ih)
  | case6 rest escaped ih =>
    -- the first quote of a doubled one closes the span, the second one opens it again
    have first : next d quote (quote :: rest) (.quoted quote) = (.code, .quoted) := by
      simp [next, active, escaped]
    have second : next d quote rest .code = (.quoted quote, .quoted) := by
      simp only [next, inCode, own, if_true]
    simpa [Function.comp_def] using Leaves.cons first (Leaves.cons second ih)
  | case7 c' rest single escaped => exact .one (by simp [next, active, escaped])
  | case8 c c' rest escaped other ih =>
    exact Leaves.cons (by simp [next, active, escaped, other]) ih

theorem leaves_line (text : List Char) :
    Leaves d .line .comment text (some (Span.lineTail text)) := by
  fun_induction Span.lineTail text with
  | case1 => exact ⟨.line, .nil, .inr ⟨rfl, rfl⟩⟩
  | case2 rest => exact .one rfl
  | case3 c rest other ih => exact Leaves.cons (by simp [next, other]) ih

theorem leaves_block (text : List Char)
    (apart : mode = .block ∨ mode = .star ∧ text.head? ≠ some '/') :
    Leaves d mode .comment text (Span.blockTail text) := by
  fun_induction Span.blockTail text generalizing mode with
  | case1 => obtain rfl | ⟨rfl, -⟩ := apart <;> rfl
  | case2 c rest closes =>
    obtain ⟨rfl, more, rfl⟩ : c = '*' ∧ ∃ more, rest = '/' :: more := by
      cases rest <;> simp_all
    have first : next d '*' ('/' :: more) mode = (.star, .comment) := by
      obtain rfl | ⟨rfl, -⟩ := apart <;> rfl
    have second : next d '/' more .star = (.code, .comment) := rfl
    exact Leaves.cons first (Leaves.one second)
  | case3 c rest other ih =>
    have first : next d c rest mode = (inBlock c, .comment) := by
      obtain rfl | ⟨rfl, inside⟩ := apart
      · rfl
      · have no_slash : c ≠ '/' := by simpa using inside
        simp [next, no_slash]
    refine Leaves.cons first (ih ?_)
    by_cases star : c = '*' <;> simp_all [inBlock]

/-- What opens at a dash is a comment exactly where the machine says so. -/
theorem opened_afterDash (rest : List Char) :
    opened (Lexeme.afterDash d rest) =
      if opensLine d rest then (.comment, Span.lineTail rest) else (.code, 0) := by
  rw [Lexer.afterDash_eq]
  by_cases opens : opensLine d rest
  · obtain ⟨more, rfl⟩ : ∃ more, rest = '-' :: more := by
      unfold opensLine at opens
      split at opens <;> simp_all
    simp [opens, opened, Span.lineTail]
  · simp [opens, opened]

/-- In code the machine reads one stretch. -/
theorem leaves_stretch (d : Dialect) (c : Char) (rest : List Char) :
    match stretch d c rest with
    | none => walk d .code (c :: rest) = none
    | some (cls, more) => Leaves d .code cls (c :: rest) (some (more + 1)) := by
  unfold stretch
  by_cases quote : d.quoteChars.contains c
  · have first : next d c rest .code = (.quoted c, .quoted) := by
      simp only [next, inCode, quote, if_true]
    have span := Leaves.cons first (leaves_quoted quote rest)
    rw [if_pos quote]
    cases closed : Span.quotedTail c (d.backslashActive c) rest with
    | none => simpa [closed, Leaves] using span
    | some more => simpa [closed] using span
  rw [if_neg quote]
  by_cases hash : c = '#' && d.hashComments
  · have first : next d c rest .code = (.line, .comment) := by
      simp only [next, inCode, quote, hash, Bool.true_or, if_true]
      rfl
    rw [if_pos hash]
    exact Leaves.cons first (leaves_line rest)
  rw [if_neg hash]
  by_cases dash : c = '-'
  · subst dash
    rw [if_pos rfl, opened_afterDash]
    by_cases opens : opensLine d rest
    · have first : next d '-' rest .code = (.line, .comment) := by
        simp only [next, inCode, quote, opens]
        rfl
      rw [if_pos opens]
      exact Leaves.cons first (leaves_line rest)
    · rw [if_neg opens]
      refine Leaves.one ?_
      simp only [next, inCode, quote, opens]
      rfl
  rw [if_neg dash]
  by_cases slash : c = '/'
  · subst slash
    rw [if_pos rfl]
    by_cases opens : rest.head? = some '*'
    · obtain ⟨more, rfl⟩ : ∃ more, rest = '*' :: more := by
        cases rest <;> simp_all
      have first : next d '/' ('*' :: more) .code = (.opened, .comment) := by
        simp only [next, inCode, quote]
        rfl
      have second : next d '*' more .opened = (.block, .comment) := rfl
      have comment := Leaves.cons first (Leaves.cons second (leaves_block more (.inl rfl)))
      cases closed : Span.blockTail more with
      | none => simpa [Lexeme.afterSlash, closed, Leaves] using comment
      | some more => simpa [Lexeme.afterSlash, closed, opened] using comment
    · have alone : Lexeme.afterSlash rest = .ok (.text 0) := by
        unfold Lexeme.afterSlash
        split <;> simp_all
      rw [alone]
      refine Leaves.one ?_
      simp only [next, inCode, quote, opens]
      rfl
  · rw [if_neg slash]
    refine Leaves.one ?_
    simp only [next, inCode, quote, hash, dash, slash]
    rfl

end Laws

end Walk

/-- The machine finds the classes of the characters of a text. -/
theorem classes_eq_walk (d : Dialect) (text : List Char) :
    classes d text = Walk.walk d .code text := by
  fun_induction classes d text with
  | case1 => rfl
  | case2 c rest open_ =>
    have read := Walk.leaves_stretch d c rest
    rw [open_] at read
    exact read.symm
  | case3 c rest cls more closed ih =>
    have read := Walk.leaves_stretch d c rest
    rw [closed] at read
    obtain ⟨last, read, ends⟩ := read
    have split := read.walk_eq
    rw [List.take_append_drop, List.drop_succ_cons] at split
    rw [split, ih]
    obtain rfl | ⟨rfl, empty⟩ := ends
    · rfl
    · rw [List.drop_succ_cons] at empty
      rw [empty]
      rfl

end SafeSql.Template
