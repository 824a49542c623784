import SafeSql.Proofs.Results
import SafeSql.Template.Segments

/-!
# A lexer that reads one character at a time

The grammar of templates as a machine: in every state it reads one character, looks at most two
characters ahead, and goes to the next state. It says where quoted spans and comments begin and
end, and what a placeholder is. Cutting a template into segments gives the same characters and
placeholders, and the same fault.

## Main definitions

* `Lexer.State`, `Lexer.step` — the states, and what reading a character does in each.
* `Lexer.run` — the characters of literal text and the placeholders of a text, in order.

## Main statements

* `Lexer.run_code` — the machine in code reads one lexeme.
* `segments_eq_lexer` — segments are what the machine reads.
-/

namespace SafeSql.Template

/-- What a lexer gives for a template: a character of literal text, or a placeholder. -/
inductive Token
  | char (c : Char)
  | placeholder (p : Placeholder)
  deriving DecidableEq, Repr

/-- A segment, with literal text taken apart into its characters. -/
def Segment.tokens : Segment → List Token
  | .literal text => text.map .char
  | .placeholder p => [.placeholder p]

namespace Lexer

/-- Where the lexer stands. Spans, comments and placeholders carry the offset at which they
opened. -/
inductive State
  | code
  | quoted (quote : Char) (opening : Nat)
  /-- Inside a quoted span, before a character that does not end it whatever it is. -/
  | taken (quote : Char) (opening : Nat)
  | line
  | opened (opening : Nat)
  | block (opening : Nat)
  /-- Behind the asterisk that closes a block comment, before its slash. -/
  | closing (opening : Nat)
  | sigil (kind : Kind) (opening : Nat)
  | colon (kind : Kind) (opening : Nat)
  /-- Inside the name of a placeholder, of which some characters have been read. -/
  | name (kind : Kind) (opening : Nat) (read : List Char)
  deriving DecidableEq, Repr

/-- Whether a dash before the text opens a comment. -/
def opensLine (d : Dialect) : List Char → Bool
  | ['-'] => true
  | '-' :: c :: _ => !d.dashCommentNeedsSpace || Text.isBlank c
  | _ => false

/-- Whether a colon and the beginning of a name stand at the front of the text. -/
def nameFollows : List Char → Bool
  | ':' :: c :: _ => isNameStart c
  | _ => false

def inCode (d : Dialect) (offset : Nat) (c : Char) (rest : List Char) :
    Except Flaw (State × List Token) :=
  if d.quoteChars.contains c then .ok (.quoted c offset, [.char c])
  else if c = marker then
    match rest with
    | [] => .ok (.code, [.char c])
    | letter :: _ =>
      if letter.isAlpha then
        match Kind.ofSigil? letter with
        | some kind => .ok (.sigil kind offset, [])
        | none => .error (.unknownKind letter)
      else .ok (.code, [.char c])
  else if c = '#' && d.hashComments then .ok (.line, [.char c])
  else if c = '-' && opensLine d rest then .ok (.line, [.char c])
  else if c = '/' && rest.head? = some '*' then .ok (.opened offset, [.char c])
  else .ok (.code, [.char c])

def step (d : Dialect) (offset : Nat) (c : Char) (rest : List Char) :
    State → Except Flaw (State × List Token)
  | .code => inCode d offset c rest
  | .quoted quote opening =>
    if d.backslashActive quote && c = '\\' then .ok (.taken quote opening, [.char c])
    else if c = quote then
      if rest.head? = some quote then .ok (.taken quote opening, [.char c])
      else .ok (.code, [.char c])
    else .ok (.quoted quote opening, [.char c])
  | .taken quote opening => .ok (.quoted quote opening, [.char c])
  | .line => .ok (if c = '\n' then .code else .line, [.char c])
  | .opened opening => .ok (.block opening, [.char c])
  | .block opening =>
    if c = '*' && rest.head? = some '/' then .ok (.closing opening, [.char c])
    else .ok (.block opening, [.char c])
  | .closing _ => .ok (.code, [.char c])
  | .sigil kind opening =>
    if nameFollows rest then .ok (.colon kind opening, [])
    else .ok (.code, [.placeholder ⟨kind, none, opening⟩])
  | .colon kind opening => .ok (.name kind opening [], [])
  | .name kind opening read =>
    if rest.head?.any isNameChar then .ok (.name kind opening (read ++ [c]), [])
    else .ok (.code, [.placeholder ⟨kind, some (String.ofList (read ++ [c])), opening⟩])

/-- What is left to say at the end of the text. A placeholder is never open there: a state inside
of one is entered only before a character of it. -/
def finish (template : String) : State → Except Fault (List Token)
  | .quoted quote opening | .taken quote opening => .error (.openQuote quote opening template)
  | .opened opening | .block opening | .closing opening => .error (.openComment opening template)
  | _ => .ok []

def run (d : Dialect) (template : String) : State → Nat → List Char → Except Fault (List Token)
  | state, _, [] => finish template state
  | state, offset, c :: rest =>
    match step d offset c rest state with
    | .error flaw => .error (flaw.fault template offset)
    | .ok (next, tokens) => (run d template next (offset + 1) rest).map (tokens ++ ·)

section Laws

variable {d : Dialect} (template : String)

theorem run_cons {state next : State} {offset : Nat} {c : Char} {rest : List Char}
    {tokens : List Token} (h : step d offset c rest state = .ok (next, tokens)) :
    run d template state offset (c :: rest) =
      (run d template next (offset + 1) rest).map (tokens ++ ·) := by
  simp only [run, h]

/-- What is read where a span or a comment reaches so many characters further, if it is closed. -/
def leave (d : Dialect) (template : String) (fault : Fault) (offset : Nat) (text : List Char) :
    Option Nat → Except Fault (List Token)
  | none => .error fault
  | some length => (run d template .code (offset + length) (text.drop length)).map
      ((text.take length).map .char ++ ·)

theorem leave_one (fault : Fault) (offset : Nat) (c : Char) (text : List Char) :
    leave d template fault offset (c :: text) (some 1) =
      (run d template .code (offset + 1) text).map ([.char c] ++ ·) := rfl

theorem leave_succ (fault : Fault) (offset : Nat) (c : Char) (text : List Char)
    (length : Option Nat) :
    leave d template fault offset (c :: text) (length.map (· + 1)) =
      (leave d template fault (offset + 1) text length).map ([.char c] ++ ·) := by
  cases length with
  | none => rfl
  | some n =>
    have shift : offset + 1 + n = offset + (n + 1) := by omega
    simp [leave, Except.map_map, shift, Function.comp_def]

theorem run_quoted (quote : Char) (opening offset : Nat) (text : List Char) :
    run d template (.quoted quote opening) offset text =
      leave d template (.openQuote quote opening template) offset text
        (Span.quotedTail quote (d.backslashActive quote) text) := by
  generalize active : d.backslashActive quote = backslash
  have two (c next : Char) (rest : List Char) (o : Nat)
      (first : step d o c (next :: rest) (.quoted quote opening)
        = .ok (.taken quote opening, [.char c]))
      (ih : run d template (.quoted quote opening) (o + 1 + 1) rest =
        leave d template (.openQuote quote opening template) (o + 1 + 1) rest
          (Span.quotedTail quote backslash rest)) :
      run d template (.quoted quote opening) o (c :: next :: rest) =
        leave d template (.openQuote quote opening template) o (c :: next :: rest)
          ((Span.quotedTail quote backslash rest).map (· + 2)) := by
    have second : step d (o + 1) next rest (.taken quote opening)
        = .ok (.quoted quote opening, [.char next]) := rfl
    rw [run_cons template first, run_cons template second, ih, ← leave_succ, ← leave_succ,
      Option.map_map]
    rfl
  fun_induction Span.quotedTail quote backslash text generalizing offset with
  | case1 => rfl
  | case2 c escaped => simp [run, step, active, escaped, finish, leave]
  | case3 escaped => simp [run, step, active, escaped, finish, leave]
  | case4 c escaped other => simp [run, step, active, escaped, other, finish, leave]
  | case5 c next rest escaped ih =>
    exact two c next rest offset (by simp [step, active, escaped]) (ih _)
  | case6 rest escaped ih =>
    exact two quote quote rest offset (by simp [step, active, escaped]) (ih _)
  | case7 next rest escaped single =>
    have last : step d offset quote (next :: rest) (.quoted quote opening)
        = .ok (.code, [.char quote]) := by
      simp [step, active, escaped, single]
    rw [run_cons template last, leave_one]
  | case8 c next rest escaped other ih =>
    have first : step d offset c (next :: rest) (.quoted quote opening)
        = .ok (.quoted quote opening, [.char c]) := by
      simp [step, active, escaped, other]
    rw [run_cons template first, ih, ← leave_succ]

theorem run_line (fault : Fault) (offset : Nat) (text : List Char) :
    run d template .line offset text =
      leave d template fault offset text (some (Span.lineTail text)) := by
  fun_induction Span.lineTail text generalizing offset with
  | case1 => rfl
  | case2 rest =>
    have last : step d offset '\n' rest .line = .ok (.code, [.char '\n']) := rfl
    rw [run_cons template last, leave_one]
  | case3 c rest other ih =>
    have first : step d offset c rest .line = .ok (.line, [.char c]) := by simp [step, other]
    rw [run_cons template first, ih, ← leave_succ, Option.map_some]

theorem run_block (opening offset : Nat) (text : List Char) :
    run d template (.block opening) offset text =
      leave d template (.openComment opening template) offset text (Span.blockTail text) := by
  fun_induction Span.blockTail text generalizing offset with
  | case1 => rfl
  | case2 c rest closes =>
    obtain ⟨more, rfl⟩ : ∃ more, rest = '/' :: more := by
      cases rest <;> simp_all
    have first : step d offset c ('/' :: more) (.block opening)
        = .ok (.closing opening, [.char c]) := by simp_all [step]
    have last : step d (offset + 1) '/' more (.closing opening) = .ok (.code, [.char '/']) := rfl
    rw [run_cons template first, run_cons template last,
      ← leave_one _ (.openComment opening template), ← leave_succ]
    rfl
  | case3 c rest other ih =>
    have first : step d offset c rest (.block opening) = .ok (.block opening, [.char c]) := by
      simp only [step, other]
      rfl
    rw [run_cons template first, ih, ← leave_succ]

theorem run_name (kind : Kind) (opening offset : Nat) (read : List Char) (c : Char)
    (rest : List Char) :
    run d template (.name kind opening read) offset (c :: rest) =
      (run d template .code (offset + 1 + (rest.takeWhile isNameChar).length)
        (rest.drop (rest.takeWhile isNameChar).length)).map
        ([.placeholder ⟨kind, some (String.ofList (read ++ c :: rest.takeWhile isNameChar)),
          opening⟩] ++ ·) := by
  induction rest generalizing offset read c with
  | nil => rfl
  | cons next rest ih =>
    by_cases more : isNameChar next
    · have first : step d offset c (next :: rest) (.name kind opening read)
          = .ok (.name kind opening (read ++ [c]), []) := by simp [step, more]
      have shift : offset + 1 + 1 + (rest.takeWhile isNameChar).length
          = offset + 1 + ((rest.takeWhile isNameChar).length + 1) := by omega
      rw [run_cons template first, ih]
      simp [Except.map_map, Function.comp_def, more, shift]
    · have last : step d offset c (next :: rest) (.name kind opening read)
          = .ok (.code, [.placeholder ⟨kind, some (String.ofList (read ++ [c])), opening⟩]) := by
        simp [step, more]
      rw [run_cons template last]
      simp [more]

/-- Behind a marker the lexer reads the letter of the kind and the longest name after it. -/
theorem run_sigil (kind : Kind) (opening offset : Nat) (letter : Char) (rest : List Char) :
    run d template (.sigil kind opening) offset (letter :: rest) =
      match nameAfter? rest with
      | none => (run d template .code (offset + 1) rest).map
          ([.placeholder ⟨kind, none, opening⟩] ++ ·)
      | some name => (run d template .code (offset + 1 + (name.length + 1))
          (rest.drop (name.length + 1))).map
          ([.placeholder ⟨kind, some (String.ofList name), opening⟩] ++ ·) := by
  by_cases follows : nameFollows rest
  · obtain ⟨c, more, rfl, start⟩ : ∃ c more, rest = ':' :: c :: more ∧ isNameStart c = true := by
      unfold nameFollows at follows
      split at follows
      · exact ⟨_, _, rfl, follows⟩
      · contradiction
    have first : step d offset letter (':' :: c :: more) (.sigil kind opening)
        = .ok (.colon kind opening, []) := by simp [step, follows]
    have second : step d (offset + 1) ':' (c :: more) (.colon kind opening)
        = .ok (.name kind opening [], []) := rfl
    have shift : offset + 1 + 1 + 1 + (more.takeWhile isNameChar).length
        = offset + 1 + ((more.takeWhile isNameChar).length + 1 + 1) := by omega
    rw [run_cons template first, run_cons template second, run_name]
    simp [nameAfter?, start, Except.map_map, Function.comp_def, shift]
  · have last : step d offset letter rest (.sigil kind opening)
        = .ok (.code, [.placeholder ⟨kind, none, opening⟩]) := by simp [step, follows]
    have absent : nameAfter? rest = none := by
      unfold nameFollows at follows
      unfold nameAfter?
      split <;> simp_all
    rw [run_cons template last, absent]

/-- What is read where a lexeme, or a flaw, stands at an offset. -/
def lexed (d : Dialect) (template : String) (offset : Nat) (c : Char) (rest : List Char) :
    Except Flaw Lexeme → Except Fault (List Token)
  | .error flaw => .error (flaw.fault template offset)
  | .ok (.text more) => (run d template .code (offset + more + 1) (rest.drop more)).map
      ((c :: rest.take more).map .char ++ ·)
  | .ok (.placeholder kind name more) =>
    (run d template .code (offset + more + 1) (rest.drop more)).map
      ([.placeholder ⟨kind, name, offset⟩] ++ ·)

/-- A character that opens a span together with the span. -/
theorem lexed_text (fault : Fault) (offset more : Nat) (c : Char) (rest : List Char) :
    lexed d template offset c rest (.ok (.text more)) =
      (leave d template fault (offset + 1) rest (some more)).map ([.char c] ++ ·) := by
  have shift : offset + 1 + more = offset + more + 1 := by omega
  simp [lexed, leave, Except.map_map, Function.comp_def, shift]

theorem run_code_marker (offset : Nat) (rest : List Char)
    (plain : d.quoteChars.contains marker = false) :
    run d template .code offset (marker :: rest) =
      lexed d template offset marker rest (Lexeme.afterMarker rest) := by
  cases rest with
  | nil =>
    have single : step d offset marker [] .code = .ok (.code, [.char marker]) := by
      simp only [step, inCode, plain]
      rfl
    exact run_cons template single
  | cons letter rest =>
    by_cases alpha : letter.isAlpha
    · cases known : Kind.ofSigil? letter with
      | none =>
        simp only [run, step, inCode, plain, alpha, known, Lexeme.afterMarker, lexed]
        rfl
      | some kind =>
        have first : step d offset marker (letter :: rest) .code
            = .ok (.sigil kind offset, []) := by
          simp only [step, inCode, plain, alpha, known]
          rfl
        rw [run_cons template first, run_sigil]
        cases named : nameAfter? rest with
        | none => simp [Lexeme.afterMarker, alpha, known, named, lexed, Except.map_map,
            Function.comp_def]
        | some name =>
          have shift : offset + 1 + 1 + (name.length + 1) = offset + (name.length + 2) + 1 := by
            omega
          simp [Lexeme.afterMarker, alpha, known, named, lexed, Except.map_map,
            Function.comp_def, shift]
    · have single : step d offset marker (letter :: rest) .code
          = .ok (.code, [.char marker]) := by
        simp only [step, inCode, plain, alpha]
        rfl
      rw [run_cons template single]
      simp [Lexeme.afterMarker, alpha, lexed]

theorem afterDash_eq (rest : List Char) :
    Lexeme.afterDash d rest =
      if opensLine d rest then .text (Span.lineTail rest) else .text 0 := by
  unfold Lexeme.afterDash opensLine
  split
  · rename_i more
    cases more with
    | nil => cases d.dashCommentNeedsSpace <;> simp [Span.lineTail]
    | cons next more =>
      cases d.dashCommentNeedsSpace <;> cases blank : Text.isBlank next <;>
        simp [Span.lineTail, blank]
  · split <;> simp_all

theorem run_code_slash (offset : Nat) (rest : List Char)
    (plain : d.quoteChars.contains '/' = false) :
    run d template .code offset ('/' :: rest) =
      lexed d template offset '/' rest (Lexeme.afterSlash rest) := by
  by_cases opens : rest.head? = some '*'
  · obtain ⟨more, rfl⟩ : ∃ more, rest = '*' :: more := by
      cases rest <;> simp_all
    have first : step d offset '/' ('*' :: more) .code = .ok (.opened offset, [.char '/']) := by
      simp only [step, inCode, plain]
      rfl
    have second : step d (offset + 1) '*' more (.opened offset)
        = .ok (.block offset, [.char '*']) := rfl
    rw [run_cons template first, run_cons template second, run_block, ← leave_succ]
    simp only [Lexeme.afterSlash]
    cases Span.blockTail more with
    | none => rfl
    | some length => exact (lexed_text template _ offset (length + 1) '/' _).symm
  · have first : step d offset '/' rest .code = .ok (.code, [.char '/']) := by
      simp only [step, inCode, plain, opens]
      rfl
    have alone : Lexeme.afterSlash rest = .ok (.text 0) := by
      unfold Lexeme.afterSlash
      split <;> simp_all
    rw [run_cons template first, alone]
    rfl

/-- In code the lexer reads one lexeme. -/
theorem run_code (offset : Nat) (c : Char) (rest : List Char) :
    run d template .code offset (c :: rest) =
      lexed d template offset c rest (Lexeme.next d c rest) := by
  have single (plain : step d offset c rest .code = .ok (.code, [.char c])) :
      run d template .code offset (c :: rest) =
        lexed d template offset c rest (.ok (.text 0)) := run_cons template plain
  have comment (opens : step d offset c rest .code = .ok (.line, [.char c])) :
      run d template .code offset (c :: rest) =
        lexed d template offset c rest (.ok (.text (Span.lineTail rest))) := by
    rw [run_cons template opens, run_line template (.openComment offset template),
      lexed_text template (.openComment offset template)]
  -- the cases are those of `Lexeme.next`, in its order
  unfold Lexeme.next
  by_cases quote : d.quoteChars.contains c
  · have first : step d offset c rest .code = .ok (.quoted c offset, [.char c]) := by
      simp only [step, inCode, quote, if_true]
    rw [run_cons template first, run_quoted, if_pos quote]
    cases Span.quotedTail c (d.backslashActive c) rest with
    | none => rfl
    | some length => exact (lexed_text template _ offset length c rest).symm
  rw [if_neg quote]
  by_cases mark : c = marker
  · subst mark
    rw [if_pos rfl, run_code_marker template offset rest (by simpa using quote)]
  rw [if_neg mark]
  by_cases hash : c = '#' && d.hashComments
  · rw [if_pos hash]
    exact comment (by simp only [step, inCode, quote, mark, hash]; rfl)
  rw [if_neg hash]
  by_cases dash : c = '-'
  · subst dash
    rw [if_pos rfl, afterDash_eq]
    by_cases opens : opensLine d rest
    · rw [if_pos opens]
      exact comment (by simp only [step, inCode, quote, mark, hash, opens]; rfl)
    · rw [if_neg opens]
      exact single (by simp only [step, inCode, quote, mark, hash, opens]; rfl)
  rw [if_neg dash]
  by_cases slash : c = '/'
  · subst slash
    rw [if_pos rfl]
    exact run_code_slash template offset rest (by simpa using quote)
  · rw [if_neg slash]
    exact single (by simp only [step, inCode, quote, mark, hash, dash, slash]; rfl)

end Laws

end Lexer

@[simp] theorem tokens_literalCons (text : List Char) (segments : List Segment) :
    (literalCons text segments).flatMap Segment.tokens =
      text.map .char ++ segments.flatMap Segment.tokens := by
  cases segments with
  | nil => rfl
  | cons segment segments => cases segment <;> simp [literalCons, Segment.tokens]

/-- The segments of a text in code are what the lexer reads there. -/
theorem segmentsFrom_eq_run (d : Dialect) (template : String) (offset : Nat) (text : List Char) :
    (segmentsFrom d template offset text).map (·.flatMap Segment.tokens) =
      Lexer.run d template .code offset text := by
  fun_induction segmentsFrom d template offset text with
  | case1 => rfl
  | case2 offset c rest flaw read => rw [Lexer.run_code, read]; rfl
  | case3 offset c rest more read ih =>
    rw [Lexer.run_code, read]
    simp [Lexer.lexed, ← ih, Except.map_map, Function.comp_def]
  | case4 offset c rest kind name more read ih =>
    rw [Lexer.run_code, read]
    simp [Lexer.lexed, ← ih, Except.map_map, Function.comp_def, Segment.tokens]

/-- Cutting a template into segments gives what the lexer reads: the same characters of literal
text, the same placeholders at the same offsets with the same kinds and names, and the same fault
where there is one. -/
theorem segments_eq_lexer (d : Dialect) (template : String) :
    (segments d template).map (·.flatMap Segment.tokens) =
      Lexer.run d template .code 0 template.toList :=
  segmentsFrom_eq_run d template 0 template.toList

-- The letters of all kinds, and names: what does not begin with a letter or an underscore is none,
-- and what is no letter, underscore or digit ends one.
example : segments .mysql "?s?i?n?a?u?m?k?p ??s:_a1-?i:9?n:é?k:" =
    .ok [.placeholder ⟨.string, none, 0⟩, .placeholder ⟨.integer, none, 2⟩,
      .placeholder ⟨.identifier, none, 4⟩, .placeholder ⟨.inList, none, 6⟩,
      .placeholder ⟨.setClause, none, 8⟩, .placeholder ⟨.multiRow, none, 10⟩,
      .placeholder ⟨.keyValueRows, none, 12⟩, .placeholder ⟨.raw, none, 14⟩,
      .literal [' ', '?'], .placeholder ⟨.string, some "_a1", 18⟩, .literal ['-'],
      .placeholder ⟨.integer, none, 25⟩, .literal [':', '9'], .placeholder ⟨.identifier, none, 29⟩,
      .literal [':', 'é'], .placeholder ⟨.keyValueRows, none, 33⟩, .literal [':']] := by
  decide +kernel

end SafeSql.Template
