import SafeSql.Dialect
import SafeSql.Template.Basic
import SafeSql.Template.Span
import SafeSql.Text.Blank

/-!
# Reading a template

A template is read from left to right, one lexeme at a time: a placeholder, or a stretch of
literal text, which is a quoted span, a comment or a single character. Neighbouring stretches of
literal text form one segment.

## Main definitions

* `Lexeme`, `Lexeme.next` — what stands at the front of a text.
* `segments` — the pieces of a template, or the first fault in it.
-/

namespace SafeSql.Template

/-- What stands at the front of a text, with the number of characters behind the first one that
belong to it. -/
inductive Lexeme
  | text (more : Nat)
  | placeholder (kind : Kind) (name : Option String) (more : Nat)
  deriving DecidableEq, Repr

inductive Flaw
  | openQuote (quote : Char)
  | openComment
  | unknownKind (letter : Char)
  deriving DecidableEq, Repr

def Flaw.fault (template : String) (offset : Nat) : Flaw → Fault
  | .openQuote quote => .openQuote quote offset template
  | .openComment => .openComment offset template
  | .unknownKind letter => .unknownKind letter offset template

def isNameStart (c : Char) : Bool :=
  c.isAlpha || c = '_'

def isNameChar (c : Char) : Bool :=
  isNameStart c || c.isDigit

/-- The name of a placeholder behind its letter: a colon and the longest name after it. -/
def nameAfter? : List Char → Option (List Char)
  | ':' :: c :: rest => if isNameStart c then some (c :: rest.takeWhile isNameChar) else none
  | _ => none

namespace Lexeme

def afterMarker : List Char → Except Flaw Lexeme
  | [] => .ok (.text 0)
  | letter :: rest =>
    if letter.isAlpha then
      match Kind.ofSigil? letter with
      | none => .error (.unknownKind letter)
      | some kind =>
        match nameAfter? rest with
        | none => .ok (.placeholder kind none 1)
        | some name => .ok (.placeholder kind (some (String.ofList name)) (name.length + 2))
    else .ok (.text 0)

/-- What a dash opens, from the text behind it: a comment when another dash follows, and behind
that a blank or the end where the dialect asks for it. -/
def afterDash (d : Dialect) : List Char → Lexeme
  | '-' :: rest =>
    if d.dashCommentNeedsSpace && !(rest.head?.map Text.isBlank).getD true then .text 0
    else .text (Span.lineTail rest + 1)
  | _ => .text 0

/-- What a slash opens, from the text behind it: a comment when an asterisk follows. -/
def afterSlash : List Char → Except Flaw Lexeme
  | '*' :: rest =>
    match Span.blockTail rest with
    | none => .error .openComment
    | some length => .ok (.text (length + 1))
  | _ => .ok (.text 0)

/-- What stands at the front of the text `c :: rest`. -/
def next (d : Dialect) (c : Char) (rest : List Char) : Except Flaw Lexeme :=
  if d.quoteChars.contains c then
    match Span.quotedTail c (d.backslashActive c) rest with
    | none => .error (.openQuote c)
    | some length => .ok (.text length)
  else if c = marker then afterMarker rest
  else if c = '#' && d.hashComments then .ok (.text (Span.lineTail rest))
  else if c = '-' then .ok (afterDash d rest)
  else if c = '/' then afterSlash rest
  else .ok (.text 0)

end Lexeme

def literalCons (text : List Char) : List Segment → List Segment
  | .literal more :: segments => .literal (text ++ more) :: segments
  | segments => .literal text :: segments

def segmentsFrom (d : Dialect) (template : String) (offset : Nat) :
    List Char → Except Fault (List Segment)
  | [] => .ok []
  | c :: rest =>
    match Lexeme.next d c rest with
    | .error flaw => .error (flaw.fault template offset)
    | .ok (.text more) =>
      (segmentsFrom d template (offset + more + 1) (rest.drop more)).map
        (literalCons (c :: rest.take more))
    | .ok (.placeholder kind name more) =>
      (segmentsFrom d template (offset + more + 1) (rest.drop more)).map
        (.placeholder ⟨kind, name, offset⟩ :: ·)
termination_by text => text.length
decreasing_by all_goals simp only [List.length_cons, List.length_drop]; omega

/-- The pieces of a template, or the first fault in it. -/
def segments (d : Dialect) (template : String) : Except Fault (List Segment) :=
  segmentsFrom d template 0 template.toList

end SafeSql.Template
