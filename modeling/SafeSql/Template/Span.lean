/-!
# Spans

Where a quoted span or a comment ends. Each function looks at the text behind the opening and
answers how many characters belong to the span from there on, its end included.

## Main definitions

* `Span.quotedTail` — up to the closing quote: a doubled quote and, where a backslash is active,
  the character behind a backslash stay inside.
* `Span.lineTail` — up to the end of the line.
* `Span.blockTail` — up to the end of a block comment.
-/

namespace SafeSql.Template.Span

/-- The length of a quoted span behind its opening quote, if it is closed. -/
def quotedTail (quote : Char) (backslash : Bool) : List Char → Option Nat
  | [] => none
  | [c] => if backslash && c = '\\' then none else if c = quote then some 1 else none
  | c :: next :: rest =>
    if backslash && c = '\\' then (quotedTail quote backslash rest).map (· + 2)
    else if c = quote then
      if next = quote then (quotedTail quote backslash rest).map (· + 2) else some 1
    else (quotedTail quote backslash (next :: rest)).map (· + 1)

def lineTail : List Char → Nat
  | [] => 0
  | c :: rest => if c = '\n' then 1 else lineTail rest + 1

/-- The length of a block comment behind its opening, if it is closed. -/
def blockTail : List Char → Option Nat
  | [] => none
  | c :: rest =>
    if c = '*' && rest.head? = some '/' then some 2 else (blockTail rest).map (· + 1)

end SafeSql.Template.Span
