import SafeSql.Text.Blank
import SafeSql.Text.Digit
import SafeSql.Text.WordChar

/-!
# Wrapped lines

A text is broken into lines of a width. A line ends between two words, behind a hyphen inside a
word, and around a dash between words; a word that fits on no line is cut.

## Main definitions

* `Wrap.chunks` — the pieces between which a line can end.
* `Wrap.lines` — the lines of a text.
-/

namespace SafeSql.Text.Wrap

/-- Whether the character is a letter: any character of a word that is no decimal digit. -/
def isLetter (c : Char) : Bool :=
  isWordChar c && !isDigit c

def isBeforeDash (c : Char) : Bool :=
  isWordChar c || ['!', '"', '\'', '&', '.', ',', '?'].contains c

/-- The length of a dash at the front: two or more hyphens with a word behind. -/
def dashLength (text : List Char) : Nat :=
  let count := (text.takeWhile (· = '-')).length
  if 2 ≤ count && (((text.drop count).head?.map isWordChar).getD false) then count else 0

/-- Whether a dash at the front follows a word, whose last characters are given backwards. -/
def opensDash (before text : List Char) : Bool :=
  (before.head?.map isBeforeDash).getD false && dashLength text ≠ 0

/-- Whether two letters stand at the front, perhaps with a hyphen between them. A word can be
broken behind a hyphen when this holds forwards from there and backwards from before it. -/
def letterPair : List Char → Bool
  | a :: b :: rest =>
    isLetter a && (isLetter b || (b = '-' && (rest.head?.map isLetter).getD false))
  | _ => false

/-- How many further characters belong to a piece, of which the characters so far are given
backwards. -/
def pieceTail (before : List Char) : List Char → Nat
  | [] => 0
  | c :: rest =>
    if c = '-' && letterPair before && letterPair rest then 1
    else if c = ' ' || opensDash before (c :: rest) then 0
    else pieceTail (c :: before) rest + 1

/-- How many characters behind the first one belong to the piece at the front. -/
def pieceMore (before : List Char) (c : Char) (rest : List Char) : Nat :=
  if c = ' ' then (rest.takeWhile (· = ' ')).length
  else if opensDash before (c :: rest) then dashLength (c :: rest) - 1
  else pieceTail (c :: before) rest

/-- The pieces between which a line can end; blanks are pieces of their own. -/
def chunksFrom (before : List Char) : List Char → List (List Char)
  | [] => []
  | c :: rest =>
    let more := pieceMore before c rest
    let piece := c :: rest.take more
    piece :: chunksFrom (piece.reverse ++ before) (rest.drop more)
termination_by text => text.length
decreasing_by simp only [List.length_cons, List.length_drop]; omega

def chunks (text : List Char) : List (List Char) :=
  chunksFrom [] text

/-- Whether a piece is blank. A blank of another kind than the plain space breaks no line, but a
piece of such blanks is dropped at the ends of lines all the same. -/
def isGap (chunk : List Char) : Bool :=
  chunk.all isBlank

/-- Where to cut a piece that fits on no line: behind its last hyphen that fits, if something
else stands before that. -/
def cutLength (room : Nat) (chunk : List Char) : Nat :=
  let head := (chunk.take room).reverse.dropWhile (· ≠ '-')
  match head with
  | _ :: before => if before.any (· ≠ '-') then head.length else room
  | [] => room

/-- The pieces that fit into a line in which some room is left, and the others. -/
def takeLine (room : Nat) : List (List Char) → List (List Char) × List (List Char)
  | [] => ([], [])
  | chunk :: rest =>
    if chunk.length ≤ room then
      let (line, others) := takeLine (room - chunk.length) rest
      (chunk :: line, others)
    else ([], chunk :: rest)

def dropGap (line : List (List Char)) : List (List Char) :=
  match line.getLast? with
  | some chunk => if isGap chunk then line.dropLast else line
  | none => line

def nextLine (width : Nat) (pieces : List (List Char)) : List (List Char) × List (List Char) :=
  let (line, others) := takeLine width pieces
  match others with
  | chunk :: rest =>
    if width < chunk.length then
      let cut := cutLength (width - line.flatten.length) chunk
      (line ++ [chunk.take cut], chunk.drop cut :: rest)
    else (line, others)
  | [] => (line, [])

/-- The lines that pieces make, at most as many as there is fuel. -/
def fill (width : Nat) : Nat → List (List Char) → List (List Char)
  | 0, _ => []
  | _ + 1, [] => []
  | fuel + 1, pieces =>
    let (line, others) := nextLine width pieces
    let others :=
      match others with
      | chunk :: rest => if isGap chunk then rest else others
      | [] => []
    let text := (dropGap line).flatten
    if text.isEmpty then fill width fuel others else text :: fill width fuel others

/-- The lines of a text of single blanks, none wider than the width. -/
def lines (width : Nat) (text : List Char) : List (List Char) :=
  fill width (text.length + 1) (chunks text)

end SafeSql.Text.Wrap
