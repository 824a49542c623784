import SafeSql.Text.Hex
import SafeSql.Value.Mapping

/-!
# Reading JSON

JSON text as a value: an object is a mapping in which the last of equal keys counts, a number
with a fraction or an exponent is a binary one. `NaN` and the infinities are read too. A fault is
located in the text. Arrays and objects are nested as deep as one likes. Text is made of characters,
so that half of a pair by itself is refused at once, and not only when it is written.

## Main definitions

* `Json.Fault`, `Json.Fault.message` — why a text cannot be read, in words.
* `Json.Text.value`, `Json.Text.string`, `Json.Text.number` — the parts of the grammar.
* `Json.read` — the value of a text.
-/

namespace SafeSql.Json

inductive Problem
  | byteOrderMark
  | value
  | comma
  | colon
  | propertyName
  | openString
  | control
  | escape
  | unicodeEscape
  | extra
  deriving DecidableEq, Repr

def Problem.message : Problem → String
  | .byteOrderMark => "Unexpected UTF-8 BOM (decode using utf-8-sig)"
  | .value => "Expecting value"
  | .comma => "Expecting ',' delimiter"
  | .colon => "Expecting ':' delimiter"
  | .propertyName => "Expecting property name enclosed in double quotes"
  | .openString => "Unterminated string starting at"
  | .control => "Invalid control character at"
  | .escape => "Invalid \\escape"
  | .unicodeEscape => "Invalid \\uXXXX escape"
  | .extra => "Extra data"

inductive Form
  | array
  | object
  deriving DecidableEq, Repr

def Form.label : Form → String
  | .array => "array"
  | .object => "object"

inductive Fault
  | malformed (problem : Problem) (position : Nat)
  | tooManyDigits (digits : Nat)
  /-- Half of a pair stands by itself. -/
  | loneHalf (code : Nat)
  deriving DecidableEq, Repr

def lineColumn (source : List Char) (position : Nat) : Nat × Nat :=
  let before := source.take position
  (before.count '\n' + 1, (before.reverse.takeWhile (· ≠ '\n')).length + 1)

def located (source : List Char) (problem : Problem) (position : Nat) : String :=
  let (line, column) := lineColumn source position
  problem.message ++ ": line " ++ toString line ++ " column " ++ toString column ++ " (char "
    ++ toString position ++ ")"

structure Text where
  position : Nat
  rest : List Char

namespace Text

def skip (text : Text) (count : Nat) : Text :=
  ⟨text.position + count, text.rest.drop count⟩

def isSpace (c : Char) : Bool :=
  c = ' ' || c = '\t' || c = '\n' || c = '\r'

def skipSpace (text : Text) : Text :=
  text.skip (text.rest.takeWhile isSpace).length

def hexQuad? (chars : List Char) : Option Nat :=
  match chars with
  | a :: b :: c :: d :: _ => do
    let a ← Text.Hex.value? a
    let b ← Text.Hex.value? b
    let c ← Text.Hex.value? c
    let d ← Text.Hex.value? d
    pure (((a * 16 + b) * 16 + c) * 16 + d)
  | _ => none

/-- Whether the code is the first half of a pair. -/
def isHighHalf (code : Nat) : Bool :=
  0xd800 ≤ code && code ≤ 0xdbff

def isLowHalf (code : Nat) : Bool :=
  0xdc00 ≤ code && code ≤ 0xdfff

/-- The character of a code; half of a pair by itself is no character. -/
def charOfCode (code : Nat) : Except Fault Char :=
  if isHighHalf code || isLowHalf code then .error (.loneHalf code) else .ok (Char.ofNat code)

/-- The character that the second half of a pair completes, when `\u` and four digits follow
that are such a half and some character comes behind. -/
def secondHalf? (position code : Nat) (chars : List Char) : Except Fault (Option Char) :=
  match chars with
  | '\\' :: 'u' :: digits =>
    if (digits.take 5).length < 5 then .ok none
    else
      match hexQuad? digits with
      | none => .error (.malformed .unicodeEscape (position + 1))
      | some low =>
        if isLowHalf low then
          .ok (some (Char.ofNat (0x10000 + (code - 0xd800) * 0x400 + (low - 0xdc00))))
        else .ok none
  | _ => .ok none

/-- The character of an escape with four digits, which stand at `position`, and the number of
characters that it takes. Some character has to come behind. -/
def unicodeEscape (position : Nat) (digits : List Char) : Except Fault (Char × Nat) :=
  if (digits.take 5).length < 5 then .error (.malformed .unicodeEscape (position - 1))
  else
    match hexQuad? digits with
    | none => .error (.malformed .unicodeEscape (position - 1))
    | some code =>
      if isHighHalf code then
        match secondHalf? (position + 4) code (digits.drop 4) with
        | .error fault => .error fault
        | .ok (some c) => .ok (c, 10)
        | .ok none => (charOfCode code).map fun c => (c, 4)
      else (charOfCode code).map fun c => (c, 4)

def simpleEscape? (c : Char) : Option Char :=
  [('"', '"'), ('\\', '\\'), ('/', '/'), ('b', '\x08'), ('f', '\x0c'), ('n', '\n'), ('r', '\r'),
    ('t', '\t')].lookup c

/-- The character at `position` of a string, whose quote opened at `start`, and how many
characters behind the first one belong to it. -/
def stringChar (start position : Nat) (c : Char) (rest : List Char) :
    Except Fault (Char × Nat) :=
  if c = '\\' then
    match rest with
    | [] => .error (.malformed .openString start)
    | 'u' :: digits => (unicodeEscape (position + 2) digits).map fun (c, more) => (c, more + 1)
    | letter :: _ =>
      match simpleEscape? letter with
      | some c => .ok (c, 1)
      | none => .error (.malformed .escape position)
  else if c.toNat < 0x20 then .error (.malformed .control position)
  else .ok (c, 0)

/-- The characters of a string up to its closing quote, and the text behind it. -/
def stringChars (start position : Nat) : List Char → Except Fault (List Char × Text)
  | [] => .error (.malformed .openString start)
  | c :: rest =>
    if c = '"' then .ok ([], ⟨position + 1, rest⟩)
    else
      match stringChar start position c rest with
      | .error fault => .error fault
      | .ok (char, more) =>
        (stringChars start (position + more + 1) (rest.drop more)).map fun (chars, text) =>
          (char :: chars, text)
termination_by chars => chars.length
decreasing_by simp only [List.length_cons, List.length_drop]; omega

def string (text : Text) : Except Fault (List Char × Text) :=
  stringChars (text.position - 1) text.position text.rest

def digits (chars : List Char) : List Char :=
  chars.takeWhile Char.isDigit

/-- The whole part of a number: a zero, or digits that begin with another one. -/
def wholePart (chars : List Char) : List Char :=
  match chars with
  | '0' :: _ => ['0']
  | _ => digits chars

/-- The fraction at the front: a point and at least one digit. -/
def fractionPart (chars : List Char) : List Char :=
  match chars with
  | '.' :: rest => if (digits rest).isEmpty then [] else '.' :: digits rest
  | _ => []

/-- The exponent at the front: a letter, perhaps a sign, and at least one digit. -/
def exponentPart (chars : List Char) : List Char :=
  match chars with
  | mark :: rest =>
    if mark = 'e' || mark = 'E' then
      let sign := rest.take 1 |>.filter fun c => c = '+' || c = '-'
      let power := digits (rest.drop sign.length)
      if power.isEmpty then [] else mark :: sign ++ power
    else []
  | [] => []

def number (text : Text) : Except Fault (Value × Text) :=
  let sign := text.rest.take 1 |>.filter (· = '-')
  let unsigned := text.rest.drop sign.length
  let whole := wholePart unsigned
  if whole.isEmpty then .error (.malformed .value text.position)
  else
    let fraction := fractionPart (unsigned.drop whole.length)
    let exponent := exponentPart (unsigned.drop (whole.length + fraction.length))
    let token := sign ++ whole ++ fraction ++ exponent
    let behind := text.skip token.length
    if fraction.isEmpty && exponent.isEmpty then
      if Whole.maxDigits < whole.length then .error (.tooManyDigits whole.length)
      else
        let size : Int := Whole.ofDigits (whole.filterMap Text.Digit.value?)
        .ok (.int (if sign.isEmpty then size else -size), behind)
    else .ok (.float ((Binary64.read? token).getD .nan), behind)

def words : List (List Char × Value) :=
  [("null".toList, .null), ("true".toList, .bool true), ("false".toList, .bool false),
    ("NaN".toList, .float .nan), ("Infinity".toList, .float (.infinite false)),
    ("-Infinity".toList, .float (.infinite true))]

def atom (text : Text) : Except Fault (Value × Text) :=
  match words.find? fun word => word.1.isPrefixOf text.rest with
  | some (word, value) => .ok (value, text.skip word.length)
  | none => number text

mutual

/-- The value at the front of the text. Of two steps at least one takes a character, so that twice
as much fuel is enough as there are characters. -/
def value : Nat → Text → Except Fault (Value × Text)
  | 0, text => .error (.malformed .value text.position)
  | fuel + 1, text =>
    match text.rest with
    | [] => .error (.malformed .value text.position)
    | '"' :: _ =>
      (string (text.skip 1)).map fun (chars, text) => (.text (String.ofList chars), text)
    | '[' :: _ =>
      let inside := (text.skip 1).skipSpace
      if inside.rest.head? = some ']' then .ok (.list [], inside.skip 1)
      else (items fuel inside).map fun (items, text) => (.list items, text)
    | '\x7b' :: _ =>
      let inside := (text.skip 1).skipSpace
      if inside.rest.head? = some '\x7d' then .ok (.map [] none, inside.skip 1)
      else
        (entries fuel inside).map fun (entries, text) =>
          (.map (Mapping.ofList entries) none, text)
    | _ => atom text

/-- The elements of an array up to its closing bracket. -/
def items : Nat → Text → Except Fault (List Value × Text)
  | 0, text => .error (.malformed .value text.position)
  | fuel + 1, text => do
    let (item, behind) ← value fuel text
    let behind := behind.skipSpace
    match behind.rest with
    | ']' :: _ => pure ([item], behind.skip 1)
    | ',' :: _ =>
      let (items, text) ← items fuel (behind.skip 1).skipSpace
      pure (item :: items, text)
    | _ => throw (.malformed .comma behind.position)

/-- The entries of an object up to its closing brace. -/
def entries : Nat → Text → Except Fault (List (Value × Value) × Text)
  | 0, text => .error (.malformed .value text.position)
  | fuel + 1, text =>
    match text.rest with
    | '"' :: _ => do
      let (name, behind) ← string (text.skip 1)
      let behind := behind.skipSpace
      if behind.rest.head? ≠ some ':' then throw (.malformed .colon behind.position)
      let (content, behind) ← value fuel (behind.skip 1).skipSpace
      let behind := behind.skipSpace
      let entry := (Value.text (String.ofList name), content)
      match behind.rest with
      | '\x7d' :: _ => pure ([entry], behind.skip 1)
      | ',' :: _ =>
        let (entries, text) ← entries fuel (behind.skip 1).skipSpace
        pure (entry :: entries, text)
      | _ => throw (.malformed .comma behind.position)
    | _ => throw (.malformed .propertyName text.position)

end

end Text

/-- The value of a text: one value, with blanks around it. -/
def read (source : List Char) : Except Fault Value := do
  if source.head? = some '\ufeff' then throw (.malformed .byteOrderMark 0)
  let start := (⟨0, source⟩ : Text).skipSpace
  let (value, behind) ← Text.value (2 * source.length + 1) start
  let behind := behind.skipSpace
  if behind.rest.isEmpty then pure value else throw (.malformed .extra behind.position)

end SafeSql.Json
