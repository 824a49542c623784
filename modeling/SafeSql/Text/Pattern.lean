import SafeSql.Text.Quoted

/-!
# Patterns

A pattern is a text with directives, each of which is replaced by an operand: `%(name)s` stands
for the operand with that name, `%%` for a percent sign. Between the percent sign and the letter
that says how the operand is written stand flags, a width and a precision, each if it is wanted.
A directive without a name stands for the record of all operands, which can be used once. There is
memory for every width.

## Main definitions

* `Pattern.Operand` — what can be put into a pattern.
* `Pattern.Directive` — how an operand is put in.
* `Pattern.Fault`, `Pattern.Fault.message` — why a pattern cannot be filled in, in words.
* `Pattern.expand` — a pattern with its operands put in.
-/

namespace SafeSql.Text.Pattern

inductive Operand
  | text (content : List Char)
  | texts (items : List (List Char))
  | flag (value : Bool)
  | missing
  /-- An object without a text of its own, of a type in some module. -/
  | object (moduleName typeName : String)
  | record (fields : List (String × Operand))

def Operand.typeName : Operand → String
  | .text _ => "str"
  | .texts _ => "list"
  | .flag _ => "bool"
  | .missing => "NoneType"
  | .object _ typeName => typeName
  | .record _ => "dict"

inductive Fault
  | openName
  | openDirective
  | widthTooBig
  | precisionTooBig
  | precisionTooLarge
  /-- No operand is written in the way of this letter, which stands at an index. -/
  | unknownLetter (letter : Char) (index : Nat)
  | unknownName (name : List Char)
  | usedUp
  /-- A width or a precision is taken from an operand that is no whole number. -/
  | sizeNotWhole
  | notReal (letter : Char) (typeName : String)
  | notWhole (letter : Char) (typeName : String)
  | notFloat (typeName : String)
  | notCharacter
  deriving DecidableEq, Repr

def Fault.message : Fault → String
  | .openName => "incomplete format key"
  | .openDirective => "incomplete format"
  | .widthTooBig => "width too big"
  | .precisionTooBig => "precision too big"
  | .precisionTooLarge => "precision too large"
  | .unknownLetter letter index =>
    let shown := if 31 ≤ letter.toNat && letter.toNat ≤ 126 then letter else '?'
    "unsupported format character '" ++ String.ofList [shown] ++ "' (0x"
      ++ String.ofList (Hex.ofNat 1 letter.toNat) ++ ") at index " ++ toString index
  | .unknownName name => String.ofList (Quoted.ofText name)
  | .usedUp => "not enough arguments for format string"
  | .sizeNotWhole => "* wants int"
  | .notReal letter typeName =>
    "%" ++ String.ofList [letter] ++ " format: a real number is required, not " ++ typeName
  | .notWhole letter typeName =>
    "%" ++ String.ofList [letter] ++ " format: an integer is required, not " ++ typeName
  | .notFloat typeName => "must be real number, not " ++ typeName
  | .notCharacter => "%c requires int or char"

def Fault.isMalformed : Fault → Bool
  | .openName | .openDirective | .widthTooBig | .precisionTooBig | .unknownLetter .. => true
  | _ => false

/-! ## Operands as text -/

mutual

def quoted : Operand → List Char
  | .text content => Quoted.ofText content
  | .texts items => ['['] ++ [',', ' '].intercalate (items.map Quoted.ofText) ++ [']']
  | .flag value => if value then "True".toList else "False".toList
  | .missing => "None".toList
  | .object moduleName typeName =>
    "<".toList ++ moduleName.toList ++ ['.'] ++ typeName.toList
      ++ " object at 0x7f0000000000>".toList
  | .record fields => ['\x7b'] ++ [',', ' '].intercalate (quotedFields fields) ++ ['\x7d']

def quotedFields : List (String × Operand) → List (List Char)
  | [] => []
  | (name, operand) :: rest =>
    (Quoted.ofText name.toList ++ [':', ' '] ++ quoted operand) :: quotedFields rest

end

def plain : Operand → List Char
  | .text content => content
  | operand => quoted operand

def asciiChar (c : Char) : List Char :=
  if c.toNat < 0x80 then [c]
  else if c.toNat < 0x100 then ['\\', 'x'] ++ Hex.ofNat 2 c.toNat
  else if c.toNat < 0x10000 then ['\\', 'u'] ++ Hex.ofNat 4 c.toNat
  else ['\\', 'U'] ++ Hex.ofNat 8 c.toNat

/-! ## Directives -/

structure Directive where
  left : Bool
  signed : Bool
  spaced : Bool
  marked : Bool
  zeros : Bool
  width : Option Nat
  precision : Option Nat
  deriving DecidableEq, Repr

namespace Directive

def simple : Directive :=
  ⟨false, false, false, false, false, none, none⟩

/-- The directive with a flag set; nothing when the character is no flag. -/
def withFlag? (directive : Directive) (flag : Char) : Option Directive :=
  match flag with
  | '-' => some { directive with left := true }
  | '+' => some { directive with signed := true }
  | ' ' => some { directive with spaced := true }
  | '#' => some { directive with marked := true }
  | '0' => some { directive with zeros := true }
  | _ => none

/-- A head and a body, padded to the width: with zeros between the two when they are wanted, with
blanks before or behind them otherwise. -/
def pad (directive : Directive) (zeros : Bool) (head body : List Char) : List Char :=
  let missing := directive.width.getD 0 - (head.length + body.length)
  if directive.left then head ++ body ++ List.replicate missing ' '
  else if zeros then head ++ List.replicate missing '0' ++ body
  else List.replicate missing ' ' ++ head ++ body

/-- A text of which the precision says how many characters are taken. -/
def ofText (directive : Directive) (text : List Char) : List Char :=
  let taken :=
    match directive.precision with
    | none => text
    | some length => text.take length
  directive.pad false [] taken

def sign (directive : Directive) : List Char :=
  if directive.signed then ['+'] else if directive.spaced then [' '] else []

def ofNumber (directive : Directive) (mark body : List Char) : List Char :=
  directive.pad directive.zeros (directive.sign ++ mark) body

/-- A whole number of one digit, with as many digits as the precision says. -/
def ofDigit (directive : Directive) (mark : List Char) (digit : Char) : List Char :=
  let length := directive.precision.getD 1
  directive.ofNumber (if directive.marked then mark else [])
    (List.replicate (length - 1) '0' ++ [digit])

/-- A digit with places behind the point, which is left out before none unless it is kept. -/
def places (directive : Directive) (digit : Char) (count : Nat) : List Char :=
  if count = 0 && !directive.marked then [digit]
  else [digit, '.'] ++ List.replicate count '0'

def defaultPlaces : Nat := 6

/-- A digit as a binary number: with the places of the precision, with an exponent behind them,
or in as few characters as there are. -/
def ofFloat (directive : Directive) (letter digit : Char) : List Char :=
  let count := directive.precision.getD defaultPlaces
  let body :=
    if letter = 'f' || letter = 'F' then directive.places digit count
    else if letter = 'e' || letter = 'E' then
      directive.places digit count ++ [letter, '+', '0', '0']
    else directive.places digit (if directive.marked then count - 1 else 0)
  directive.ofNumber [] body

/-- The operand in the way of the letter, which stands at the index. -/
def write (directive : Directive) (letter : Char) (index : Nat) (operand : Operand) :
    Except Fault (List Char) :=
  let digit? : Option Char :=
    match operand with
    | .flag value => some (if value then '1' else '0')
    | _ => none
  if letter = 's' then .ok (directive.ofText (plain operand))
  else if letter = 'r' then .ok (directive.ofText (quoted operand))
  else if letter = 'a' then .ok (directive.ofText ((quoted operand).flatMap asciiChar))
  else if ['d', 'i', 'u', 'o', 'x', 'X'].contains letter then
    match digit? with
    | some digit =>
      if 2147483644 < directive.precision.getD 0 then .error .precisionTooLarge
      else
        .ok (directive.ofDigit (if ['d', 'i', 'u'].contains letter then [] else ['0', letter]) digit)
    | none =>
      if ['d', 'i', 'u'].contains letter then .error (.notReal letter operand.typeName)
      else .error (.notWhole letter operand.typeName)
  else if ['e', 'E', 'f', 'F', 'g', 'G'].contains letter then
    match digit? with
    | some digit => .ok (directive.ofFloat letter digit)
    | none => .error (.notFloat operand.typeName)
  else if letter = 'c' then
    match operand with
    | .text [c] => .ok (directive.pad false [] [c])
    | .flag value => .ok (directive.pad false [] [if value then '\x01' else '\x00'])
    | _ => .error .notCharacter
  else .error (.unknownLetter letter index)

end Directive

/-! ## Reading a pattern -/

/-- A pattern while it is filled in: what is left of it, and the operand that the next directive
stands for unless it has a name. -/
structure Reading where
  rest : List Char
  operand : Option Operand

abbrev Step := StateT Reading (Except Fault)

namespace Step

def next : Step Char := do
  let reading ← get
  match reading.rest with
  | [] => throw .openDirective
  | c :: rest =>
    set { reading with rest := rest }
    pure c

def accept (chars : List Char) : Step Bool := do
  let reading ← get
  match reading.rest with
  | c :: rest =>
    if chars.contains c then
      set { reading with rest := rest }
      pure true
    else pure false
  | [] => throw .openDirective

def operand : Step Operand := do
  let reading ← get
  match reading.operand with
  | none => throw .usedUp
  | some operand =>
    set { reading with operand := none }
    pure operand

/-- The text up to the parenthesis that closes the name, inside of which parentheses can be
nested, and the text behind it. -/
def splitName (depth : Nat) : List Char → Option (List Char × List Char)
  | [] => none
  | c :: rest =>
    if c = ')' && depth = 0 then some ([], rest)
    else
      let depth := if c = '(' then depth + 1 else if c = ')' then depth - 1 else depth
      (splitName depth rest).map fun (name, rest) => (c :: name, rest)

def name (fields : List (String × Operand)) : Step Unit := do
  if ← accept ['('] then
    match splitName 0 (← get).rest with
    | none => throw .openName
    | some (name, rest) =>
      match fields.lookup (String.ofList name) with
      | none => throw (.unknownName name)
      | some operand => set (Reading.mk rest (some operand))

def splitFlags (directive : Directive) : List Char → Directive × List Char
  | [] => (directive, [])
  | c :: rest =>
    match directive.withFlag? c with
    | some directive => splitFlags directive rest
    | none => (directive, c :: rest)

def flags : Step Directive := do
  let reading ← get
  let (directive, rest) := splitFlags Directive.simple reading.rest
  set { reading with rest := rest }
  pure directive

def widthLimit : Nat := 9223372036854775807

def precisionLimit : Nat := 2147483647

/-- A size: the number at the front, or an operand when a star stands there. -/
def size (limit : Nat) (fault : Fault) : Step (Option Nat) := do
  if ← accept ['*'] then
    match ← operand with
    | .flag value => pure (some value.toNat)
    | _ => throw .sizeNotWhole
  else
    let reading ← get
    let digits := reading.rest.takeWhile Char.isDigit
    set { reading with rest := reading.rest.drop digits.length }
    if digits.isEmpty then pure none
    else
      let number := digits.foldl (fun n c => n * 10 + (c.toNat - '0'.toNat)) 0
      if limit < number then throw fault else pure (some number)

/-- The precision of a directive; a point alone asks for none. -/
def precision : Step (Option Nat) := do
  if ← accept ['.'] then return some ((← size precisionLimit .precisionTooBig).getD 0)
  else pure none

/-- One directive, behind its percent sign, in a pattern of a length: the operand put in. -/
def directive (fields : List (String × Operand)) (length : Nat) : Step (List Char) := do
  name fields
  let flags ← flags
  let width ← size widthLimit .widthTooBig
  let precision ← precision
  let _ ← accept ['h', 'l', 'L']
  let letter ← next
  let index := length - (← get).rest.length - 1
  let directive := { flags with width := width, precision := precision }
  directive.write letter index (← operand)

/-- The rest of a pattern of a length, with operands put in. A directive takes a character at
least, so that as much fuel is enough as there are characters. -/
def fill (fields : List (String × Operand)) (length : Nat) : Nat → Step (List Char)
  | 0 => pure []
  | fuel + 1 => do
    let reading ← get
    match reading.rest with
    | [] => pure []
    | '%' :: '%' :: rest =>
      set { reading with rest := rest }
      return '%' :: (← fill fields length fuel)
    | '%' :: rest =>
      set { reading with rest := rest }
      let text ← directive fields length
      return text ++ (← fill fields length fuel)
    | c :: rest =>
      set { reading with rest := rest }
      return c :: (← fill fields length fuel)

end Step

def expand (fields : List (String × Operand)) (pattern : List Char) :
    Except Fault (List Char) := do
  let start : Reading := ⟨pattern, some (.record fields)⟩
  let (text, _) ← (Step.fill fields pattern.length pattern.length).run start
  pure text

end SafeSql.Text.Pattern
