import SafeSql.Proofs.Dialect.Regular
import SafeSql.Proofs.Fragment.Accepted

/-!
# What a fragment is made of

A fragment is a row of pieces: quoted spans that hold an escaped text or a name, and bare text
between them. In a regular dialect every piece of every fragment but rendered SQL is read as what
it is, whatever stands behind it, and a fragment never begins with a character that would change
what stands before it; only a dash can do so where two dashes open a comment.

## Main definitions

* `Piece`, `pieces` — the pieces of the fragment of a value.
* `Written` — pieces that are read as what they are, and their text.

## Main statements

* `whole_of_integer` — what is written for a whole number.
* `written_format` — a fragment is written by its pieces.
* `Written.reads` — how a fragment is read.
-/

namespace SafeSql.Fragment

open Dialect (Plain Inside Regular Ordinary)
open Template (Kind CharClass)
open Template.Walk (Reads next)

/-- A part of a fragment: text between spans, or a quoted span with its contents as written. -/
inductive Piece
  | bare (text : List Char)
  | quoted (quote : Char) (content : List Char)
  deriving DecidableEq, Repr

namespace Piece

def text : Piece → List Char
  | .bare text => text
  | .quoted quote content => [quote] ++ content ++ [quote]

def charClass : Piece → CharClass
  | .bare _ => .code
  | .quoted .. => .quoted

end Piece

/-! ## The pieces of a value -/

/-- The text of a value that is accepted. -/
def accepted (text : Except Failure (List Char)) : List Char :=
  match text with
  | .ok text => text
  | .error _ => []

/-- Rows of pieces with a comma between each two. -/
def joined (parts : List (List Piece)) : List Piece :=
  [Piece.bare [',']].intercalate parts

def literalPieces (d : Dialect) (value : Value) : List Piece :=
  match value with
  | .null => [.bare null]
  | value => [.quoted '\'' (d.escape (accepted (scalarText value)))]

def identifierPieces (d : Dialect) (value : Value) : List Piece :=
  [.quoted d.identifierQuote (Dialect.double d.identifierQuote (value.text?.getD []))]

def listPieces (d : Dialect) : List Value → List Piece
  | [] => [.bare null]
  | items => joined (items.map (literalPieces d))

def assignmentPieces (d : Dialect) (entry : Value × Value) : List Piece :=
  identifierPieces d entry.1 ++ [.bare ['=']] ++ literalPieces d entry.2

def rowsPieces (d : Dialect) (rows : List Value) : List Piece :=
  joined (rows.map fun row => [.bare ['(']] ++ listPieces d row.items ++ [.bare [')']])

def recordOf : Value → Record
  | .map entries missing => ⟨entries, missing⟩
  | _ => ⟨[], none⟩

/-- The cell of a record in a column; one that is accepted answers for all columns. -/
def cellOf (record : Record) (column : Value) : Value :=
  (record.answer? column).getD .null

/-- The pieces of the columns of the first record and the rows of all. -/
def recordsPieces (d : Dialect) : List Record → List Piece
  | [] => []
  | first :: others =>
    let columns := first.entries.keys
    [.bare ['(']] ++ joined (columns.map (identifierPieces d))
      ++ [.bare (')' :: " VALUES ".toList)]
      ++ rowsPieces d
        ((first.entries.map (·.2) ::
          others.map fun record => columns.map (cellOf record)).map .list)

/-- The pieces of the fragment of a value for a kind of placeholder. -/
def pieces (d : Dialect) : Kind → Value → List Piece
  | .string, value => literalPieces d value
  | .integer, value => [.bare (accepted (integer value))]
  | .identifier, value => identifierPieces d value
  | .inList, value => listPieces d value.items
  | .setClause, value => joined ((recordOf value).entries.map (assignmentPieces d))
  | .multiRow, value => rowsPieces d value.items
  | .keyValueRows, value => recordsPieces d (value.items.map recordOf)
  | .raw, value => [.bare (accepted (raw value))]

/-! ## Pieces that are read as what they are -/

/-- Text that changes nothing before it: its first character is no blank and no asterisk, and a
dash there has a character behind it that is no blank. -/
def Begins (text : List Char) : Prop :=
  ∃ c more, text = c :: more ∧ Text.isBlank c = false ∧ c ≠ '*' ∧
    (c = '-' → ∃ c' more', more = c' :: more' ∧ Text.isBlank c' = false)

/-- Bare text is code and changes nothing before it; the contents of a span stay inside. -/
def Piece.Sound (d : Dialect) : Piece → Prop
  | .bare text => Plain d text ∧ Begins text
  | .quoted quote content => d.quoteChars.contains quote ∧ Inside d quote content ∧
      ∀ rest, next d quote rest (.quoted quote) = (.code, .quoted)

/-- Pieces that are read as what they are, and their text. -/
structure Written (d : Dialect) (pieces : List Piece) (text : List Char) : Prop where
  nonempty : pieces ≠ []
  sound : ∀ piece ∈ pieces, piece.Sound d
  text_eq : pieces.flatMap Piece.text = text

section Laws

variable {d : Dialect} {pieces pieces' : List Piece} {text text' : List Char}

theorem Written.append (h : Written d pieces text) (h' : Written d pieces' text') :
    Written d (pieces ++ pieces') (text ++ text') where
  nonempty := by simp [h.nonempty]
  sound piece member := (List.mem_append.1 member).elim (h.sound piece) (h'.sound piece)
  text_eq := by rw [List.flatMap_append, h.text_eq, h'.text_eq]

theorem Written.one {piece : Piece} (h : piece.Sound d) : Written d [piece] piece.text where
  nonempty := by simp
  sound := by simpa using h
  text_eq := by simp

/-- Rows of pieces and texts can both be put together with commas. -/
theorem Written.joined {parts : List (List Piece)} {texts : List (List Char)}
    (comma : Written d [.bare [',']] [',']) (nonempty : parts ≠ [])
    (h : List.Forall₂ (Written d) parts texts) : Written d (joined parts) (commaJoin texts) := by
  induction h with
  | nil => contradiction
  | @cons part text parts texts first later ih =>
    cases later with
    | nil => simpa [Fragment.joined, commaJoin] using first
    | cons =>
      simp only [Fragment.joined, commaJoin, List.intercalate_cons_cons] at ih ⊢
      exact (first.append comma).append (ih (by simp))

/-! ## Reading fragments -/

def classesOf (pieces : List Piece) : List CharClass :=
  pieces.flatMap fun piece => List.replicate piece.text.length piece.charClass

theorem Piece.Sound.reads {piece : Piece} (h : piece.Sound d) (rest : List Char) :
    Reads d .code piece.text rest (List.replicate piece.text.length piece.charClass) .code := by
  cases piece with
  | bare text => exact h.1 rest
  | quoted quote content =>
    obtain ⟨own, inside, leave⟩ := h
    have first : next d quote ((content ++ [quote]) ++ rest) .code = (.quoted quote, .quoted) := by
      simp only [next, Template.Walk.inCode, own, if_true]
    have span := Reads.cons first ((inside ([quote] ++ rest)).append (.one (leave rest)))
    simpa [Piece.text, Piece.charClass, ← List.replicate_succ', List.replicate_succ] using span

/-- Pieces are read as what they are, whatever stands behind them. -/
theorem Written.reads (h : Written d pieces text) (rest : List Char) :
    Reads d .code text rest (classesOf pieces) .code := by
  obtain ⟨-, sound, rfl⟩ := h
  induction pieces with
  | nil => exact .nil
  | cons piece pieces ih =>
    exact ((sound piece (by simp)).reads _).append (ih fun piece' member =>
      sound piece' (by simp [member]))

/-- Written pieces change nothing before them. -/
theorem Written.begins (regular : Regular d) (h : Written d pieces text) : Begins text := by
  obtain ⟨nonempty, sound, rfl⟩ := h
  obtain ⟨piece, more, rfl⟩ := List.exists_cons_of_ne_nil nonempty
  have first := sound piece (by simp)
  cases piece with
  | bare text =>
    obtain ⟨-, c, more', rfl, blank, star, dash⟩ := first
    refine ⟨c, more' ++ more.flatMap Piece.text, rfl, blank, star, fun is_dash => ?_⟩
    obtain ⟨c', more'', rfl, blank'⟩ := dash is_dash
    exact ⟨c', more'' ++ more.flatMap Piece.text, rfl, blank'⟩
  | quoted quote content =>
    have known : ∀ c ∈ ['"', '\'', '\x60'], Text.isBlank c = false ∧ c ≠ '*' ∧ c ≠ '-' := by
      simp [Text.isBlank]
    have opens := known quote (regular.quotes quote (List.contains_iff_mem.1 first.1))
    exact ⟨quote, content ++ [quote] ++ more.flatMap Piece.text, by simp [Piece.text], opens.1,
      opens.2.1, fun dash => absurd dash opens.2.2⟩

end Laws

/-! ## Single values -/

theorem whole_of_integer {value : Value} {text : List Char} (h : integer value = .ok text) :
    text = null ∨ ∃ n, text = Whole.text n := by
  have wholeText_ok {kind : Kind} {n : Int} (h : wholeText kind value n = .ok text) :
      ∃ n, text = Whole.text n := by
    unfold wholeText Whole.text? at h
    grind
  have decimal_ok {x : Decimal} (h : decimalText x = .ok text) : ∃ n, text = Whole.text n := by
    cases x with
    | finite negative coefficient exponent =>
      simp only [decimalText] at h
      split_ifs at h <;> cases h
      · exact ⟨0, rfl⟩
      · exact ⟨0, rfl⟩
      · exact ⟨_, rfl⟩
      · exact ⟨_, rfl⟩
      · exact ⟨_, rfl⟩
      · exact ⟨_, rfl⟩
    | nan | infinity =>
      simp only [decimalText, Value.quoted?, Value.quotedAtom?, writable] at h
      contradiction
  have numeral_ok {source : List Char} (h : numeralText value source = .ok text) :
      ∃ n, text = Whole.text n := by
    unfold numeralText at h
    split at h
    · exact decimal_ok h
    · contradiction
  obtain ⟨shape, -, body⟩ := Except.bind_eq_ok.1 h
  split at body
  · exact .inl (Except.ok.inj body).symm
  · rename_i b
    obtain rfl := Except.ok.inj body
    cases b
    · exact .inr ⟨0, rfl⟩
    · exact .inr ⟨1, rfl⟩
  · exact .inr (wholeText_ok body)
  · split at body
    · exact .inr ⟨_, (Except.ok.inj body).symm⟩
    · contradiction
  · exact .inr (decimal_ok body)
  · exact .inr (numeral_ok body)
  · exact .inr (numeral_ok body)
  · contradiction

/-! ## Records -/

/-- The records of a value are its elements, which are mappings. -/
theorem records_eq {items : List Value} {records : List Record}
    (h : items.mapM record = .ok records) : records = items.map recordOf := by
  refine Except.eq_map_of_mapM_eq_ok (fun item entries h => ?_) h
  obtain ⟨shape, -, body⟩ := Except.bind_eq_ok.1 h
  split at body
  · exact (Except.ok.inj body).symm
  · contradiction

theorem eq_map_of_mapM_eq_some {α β : Type} {f : α → Option β} {as : List α} {bs : List β}
    {fallback : β} (h : as.mapM f = some bs) : bs = as.map fun a => (f a).getD fallback := by
  induction as generalizing bs with
  | nil => simpa using h.symm
  | cons a as ih =>
    simp only [List.mapM_cons, Option.bind_eq_bind, Option.bind_eq_some_iff, Option.pure_def,
      Option.some.injEq] at h
    obtain ⟨b, first, bs, later, rfl⟩ := h
    simp [first, ← ih later]

theorem rows_eq {columns : List Value} {others : List Record} {rows : List (List Value)}
    (h : others.mapM (cells columns) = .ok rows) :
    rows = others.map fun record => columns.map (cellOf record) := by
  refine Except.eq_map_of_mapM_eq_ok (fun record row h => ?_) h
  unfold cells at h
  split at h
  · contradiction
  · split at h
    next found =>
      obtain rfl := Except.ok.inj h
      exact eq_map_of_mapM_eq_some found
    · contradiction

/-! ## Fragments in a regular dialect -/

theorem opens_of_isDigit {c : Char} (h : c.isDigit) :
    Text.isBlank c = false ∧ c ≠ '*' ∧ c ≠ '-' := by
  simp only [Char.isDigit, Bool.and_eq_true, decide_eq_true_eq] at h
  obtain ⟨low, high⟩ : 48 ≤ c.val.toNat ∧ c.val.toNat ≤ 57 := h
  refine ⟨?_, ?_, ?_⟩
  · simp only [Text.isBlank, Char.toNat]
    grind
  · rintro rfl
    revert low
    decide
  · rintro rfl
    revert low
    decide

section Regular

variable {d : Dialect} (regular : Regular d)
include regular

theorem sound_ordinary {c : Char} {more : List Char} (h : ∀ c' ∈ c :: more, Ordinary c')
    (opens : Text.isBlank c = false ∧ c ≠ '*' ∧ c ≠ '-') : (Piece.bare (c :: more)).Sound d :=
  ⟨regular.plain h, c, more, rfl, opens.1, opens.2.1, fun dash => absurd dash opens.2.2⟩

theorem sound_null : (Piece.bare null).Sound d :=
  sound_ordinary regular (by simp [Ordinary]) (by decide)

/-- The text of an integer is digits, perhaps behind a dash. -/
theorem sound_whole (n : Int) : (Piece.bare (Whole.text n)).Sound d := by
  obtain ⟨c, more, digits_eq⟩ := List.exists_cons_of_ne_nil
    (Nat.toDigits_ne_nil : Nat.toDigits 10 n.natAbs ≠ [])
  have digit {c' : Char} (member : c' ∈ c :: more) : c'.isDigit := by
    rw [← digits_eq] at member
    exact Nat.isDigit_of_mem_toDigits (by decide) (by decide) member
  have ordinary : ∀ c' ∈ c :: more, Ordinary c' :=
    fun c' member => Dialect.ordinary_of_isDigit (digit member)
  have opens := opens_of_isDigit (digit List.mem_cons_self)
  unfold Whole.text Whole.digits
  rw [digits_eq]
  split
  · have plain : Plain d ('-' :: c :: more) :=
      regular.plain_dash (ordinary c (by simp)) fun c' member => ordinary c' (by simp [member])
    exact ⟨plain, '-', c :: more, rfl, by decide, by decide, fun _ => ⟨c, more, rfl, opens.1⟩⟩
  · exact sound_ordinary regular ordinary opens

theorem written_literal {value : Value} {text : List Char} (h : literal d value = .ok text) :
    Written d (literalPieces d value) text := by
  obtain ⟨rfl, rfl⟩ | ⟨present, content, found, rfl⟩ := literal_inv h
  · exact .one (sound_null regular)
  · have pieces_eq : literalPieces d value = [.quoted '\'' (d.escape content)] := by
      unfold literalPieces
      split
      · contradiction
      · rw [found, accepted]
    rw [pieces_eq]
    exact .one ⟨regular.literal, regular.escape content, by simp [next]⟩

theorem written_identifier {value : Value} {text : List Char} (h : identifier d value = .ok text) :
    Written d (identifierPieces d value) text := by
  obtain ⟨name, named, -, rfl⟩ := identifier_inv h
  rw [identifierPieces, named, Option.getD_some]
  exact .one ⟨regular.identifier, Dialect.inside_double regular.identifier regular.inactive name,
    by simp [next, regular.inactive]⟩

theorem written_integer {value : Value} {text : List Char} (h : integer value = .ok text) :
    Written d [.bare (accepted (integer value))] text := by
  rw [h]
  obtain rfl | ⟨n, rfl⟩ := whole_of_integer h
  · exact .one (sound_null regular)
  · exact .one (sound_whole regular n)

/-! ## Collections -/

theorem written_bare {c : Char} (h : Ordinary c)
    (opens : Text.isBlank c = false ∧ c ≠ '*' ∧ c ≠ '-') : Written d [.bare [c]] [c] :=
  .one (sound_ordinary regular (by simpa using h) opens)

/-- Elements that are written one after another are written with commas between them. -/
theorem written_mapM {α : Type} {write : α → Except Failure (List Char)} {parts : α → List Piece}
    (each : ∀ a text, write a = .ok text → Written d (parts a) text) {as : List α}
    {texts : List (List Char)} (nonempty : as ≠ []) (h : as.mapM write = .ok texts) :
    Written d (joined (as.map parts)) (commaJoin texts) := by
  refine .joined (written_bare regular (by decide) (by decide)) (by simpa using nonempty) ?_
  rw [List.forall₂_map_left_iff]
  exact (Except.mapM_eq_ok.1 h).imp each

theorem written_inList {value : Value} {text : List Char} (h : inList d value = .ok text) :
    Written d (listPieces d value.items) text := by
  obtain ⟨empty, rfl⟩ | ⟨nonempty, texts, all, rfl⟩ := inList_inv h
  · rw [empty]
    exact .one (sound_null regular)
  · have pieces_eq : listPieces d value.items = joined (value.items.map (literalPieces d)) := by
      unfold listPieces
      split <;> simp_all
    rw [pieces_eq]
    exact written_mapM regular (fun _ _ => written_literal regular) nonempty all

theorem written_assignment {entry : Value × Value} {text : List Char}
    (h : assignment d entry = .ok text) : Written d (assignmentPieces d entry) text := by
  obtain ⟨name, content, named, held, rfl⟩ := assignment_inv h
  exact ((written_identifier regular named).append
    (written_bare regular (by decide) (by decide))).append (written_literal regular held)

theorem written_setClause {value : Value} {text : List Char} (h : setClause d value = .ok text) :
    Written d (joined ((recordOf value).entries.map (assignmentPieces d))) text := by
  obtain ⟨entries, missing, texts, rfl, nonempty, all, rfl⟩ := setClause_inv h
  exact written_mapM regular (fun _ _ => written_assignment regular) nonempty all

theorem written_row {value : Value} {text : List Char} (h : row d value = .ok text) :
    Written d ([.bare ['(']] ++ listPieces d value.items ++ [.bare [')']]) text := by
  obtain ⟨inner, listed, rfl⟩ := row_inv h
  exact ((written_bare regular (by decide) (by decide)).append
    (written_inList regular listed)).append (written_bare regular (by decide) (by decide))

theorem written_multiRow {value : Value} {text : List Char} (h : multiRow d value = .ok text) :
    Written d (rowsPieces d value.items) text := by
  obtain ⟨texts, nonempty, all, rfl⟩ := multiRow_inv h
  exact written_mapM regular (fun _ _ => written_row regular) nonempty all

theorem written_keyValueRows {value : Value} {text : List Char}
    (h : keyValueRows d value = .ok text) :
    Written d (recordsPieces d (value.items.map recordOf)) text := by
  obtain ⟨first, others, rest, names, rows, read, some_columns, cut, named, written, rfl⟩ :=
    keyValueRows_inv h
  rw [← records_eq read]
  obtain rfl := rows_eq cut
  have columns := written_mapM regular (fun _ _ => written_identifier regular) some_columns named
  have opening : Written d [.bare ['(']] ['('] := written_bare regular (by decide) (by decide)
  have closing : Written d [.bare (')' :: " VALUES ".toList)] (')' :: " VALUES ".toList) :=
    .one (sound_ordinary regular (by simp [Ordinary]) (by decide))
  have whole := ((opening.append columns).append closing).append (written_multiRow regular written)
  simpa [recordsPieces, Value.items] using whole

/-- A fragment is written by its pieces. Rendered SQL is none of them: it is not looked into. -/
theorem written_format {kind : Kind} {value : Value} {text : List Char} (parsed : kind ≠ .raw)
    (h : format d kind value = .ok text) : Written d (pieces d kind value) text := by
  cases kind with
  | string => exact written_literal regular h
  | integer => exact written_integer regular h
  | identifier => exact written_identifier regular h
  | inList => exact written_inList regular h
  | setClause => exact written_setClause regular h
  | multiRow => exact written_multiRow regular h
  | keyValueRows => exact written_keyValueRows regular h
  | raw => contradiction

end Regular

end SafeSql.Fragment
