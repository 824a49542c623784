import SafeSql.Text.Hex

/-!
# UTF-8

Characters as bytes and back. A lead byte fixes how many bytes follow it and the range of the
first of them, which keeps out overlong forms, surrogates and code points beyond the last one.

## Main definitions

* `Utf8.encode` — the bytes of a text.
* `Utf8.decode` — the text of the bytes, or the first fault in them.
* `Utf8.Fault.message` — the fault in words.
-/

namespace SafeSql.Text.Utf8

def encode (text : List Char) : List UInt8 :=
  text.flatMap String.utf8EncodeChar

inductive Flaw
  | start
  | continuation
  | ending
  deriving DecidableEq, Repr

/-- A stretch of bytes from `start` up to, not including, `stop` that is no character. -/
structure Fault where
  start : Nat
  stop : Nat
  lead : UInt8
  flaw : Flaw
  deriving DecidableEq, Repr

/-- The fault in words: a single byte is shown, several are located. -/
def Fault.message (fault : Fault) : String :=
  let place :=
    if fault.stop = fault.start + 1 then
      "byte 0x" ++ String.ofList (Hex.ofNat 2 fault.lead.toNat) ++ " in position "
        ++ toString fault.start
    else
      "bytes in position " ++ toString fault.start ++ "-" ++ toString (fault.stop - 1)
  let flaw :=
    match fault.flaw with
    | .start => "invalid start byte"
    | .continuation => "invalid continuation byte"
    | .ending => "unexpected end of data"
  "'utf-8' codec can't decode " ++ place ++ ": " ++ flaw

/-- A character of which some bytes are still to come: where it started, the bits read so far,
how many bytes are missing, and the range of the next one. -/
structure Pending where
  start : Nat
  lead : UInt8
  bits : Nat
  missing : Nat
  low : UInt8
  high : UInt8

/-- The character that a lead byte at `position` opens, if it opens one of several bytes. -/
def Pending.ofLead? (position : Nat) (lead : UInt8) : Option Pending :=
  let code := lead.toNat
  if 0xc2 ≤ code && code ≤ 0xdf then some ⟨position, lead, code - 0xc0, 1, 0x80, 0xbf⟩
  else if code = 0xe0 then some ⟨position, lead, 0, 2, 0xa0, 0xbf⟩
  else if code = 0xed then some ⟨position, lead, 13, 2, 0x80, 0x9f⟩
  else if 0xe1 ≤ code && code ≤ 0xef then some ⟨position, lead, code - 0xe0, 2, 0x80, 0xbf⟩
  else if code = 0xf0 then some ⟨position, lead, 0, 3, 0x90, 0xbf⟩
  else if 0xf1 ≤ code && code ≤ 0xf3 then some ⟨position, lead, code - 0xf0, 3, 0x80, 0xbf⟩
  else if code = 0xf4 then some ⟨position, lead, 4, 3, 0x80, 0x8f⟩
  else none

/-- Reads the bytes from `position` on, possibly in the middle of a character. -/
def decodeFrom (position : Nat) : Option Pending → List UInt8 → Except Fault (List Char)
  | none, [] => .ok []
  | some pending, [] => .error ⟨pending.start, position, pending.lead, .ending⟩
  | none, byte :: rest =>
    if byte < 0x80 then
      (Char.ofNat byte.toNat :: ·) <$> decodeFrom (position + 1) none rest
    else
      match Pending.ofLead? position byte with
      | none => .error ⟨position, position + 1, byte, .start⟩
      | some pending => decodeFrom (position + 1) (some pending) rest
  | some pending, byte :: rest =>
    if pending.low ≤ byte && byte ≤ pending.high then
      let bits := pending.bits * 64 + (byte.toNat - 0x80)
      if pending.missing ≤ 1 then
        (Char.ofNat bits :: ·) <$> decodeFrom (position + 1) none rest
      else
        decodeFrom (position + 1)
          (some ⟨pending.start, pending.lead, bits, pending.missing - 1, 0x80, 0xbf⟩) rest
    else .error ⟨pending.start, position, pending.lead, .continuation⟩

/-- The text of the bytes, or the first stretch of them that is no character. -/
def decode (bytes : List UInt8) : Except Fault (List Char) :=
  decodeFrom 0 none bytes

end SafeSql.Text.Utf8
