import Typewright.Json.Basic
import Typewright.Text.Hex

/-!
Reading JSON text. Blanks are space, tab, carriage return and line feed; `NaN`, `Infinity` and `-Infinity` are numbers; of
fields with one name the last value stands in the first one's place. A number is whole when it has neither fraction nor
exponent, of any size, and otherwise the nearest binary number.

Reading moves a cursor, the text still to be read with its position. A fault names what was expected and where, counted in
characters from the start of the text (`Fault`); its message counts lines and columns (`Fault.message`). Which fault it is
follows from the order of reading: a string without an end is reported where it starts, an escape where its backslash is, or
its letter when it is one by code; a comma after the last item where the next value should be.

Half of a surrogate pair that stands alone has no character, and reads as U+FFFD (`charOfUnit`).

Values hold values, so the readers are given a number of steps. A step is spent with each value, field and item, and there
are no more of these than characters; that the given number suffices is part of `Proofs.JsonText`, where written values are
read back.
-/

namespace Typewright.Json

inductive FaultCause where
  | value
  | name
  | colon
  | comma
  | extra
  | unterminated
  | escape
  | unicodeEscape
  | control
  | mark
  deriving DecidableEq

structure Fault where
  cause : FaultCause
  position : Nat
  deriving DecidableEq

def FaultCause.message : FaultCause → String
  | value => "Expecting value"
  | name => "Expecting property name enclosed in double quotes"
  | colon => "Expecting ':' delimiter"
  | comma => "Expecting ',' delimiter"
  | extra => "Extra data"
  | unterminated => "Unterminated string starting at"
  | escape => "Invalid \\escape"
  | unicodeEscape => "Invalid \\uXXXX escape"
  | control => "Invalid control character at"
  | mark => "Unexpected UTF-8 BOM (decode using utf-8-sig)"

/-- The fault with its line and column in the text it arose in, both counted from one. -/
def Fault.message (f : Fault) (source : List Char) : String :=
  let before := source.take f.position
  let line := before.count '\n' + 1
  let column := (before.reverse.takeWhile (· != '\n')).length + 1
  f.cause.message ++ ": line " ++ toString line ++ " column " ++ toString column ++ " (char " ++ toString f.position
    ++ ")"

/-- Text still to be read and the position it starts at. -/
structure Cursor where
  rest : List Char
  position : Nat

def Cursor.skip (c : Cursor) (n : Nat) : Cursor := ⟨c.rest.drop n, c.position + n⟩

def isJsonBlank (c : Char) : Bool := c == ' ' || c == '\t' || c == '\n' || c == '\r'

def Cursor.skipBlanks (c : Cursor) : Cursor := c.skip (c.rest.takeWhile isJsonBlank).length

def isHighSurrogate (n : Nat) : Bool := 0xD800 ≤ n && n < 0xDC00

def isLowSurrogate (n : Nat) : Bool := 0xDC00 ≤ n && n < 0xE000

/-- The character of a code unit that stands alone; a surrogate has none and reads as U+FFFD. -/
def charOfUnit (n : Nat) : Char := if 0xD800 ≤ n && n < 0xE000 then Char.ofNat 0xFFFD else Char.ofNat n

/-- Four hexadecimal digits after `\u` with at least one more character behind them; `position` is that of the `u`. -/
def readUnit (c : Cursor) : Except Fault (Nat × Cursor) :=
  if c.rest.length < 6 then .error ⟨.unicodeEscape, c.position⟩
  else
    match Text.hexNumber? ((c.rest.drop 1).take 4) with
    | some n => .ok (n, c.skip 5)
    | none => .error ⟨.unicodeEscape, c.position⟩

/-- A `\u` escape, with the low half of a pair when one follows. The cursor stands on the `u`. -/
def readEscapedUnit (c : Cursor) : Except Fault (Char × Cursor) :=
  match readUnit c with
  | .error e => .error e
  | .ok (high, after) =>
    match after.rest with
    | '\\' :: 'u' :: _ =>
      if isHighSurrogate high && 6 < after.rest.length then
        match readUnit (after.skip 1) with
        | .error e => .error e
        | .ok (low, last) =>
          if isLowSurrogate low then
            .ok (Char.ofNat (0x10000 + (high - 0xD800) * 0x400 + (low - 0xDC00)), last)
          else .ok (charOfUnit high, after)
      else .ok (charOfUnit high, after)
    | _ => .ok (charOfUnit high, after)

/-- The character a one-letter escape stands for. -/
def escapedChar : Char → Option Char
  | '"' => some '"'
  | '\\' => some '\\'
  | '/' => some '/'
  | 'b' => some '\x08'
  | 'f' => some '\x0c'
  | 'n' => some '\n'
  | 'r' => some '\r'
  | 't' => some '\t'
  | _ => none

def readChars (start : Nat) : Nat → Cursor → Except Fault (List Char × Cursor)
  | 0, _ => .error ⟨.unterminated, start⟩
  | fuel + 1, c =>
    match c.rest with
    | [] => .error ⟨.unterminated, start⟩
    | '"' :: _ => .ok ([], c.skip 1)
    | '\\' :: 'u' :: _ =>
      match readEscapedUnit (c.skip 1) with
      | .error e => .error e
      | .ok (ch, after) => (readChars start fuel after).map fun r => (ch :: r.1, r.2)
    | ['\\'] => .error ⟨.unterminated, start⟩
    | '\\' :: letter :: _ =>
      match escapedChar letter with
      | some ch => (readChars start fuel (c.skip 2)).map fun r => (ch :: r.1, r.2)
      | none => .error ⟨.escape, c.position⟩
    | ch :: _ =>
      if ch.toNat < 0x20 then .error ⟨.control, c.position⟩
      else (readChars start fuel (c.skip 1)).map fun r => (ch :: r.1, r.2)

def readString (c : Cursor) : Except Fault (String × Cursor) :=
  (readChars c.position c.rest.length (c.skip 1)).map fun r => (String.ofList r.1, r.2)

def digitsValue (cs : List Char) : Nat := cs.foldl (fun n c => 10 * n + (c.toNat - 0x30)) 0

/-- The digits of the whole part: one zero, or a run that starts with another digit. -/
def wholeDigits (cs : List Char) : List Char :=
  match cs with
  | '0' :: _ => ['0']
  | _ => cs.takeWhile Char.isDigit

/-- The digits after a point, when there are any. -/
def fractionDigits : List Char → List Char
  | '.' :: rest => rest.takeWhile Char.isDigit
  | _ => []

/-- An exponent: its length in the text and its value, when it has digits. -/
def exponentPart : List Char → Option (Nat × Int)
  | e :: rest =>
    if e == 'e' || e == 'E' then
      let sign := match rest with
        | '+' :: _ => some 1
        | '-' :: _ => some (-1)
        | _ => none
      let digits := ((if sign.isSome then rest.drop 1 else rest)).takeWhile Char.isDigit
      if digits.isEmpty then none
      else some (1 + (if sign.isSome then 1 else 0) + digits.length, sign.getD 1 * digitsValue digits)
    else none
  | [] => none

/-- A number: whole when it has neither fraction nor exponent. -/
def readNumber (c : Cursor) : Except Fault (Json × Cursor) :=
  let negative := c.rest.head? == some '-'
  let body := if negative then c.rest.drop 1 else c.rest
  let whole := wholeDigits body
  if whole.isEmpty then .error ⟨.value, c.position⟩
  else
    let afterWhole := body.drop whole.length
    let fraction := fractionDigits afterWhole
    let fractionLength := if fraction.isEmpty then 0 else fraction.length + 1
    let exponent := exponentPart (afterWhole.drop fractionLength)
    let length := (if negative then 1 else 0) + whole.length + fractionLength + (exponent.map (·.1)).getD 0
    let value :=
      if fraction.isEmpty && exponent.isNone then
        .int (if negative then -(digitsValue whole : Int) else digitsValue whole)
      else
        .real (.ofDecimal negative (digitsValue (whole ++ fraction))
          ((exponent.map (·.2)).getD 0 - fraction.length))
    .ok (value, c.skip length)

def constants : List (List Char × Json) :=
  [("null".toList, .null), ("true".toList, .bool true), ("false".toList, .bool false), ("NaN".toList, .real .nan),
   ("Infinity".toList, .real (.infinite false)), ("-Infinity".toList, .real (.infinite true))]

def readScalar (c : Cursor) : Except Fault (Json × Cursor) :=
  match constants.find? (fun w => w.1.isPrefixOf c.rest) with
  | some w => .ok (w.2, c.skip w.1.length)
  | none => readNumber c

mutual

/-- The value the cursor stands on. -/
def readValue : Nat → Cursor → Except Fault (Json × Cursor)
  | 0, c => .error ⟨.value, c.position⟩
  | fuel + 1, c =>
    match c.rest with
    | [] => .error ⟨.value, c.position⟩
    | '"' :: _ => (readString c).map fun r => (.text r.1, r.2)
    | '\x7b' :: _ =>
      let after := (c.skip 1).skipBlanks
      if after.rest.head? == some '\x7d' then .ok (.object [], after.skip 1)
      else (readFields fuel [] after).map fun r => (.object r.1, r.2)
    | '[' :: _ =>
      let after := (c.skip 1).skipBlanks
      if after.rest.head? == some ']' then .ok (.list [], after.skip 1)
      else (readItems fuel after).map fun r => (.list r.1, r.2)
    | _ => readScalar c

/-- Fields up to the closing brace; the cursor stands where a name must. -/
def readFields : Nat → Object → Cursor → Except Fault (Object × Cursor)
  | 0, _, c => .error ⟨.name, c.position⟩
  | fuel + 1, o, c =>
    if c.rest.head? != some '"' then .error ⟨.name, c.position⟩
    else
      match readString c with
      | .error e => .error e
      | .ok (name, afterName) =>
        let colon := afterName.skipBlanks
        if colon.rest.head? != some ':' then .error ⟨.colon, colon.position⟩
        else
          match readValue fuel (colon.skip 1).skipBlanks with
          | .error e => .error e
          | .ok (v, afterValue) =>
            let next := afterValue.skipBlanks
            if next.rest.head? == some '\x7d' then .ok (o.insert name v, next.skip 1)
            else if next.rest.head? != some ',' then .error ⟨.comma, next.position⟩
            else readFields fuel (o.insert name v) (next.skip 1).skipBlanks

def readItems : Nat → Cursor → Except Fault (List Json × Cursor)
  | 0, c => .error ⟨.value, c.position⟩
  | fuel + 1, c =>
    match readValue fuel c with
    | .error e => .error e
    | .ok (v, afterValue) =>
      let next := afterValue.skipBlanks
      if next.rest.head? == some ']' then .ok ([v], next.skip 1)
      else if next.rest.head? != some ',' then .error ⟨.comma, next.position⟩
      else (readItems fuel (next.skip 1).skipBlanks).map fun r => (v :: r.1, r.2)

end

def read (source : List Char) : Except Fault Json :=
  if source.head? == some (Char.ofNat 0xFEFF) then .error ⟨.mark, 0⟩
  else
    match readValue (2 * source.length + 2) (Cursor.mk source 0).skipBlanks with
    | .error e => .error e
    | .ok (v, after) =>
      let last := after.skipBlanks
      if last.rest.isEmpty then .ok v else .error ⟨.extra, last.position⟩

end Typewright.Json
