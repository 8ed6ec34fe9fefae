import Typewright.Log.Record
import Typewright.Text.Alphanumeric
import Typewright.Text.Quoted

/-!
Formats of log lines. A field is written `%(name)`, flags, a width, a point and a precision, and a conversion letter;
`%%` is a percent sign.

A format is looked at twice, and not by the same rules.
- When a logger is set up, it is enough that one field stands somewhere in it (`hasField`). Here letters and digits are those of
  all scripts, a width or a precision may be a star, a letter may be in either case, and what stands around that field is not
  looked at.
- When a record is written (`Record.written`), every percent sign counts, a name is all there is up to the bracket, and digits are
  the ten of ASCII. A format that passed the first look may fail here, for a name that records do not have, or for a
  conversion that does not take the value; such a record is not written.

Of a record the level, its name, the logger's name and the message can be shown. Of the conversions those are covered that show
a value as it is (`s`, `r`) or as a whole number (`d`, `i`, `u`).
-/

namespace Typewright.Log

def isFlag (c : Char) : Bool := c == '#' || c == '0' || c == '+' || c == ' ' || c == '-'

/-! ## The look at setup -/

/-- A letter that ends a field, in either case: a dotless or dotted i and a long s pass for `i` and `s`. -/
def isConversion (c : Char) : Bool := "diouxefgcrsa%İıſ".toList.contains c.toLower

def isNameChar (c : Char) : Bool := Text.isAlphanumeric c || c == '_'

/-- What follows a width or precision: a star, or digits. -/
def afterMeasure : List Char → List Char
  | '*' :: rest => rest
  | cs => cs.dropWhile Text.isDecimal

def startsField : List Char → Bool
  | '(' :: rest =>
    match rest.dropWhile isNameChar with
    | ')' :: after =>
      let conversion := match afterMeasure (after.dropWhile isFlag) with
        | '.' :: digits => (afterMeasure digits).head?.filter fun _ => (afterMeasure digits).length < digits.length
        | cs => cs.head?
      rest.head?.any isNameChar && conversion.any isConversion
    | _ => false
  | _ => false

def hasField : List Char → Bool
  | [] => false
  | c :: rest => (c == '%' && startsField rest) || hasField rest

/-! ## Writing -/

structure Field where
  name : String
  flags : List Char
  width : Nat
  precision : Option Nat
  conversion : Char

def number (cs : List Char) : Nat := cs.foldl (fun n c => 10 * n + (c.toNat - 0x30)) 0

/-- Reads a field after its percent sign. One letter for the size of a number is skipped. -/
def readField : List Char → Option (Field × List Char)
  | '(' :: rest =>
    let name := rest.takeWhile (· != ')')
    match rest.drop name.length with
    | ')' :: afterName =>
      let flags := afterName.takeWhile isFlag
      let afterFlags := afterName.drop flags.length
      let width := afterFlags.takeWhile Char.isDigit
      let (precision, afterPrecision) := match afterFlags.drop width.length with
        | '.' :: digits => (some (number (digits.takeWhile Char.isDigit)), digits.dropWhile Char.isDigit)
        | cs => (none, cs)
      let afterSize := match afterPrecision with
        | c :: after => if c == 'h' || c == 'l' || c == 'L' then after else afterPrecision
        | [] => []
      match afterSize with
      | c :: after => some (⟨String.ofList name, flags, number width, precision, c⟩, after)
      | [] => none
    | _ => none
  | _ => none

/-- What a record shows under a field's name: its number, or a text. -/
def Record.value? (r : Record) : String → Option (Int ⊕ String)
  | "levelno" => some (.inl r.level)
  | "levelname" => some (.inr (levelName r.level))
  | "name" => some (.inr r.source)
  | "message" => some (.inr r.message)
  | _ => none

def pad (f : Field) (cs : List Char) : List Char :=
  let fill := List.replicate (f.width - cs.length) ' '
  if f.flags.contains '-' then cs ++ fill else fill ++ cs

/-- A whole number under a field: sign, digits at least as many as the precision, zeros up to the width if asked. -/
def padNumber (f : Field) (n : Int) : List Char :=
  let sign := if n < 0 then ['-'] else if f.flags.contains '+' then ['+'] else if f.flags.contains ' ' then [' '] else []
  let digits := Nat.toDigits 10 n.natAbs
  let digits := List.replicate (f.precision.getD 0 - digits.length) '0' ++ digits
  if f.flags.contains '0' && !f.flags.contains '-' then
    sign ++ List.replicate (f.width - sign.length - digits.length) '0' ++ digits
  else pad f (sign ++ digits)

/-- The text of a field; none where the conversion does not take the value. -/
def Field.fill (f : Field) (r : Record) : Option (List Char) :=
  let cut (cs : List Char) := match f.precision with
    | some n => cs.take n
    | none => cs
  match r.value? f.name, f.conversion with
  | some (.inl n), 's' => some (pad f (cut (toString n).toList))
  | some (.inl n), 'd' => some (padNumber f n)
  | some (.inl n), 'i' => some (padNumber f n)
  | some (.inl n), 'u' => some (padNumber f n)
  | some (.inl n), 'r' => some (pad f (cut (toString n).toList))
  | some (.inr s), 's' => some (pad f (cut s.toList))
  | some (.inr s), 'r' => some (pad f (cut (Text.quoted s).toList))
  | some _, '%' => some ['%']
  | _, _ => none

/-- The line of a record, or none where the format cannot show it. `fuel` bounds the length of the format. -/
def fill (r : Record) : Nat → List Char → Option (List Char)
  | 0, _ => some []
  | _, [] => some []
  | fuel + 1, '%' :: '%' :: rest => (fill r fuel rest).map ('%' :: ·)
  | fuel + 1, '%' :: rest =>
    match readField rest with
    | none => none
    | some (f, after) => (f.fill r).bind fun cs => (fill r fuel after).map (cs ++ ·)
  | fuel + 1, c :: rest => (fill r fuel rest).map (c :: ·)

def Record.written (r : Record) (format : String) : Option String :=
  (fill r format.length format.toList).map String.ofList

end Typewright.Log
