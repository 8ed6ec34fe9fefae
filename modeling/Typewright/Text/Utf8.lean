import Typewright.Text.Hex

/-!
Decoding octets as UTF-8. A leading octet says how many follow (`followers`), and the second one is restricted further,
which leaves out overlong forms, surrogates and everything above U+10FFFF (`secondFits`).

The first malformed sequence is reported with its extent: the octets that still belonged to a well-formed beginning, or all
that remain when the text ends inside a sequence. The two are told apart in the message, and so is an octet that starts no
sequence (`Utf8Cause`).
-/

namespace Typewright.Text

inductive Utf8Cause where
  | start
  | continuation
  | ending
  deriving DecidableEq

/-- A malformed sequence: `octet` is its first, `position` where it starts, `length` its extent. -/
structure Utf8Fault where
  octet : UInt8
  position : Nat
  length : Nat
  cause : Utf8Cause
  deriving DecidableEq

def Utf8Fault.message (f : Utf8Fault) : String :=
  let extent :=
    if f.length = 1 then
      "byte 0x" ++ String.ofList (hexDigits 2 f.octet.toNat) ++ " in position " ++ toString f.position
    else "bytes in position " ++ toString f.position ++ "-" ++ toString (f.position + f.length - 1)
  let cause := match f.cause with
    | .start => "invalid start byte"
    | .continuation => "invalid continuation byte"
    | .ending => "unexpected end of data"
  "'utf-8' codec can't decode " ++ extent ++ ": " ++ cause

def isContinuation (b : UInt8) : Bool := b &&& 0xC0 == 0x80

/-- Number of octets after a leading one, or none where no sequence starts. -/
def followers (b : UInt8) : Option Nat :=
  if b < 0x80 then some 0
  else if b < 0xC2 then none
  else if b < 0xE0 then some 1
  else if b < 0xF0 then some 2
  else if b < 0xF5 then some 3
  else none

/-- The second octet may stand after this first one: no overlong form, no surrogate, nothing above U+10FFFF. -/
def secondFits (first second : UInt8) : Bool :=
  isContinuation second &&
    (first != 0xE0 || 0xA0 ≤ second) && (first != 0xED || second < 0xA0) &&
    (first != 0xF0 || 0x90 ≤ second) && (first != 0xF4 || second < 0x90)

/-- How many of the next octets fit as the second, third, … of a sequence that starts with `first`. -/
def fitting (first : UInt8) (count : Nat) (rest : List UInt8) : Nat :=
  match count, rest with
  | 0, _ | _, [] => 0
  | n + 1, second :: more =>
    if secondFits first second then 1 + ((more.take n).takeWhile isContinuation).length else 0

def codePoint (first : UInt8) (rest : List UInt8) : Nat :=
  let lead := match rest.length with
    | 0 => first.toNat
    | 1 => first.toNat % 0x20
    | 2 => first.toNat % 0x10
    | _ => first.toNat % 0x08
  rest.foldl (fun n b => 0x40 * n + b.toNat % 0x40) lead

/-- Decodes from `position` on; `fuel` bounds the number of characters. -/
def decodeFrom : Nat → Nat → List UInt8 → Except Utf8Fault (List Char)
  | 0, _, _ => .ok []
  | _, _, [] => .ok []
  | fuel + 1, position, first :: rest =>
    match followers first with
    | none => .error ⟨first, position, 1, .start⟩
    | some count =>
      let fit := fitting first count rest
      if fit = count then
        match decodeFrom fuel (position + count + 1) (rest.drop count) with
        | .ok cs => .ok (Char.ofNat (codePoint first (rest.take count)) :: cs)
        | .error e => .error e
      else if fit = rest.length then .error ⟨first, position, fit + 1, .ending⟩
      else .error ⟨first, position, fit + 1, .continuation⟩

def decodeUtf8 (octets : List UInt8) : Except Utf8Fault String :=
  (decodeFrom octets.length 0 octets).map String.ofList

/-- Line ends read as a line feed, however they are written. -/
def unifyLineEnds : List Char → List Char
  | [] => []
  | '\r' :: '\n' :: rest => '\n' :: unifyLineEnds rest
  | c :: rest => (if c == '\r' then '\n' else c) :: unifyLineEnds rest

end Typewright.Text
