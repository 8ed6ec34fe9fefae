import Typewright.Text.Hex
import Typewright.Text.Printable

/-!
Quoted text, as it stands in messages: in single quotes, or in double quotes when the text holds a single quote and no
double one (`quoteFor`). A backslash and the quote in use are escaped, tab, line feed and carriage return are named, and
every other character that is not printable is written by its code point, with as many digits as its size needs
(`quotedChar`).

The other quotes are those of attribute arguments: `stripQuotes` takes all double quotes out of a text, wherever they stand.
-/

namespace Typewright.Text

def quoteFor (s : List Char) : Char :=
  if s.contains '\'' && !s.contains '"' then '"' else '\''

def quotedChar (quote c : Char) : List Char :=
  if c == quote || c == '\\' then ['\\', c]
  else if c == '\t' then ['\\', 't']
  else if c == '\n' then ['\\', 'n']
  else if c == '\r' then ['\\', 'r']
  else if isPrintable c then [c]
  else if c.toNat < 0x100 then '\\' :: 'x' :: hexDigits 2 c.toNat
  else if c.toNat < 0x10000 then '\\' :: 'u' :: hexDigits 4 c.toNat
  else '\\' :: 'U' :: hexDigits 8 c.toNat

def quoted (s : String) : String :=
  let quote := quoteFor s.toList
  String.ofList (quote :: s.toList.flatMap (quotedChar quote) ++ [quote])

def addQuotes (s : String) : String := "\"" ++ s ++ "\""

/-- The text without its double quotes, wherever they stand. -/
def stripQuotes (s : String) : String := String.ofList (s.toList.filter (· != '"'))

theorem stripQuotes_no_quote (s : String) : '"' ∉ (stripQuotes s).toList := by
  simp [stripQuotes]

end Typewright.Text
