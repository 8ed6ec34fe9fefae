import Typewright.Json.Show
import Typewright.Log.Format
import Typewright.Text.Case

/-!
The logger of the library: a level, and handlers that write records that reach it. At first it has no level of its own, so
the one above it is in force, and a handler that writes nothing.

`setup` takes the handlers away, gives it one that writes by a format, and sets the level, in this order; what was done
before a fault stays done. So a format without a field leaves the logger without handlers and with its level, and a level
that is none leaves it with the new handler and the old level. A format that is missing or empty is the usual one. A level
is a number or a name in any case (`readLevel`): upper case is that of all characters, so names with letters outside ASCII
can be names of levels too.

A record passes when its level is above zero and reaches the level in force (`passes`), and every handler writes it
(`emit`). What a sequence of setups comes to is in `Proofs.SetupHistory`.
-/

namespace Typewright.Log

/-- The name above all loggers of the library. -/
def rootName : String := "classgen"

/-- The level above the library's own. -/
def outerLevel : Int := 30

def defaultFormat : String := "%(asctime)s [%(levelname)s] %(name)s: %(message)s"

inductive Handler where
  | silent
  | stream (format : String)
  deriving DecidableEq

structure Logger where
  level : Int
  handlers : List Handler
  deriving DecidableEq

/-- As it is before anyone sets it up. -/
def Logger.initial : Logger := ⟨0, [.silent]⟩

inductive SetupFault where
  | format (format : String)
  | unknownLevel (name : String)
  | notLevel (value : Json)

def SetupFault.message : SetupFault → String
  | format f => "Invalid format '" ++ f ++ "' for '%' style"
  | unknownLevel name => "Unknown level: " ++ Text.quoted name
  | notLevel v => "Level not an integer or a valid string: " ++ v.quoted

def fullName (name : String) : String :=
  if name == rootName || (rootName ++ ".").toList.isPrefixOf name.toList then name else rootName ++ "." ++ name

/-- The level in force: the logger's own, or the one above when it has none. -/
def Logger.effective (l : Logger) : Int := if l.level = 0 then outerLevel else l.level

/-- A level as asked for: a number, or a name in any case. -/
def readLevel : Json → Except SetupFault Int
  | .int n => .ok n
  | .bool b => .ok (if b then 1 else 0)
  | .text s =>
    match levelNumber? (Text.upper s) with
    | some n => .ok n
    | none => .error (.unknownLevel ("Level " ++ Text.upper s))
  | v => .error (.notLevel v)

/-- Sets the logger up; what was done before a fault stays done. -/
def Logger.setup (l : Logger) (level : Json) (format : Option String) : Logger × Option SetupFault :=
  let f := match format with
    | some f => if f.isEmpty then defaultFormat else f
    | none => defaultFormat
  if !hasField f.toList then ({ l with handlers := [] }, some (.format f))
  else
    match readLevel level with
    | .error e => ({ l with handlers := [.stream f] }, some e)
    | .ok n => (⟨n, [.stream f]⟩, none)

/-- A record passes: its level is above zero and reaches the level in force. -/
def Logger.passes (l : Logger) (r : Record) : Bool := 0 < r.level && l.effective ≤ r.level

def Handler.written (r : Record) : Handler → String
  | .silent => ""
  | .stream f => ((r.written f).map (· ++ "\n")).getD ""

def Logger.emit (l : Logger) (r : Record) : String :=
  if l.passes r then String.join (l.handlers.map (Handler.written r)) else ""

end Typewright.Log
