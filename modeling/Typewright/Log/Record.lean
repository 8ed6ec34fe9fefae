/-!
Log records, and the names of their levels. A record has a level, the name of the logger it was given to, and its message.

Two names have the number of another level, so there are more names than levels: `levelNumber?` knows them all, `levelName`
gives the first of each. A level without a name of its own reads `Level` and its number.
-/

namespace Typewright.Log

structure Record where
  level : Int
  source : String
  message : String
  deriving DecidableEq

def Record.debug (source message : String) : Record := ⟨10, source, message⟩

def Record.info (source message : String) : Record := ⟨20, source, message⟩

def Record.error (source message : String) : Record := ⟨40, source, message⟩

def levelNumber? (name : String) : Option Int :=
  List.lookup name [("CRITICAL", 50), ("FATAL", 50), ("ERROR", 40), ("WARN", 30), ("WARNING", 30), ("INFO", 20),
    ("DEBUG", 10), ("NOTSET", 0)]

def levelName (level : Int) : String :=
  (List.lookup level [(50, "CRITICAL"), (40, "ERROR"), (30, "WARNING"), (20, "INFO"), (10, "DEBUG"), (0, "NOTSET")]).getD
    ("Level " ++ toString level)

def atLeast (level : Int) (records : List Record) : List Record := records.filter fun r => level ≤ r.level

end Typewright.Log
