import Typewright.Files.Path
import Typewright.Text.Quoted
import Typewright.Text.Utf8

/-!
A tree of files and directories, as far as loading and saving settings and finding templates need one. Every write gives a
file a stamp it never had before, so that two states of one file can be told apart even when their contents agree: a
template that was loaded from a file is taken for current as long as the stamp is the same.

An operation that the tree refuses says why (`Refusal`), with the number and the words of the system. Which refusal it is
depends on how far a path can be walked: each part needs a directory to stand in, so a file on the way is another matter
than a name that is not there (`walk`). Names and paths have a greatest length in octets. Paths are relative to the root of
the tree; an absolute one leads nowhere.

`write` is what the program does: it needs the directory and keeps directories as they are. `place`, `makeDirectory` and
`remove` are what others do to the files in between; they make the directories on the way, and they never fail.

Reading turns every line end into a line feed (`Content.read`). Files are written as text, and read as text or decoded from
octets, which can fail (`Text.decodeUtf8`).
-/

namespace Typewright.Files

/-- What a file holds: text, or octets that are still to be decoded. -/
inductive Content where
  | text (s : String)
  | octets (bs : List UInt8)
  deriving DecidableEq

inductive Entry where
  | directory
  | file (content : Content) (stamp : Nat)
  deriving DecidableEq

structure Tree where
  entries : List (List String × Entry)
  clock : Nat

inductive Refusal where
  | missing
  | notDirectory
  | isDirectory
  | nameTooLong
  deriving DecidableEq

/-- The refusal as the system words it. -/
def Refusal.message (r : Refusal) (path : String) : String :=
  (match r with
    | missing => "[Errno 2] No such file or directory: "
    | notDirectory => "[Errno 20] Not a directory: "
    | isDirectory => "[Errno 21] Is a directory: "
    | nameTooLong => "[Errno 36] File name too long: ") ++ Text.quoted path

/-- The text of a content, as it reads: every line end is a line feed. -/
def Content.read : Content → Except Text.Utf8Fault String
  | .text s => .ok (String.ofList (Text.unifyLineEnds s.toList))
  | .octets bs => (Text.decodeUtf8 bs).map fun s => String.ofList (Text.unifyLineEnds s.toList)

namespace Tree

def empty : Tree := ⟨[], 0⟩

/-- The entry at a place; the root is a directory. -/
def entry? (t : Tree) (place : List String) : Option Entry :=
  if place.isEmpty then some .directory else List.lookup place t.entries

/-- Walks from `here` along the parts. All but the last must be there; `..` goes back. -/
def walk (t : Tree) (here : List String) : List String → Except Refusal (List String)
  | [] => .ok here
  | part :: rest =>
    match t.entry? here with
    | none => .error .missing
    | some (.file _ _) => .error .notDirectory
    | some .directory =>
      if part == ".." then walk t here.dropLast rest
      else if 255 < part.utf8ByteSize then .error .nameTooLong
      else walk t (here ++ [part]) rest

/-- The place a path leads to. -/
def locate (t : Tree) (p : Path) : Except Refusal (List String) :=
  if 4095 < p.text.utf8ByteSize then .error .nameTooLong
  else if p.rooted && !p.parts.isEmpty then .error .missing
  else t.walk [] p.parts

def look (t : Tree) (p : Path) : Except Refusal Entry :=
  match t.locate p with
  | .error r => .error r
  | .ok place =>
    match t.entry? place with
    | some e => .ok e
    | none => .error .missing

def put (t : Tree) (place : List String) (e : Entry) : Tree :=
  { t with entries := (place, e) :: t.entries.filter (fun f => f.1 != place) }

/-- Writes a file into a directory that is there. -/
def write (t : Tree) (p : Path) (c : Content) : Except Refusal Tree :=
  match t.locate p with
  | .error r => .error r
  | .ok place =>
    match t.entry? place with
    | some .directory => .error .isDirectory
    | _ => .ok { t.put place (.file c (t.clock + 1)) with clock := t.clock + 1 }

/-- The directories on the way to a place, nearest to the root first, the root left out. -/
def ancestors (place : List String) : List (List String) :=
  (List.range place.length).filterMap fun n => if n = 0 then none else some (place.take n)

/-- Makes the directories on the way to a place. -/
def makeWay (t : Tree) (place : List String) : Tree :=
  (ancestors place).foldl (fun t d => if (t.entry? d).isSome then t else t.put d .directory) t

def makeDirectory (t : Tree) (p : Path) : Tree :=
  if p.parts.isEmpty then t else (t.makeWay p.parts).put p.parts .directory

def place (t : Tree) (p : Path) (c : Content) : Tree :=
  { (t.makeWay p.parts).put p.parts (.file c (t.clock + 1)) with clock := t.clock + 1 }

def remove (t : Tree) (p : Path) : Tree :=
  { t with entries := t.entries.filter (fun f => f.1 != p.parts) }

end Tree

end Typewright.Files
