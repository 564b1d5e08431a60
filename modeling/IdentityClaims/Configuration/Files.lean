import IdentityClaims.Text.Mark
import IdentityClaims.Text.Pieces
import IdentityClaims.Toml.Tree

/-!
# Configuration files

A path names a file outright, or a file whose name goes on with the extension of a format. The
extension of a file is the format it is read in. Paths are followed from the working directory
one name at a time; nothing outside of it can be reached.

This is one way of finding and reading the file that `load_config` asks for; loads are defined, and
what is proved of them is stated, for any.
-/

namespace IdentityClaims.Configuration

/-- The formats a file may have, in the order in which their extensions are tried. -/
inductive Format where
  | toml | json
  deriving DecidableEq, Repr

namespace Format

def all : List Format := [.toml, .json]

/-- The extension of files in a format; its case matters. -/
def extension : Format → String
  | .toml => "toml"
  | .json => "json"

def ofExtension? (extension : String) : Option Format :=
  all.find? (·.extension == extension)

/-- The settings that a text holds, which must be a table. -/
def settings? : Format → String → Option (List (String × Setting))
  | .toml, text => Toml.parse? text
  | .json, text =>
    match Json.Value.parse? text with
    | some (.object members) => some (Setting.membersOfJson members)
    | _ => none

end Format

/-- The names that lead from the working directory to a place below it. -/
abbrev Location := List String

/-- The texts of the files below the working directory. -/
abbrev Files := List (Location × String)

/-- The extension of a file name: what follows its last dot, unless that is also its first
character. -/
def extension? (name : String) : Option String :=
  let pieces := Text.pieces '.' name
  if pieces.length < 2 ∨ pieces.dropLast = [""] then none else pieces.getLast?

namespace Files

/-- The files whose paths are written with slashes. -/
def ofPairs (pairs : List (String × String)) : Files :=
  pairs.map fun (path, text) => ((Text.pieces '/' path).filter (· ∉ ["", "."]), text)

/-- Directories are the places with something below them, and the working directory. -/
def isDirectory (files : Files) (place : Location) : Bool :=
  place == [] || files.any fun file => place.isPrefixOf file.1 && place != file.1

/-- The place where some names lead, each of which is looked up in a directory. -/
def follow? (files : Files) (place : Location) : List String → Option Location
  | [] => some place
  | name :: rest =>
    if !files.isDirectory place then none
    else if name = "" ∨ name = "." then files.follow? place rest
    else if name = ".." then
      if place = [] then none else files.follow? place.dropLast rest
    else files.follow? (place ++ [name]) rest

/-- The file at the end of some names, with its own name. -/
def file? (files : Files) (names : List String) : Option (String × String) := do
  let place ← files.follow? [] names
  return (← place.getLast?, ← files.lookup place)

/-- What carries the extension of a format when a path ends in a slash. -/
def standIn : String := ".dummy"

/-- The names of a path with a format's extension. It goes after the last name, where slashes and
single dots at the end of the path do not count. A name that has an extension keeps it, and then
the format's goes to the very end of the path. A path to a parent has no last name. -/
def extended? (names : List String) (format : Format) : Option (List String) := do
  let lengthen (name : String) := name ++ "." ++ format.extension
  match names.reverse.dropWhile fun name => name = "" || name = "." with
  | [] => none
  | name :: above =>
    if name = ".." then none
    else if extension? name = none then return above.reverse ++ [lengthen name]
    else
      let ending ← names.getLast?
      return names.dropLast ++ [lengthen (if ending = "" then standIn else ending)]

/-- The format and the text of the file that a path stands for. A file of exactly that name is
taken even when its extension is of no format, and then has no answer. -/
def find? (files : Files) (path : String) : Option (Format × String) :=
  let names := Text.pieces '/' path
  if names.head? = some "" then none
  else match files.file? names with
    | some (name, text) => do return (← Format.ofExtension? (← extension? name), text)
    | none => Format.all.findSome? fun format => do
      let (_, text) ← files.file? (← extended? names format)
      return (format, text)

/-- The settings in the file that a path stands for. A byte order mark in front is skipped. -/
def settings? (files : Files) (path : String) : Option (List (String × Setting)) := do
  let (format, text) ← files.find? path
  format.settings? (String.ofList (Text.withoutMark text.toList))

end Files

end IdentityClaims.Configuration
