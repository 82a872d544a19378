import SchemaWipe.Named
import SchemaWipe.Text.Utf8

/-! The files that the program can read, and the paths that name them. -/
namespace SchemaWipe

/-- A path: where it starts and the names on the way. -/
structure Path where
  root : String
  parts : List (List Char)

namespace Path

/-- The pieces of a text between slashes. -/
def pieces : List Char → List (List Char)
  | [] => [[]]
  | c :: rest =>
    match pieces rest with
    | [] => [[c]]
    | piece :: more => if c = '/' then [] :: piece :: more else (c :: piece) :: more

/-- The root that a path starts with. Two slashes in front are a root of their own, three are one
slash. -/
def rootOf : List Char → String
  | '/' :: '/' :: '/' :: _ => "/"
  | '/' :: '/' :: _ => "//"
  | '/' :: _ => "/"
  | _ => ""

/-- Reads a path. Empty pieces and single points name no step of it. -/
def ofText (s : String) : Path :=
  ⟨rootOf s.toList, (pieces s.toList).filter fun piece => piece != [] && piece != ['.']⟩

/-- A path as it is shown: without needless slashes and points, and a single point for none. -/
def text (p : Path) : String :=
  let joined := p.root ++ "/".intercalate (p.parts.map String.ofList)
  if joined.isEmpty then "." else joined

end Path

namespace Files

/-- A place among files: a root, and the names from there, without detours. -/
abbrev Place := String × List (List Char)

/-- The name that leads out of a directory. -/
def up : List Char := ['.', '.']

/-- The place one step on from another. Out of a root it stays where it is; out of the working
directory it is one directory higher. -/
def next (place : Place) (step : List Char) : Place :=
  if step != up then (place.1, place.2 ++ [step])
  else match place.2.getLast? with
    | some name => if name = up then (place.1, place.2 ++ [up]) else (place.1, place.2.dropLast)
    | none => if place.1.isEmpty then (place.1, [up]) else place

end Files

/-- A path's places, from where it starts to where it leads. -/
def Path.places (p : Path) : List Files.Place :=
  p.parts.foldl (fun all step => all ++ [Files.next (all.getLast?.getD (p.root, [])) step])
    [(p.root, [])]

/-- Files and directories by their places. -/
structure Files where
  contents : List (Files.Place × ByteArray) := []
  directories : List Files.Place := []

namespace Files

/-- Whether a place lies at or below another. -/
def below (place other : Place) : Bool :=
  place.1 == other.1 && other.2.isPrefixOf place.2

/-- Whether a directory is at a place: one of its own, or one that something lies in. What leads
out of the working directory is always one. -/
def isDirectory (files : Files) (place : Place) : Bool :=
  place.2.all (· == up) || files.directories.any (below · place) ||
    files.contents.any fun (path, _) => below path place && place.2.length < path.2.length

/-- The content of the file at a path. All places on the way to it have to be directories. -/
def content? (files : Files) (path : Path) : Option ByteArray := do
  let way := path.places
  guard (way.dropLast.all files.isDirectory)
  files.contents.lookup (← way.getLast?)

/-- A directory added. -/
def addDirectory (files : Files) (path : String) : Files :=
  { files with directories := (Path.ofText path).places ++ files.directories }

/-- A file added or replaced. -/
def write (files : Files) (path : String) (content : ByteArray) : Files :=
  match (Path.ofText path).places.reverse with
  | [] => files
  | place :: way =>
    { contents := (place, content) :: files.contents, directories := way ++ files.directories }

end Files
end SchemaWipe
