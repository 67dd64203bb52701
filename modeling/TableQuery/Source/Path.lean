import TableQuery.Text.LowerCase
import TableQuery.Text.Occurrence

/-!
Names of files.

The name of a file is the last part of its path. What follows the last dot of the name is its extension; a dot that
starts the name begins no extension.
-/

namespace TableQuery.Path

/-- The parts of a path between slashes. -/
def parts : List Char → List (List Char)
  | [] => [[]]
  | c :: rest =>
    match parts rest with
    | [] => [[c]]
    | part :: others => if c = '/' then [] :: part :: others else (c :: part) :: others

/-- The last part of a path, where empty parts and single dots do not count; two dots are not the name of a file. -/
def name? (path : String) : Option (List Char) :=
  ((parts path.toList).filter fun part => part != [] && part != ['.']).getLast?.filter (· != ['.', '.'])

/-- The name of a file up to the last dot, and the extension behind it. -/
def splitName (name : List Char) : List Char × Option (List Char) :=
  match Text.splitLast '.' name with
  | some ([], _) | none => (name, none)
  | some (stem, extension) => (stem, some extension)

/-- The name of the file at a path, without the extension. -/
def stem? (path : String) : Option String := (name? path).map fun name => String.ofList (splitName name).1

def extension? (path : String) : Option (List Char) := (name? path).bind fun name => (splitName name).2

/-- The extension with its ASCII letters in lower case; empty if there is none. -/
def lowerExtension (path : String) : String := String.ofList (Text.asciiLower ((extension? path).getD []))

/-- Whether a path has one of some extensions, in any letter case. -/
def hasExtension (path : String) (extensions : List (List Char)) : Bool :=
  (extension? path).any fun extension => extensions.any (Text.eqIgnoringCase extension)

end TableQuery.Path
