import Walkthrough.Text.Blank

/-!
Paths as texts, their parts between slashes.
-/

namespace Walkthrough.Path

open Text

/-- The parts of a path between its slashes, empty ones and the current directory left out. -/
def steps (cs : List Char) : List (List Char) :=
  (splitOnChar '/' cs).filter (fun part => !part.isEmpty && part != ['.'])

/-- The text up to the last slash, that included, and the text after it. -/
def splitLast (cs : List Char) : List Char × List Char :=
  let tail := (cs.reverse.takeWhile (· != '/')).reverse
  (cs.take (cs.length - tail.length), tail)

/-- A path without the slashes at its end, unless it is all slashes. -/
def dropSlashes (cs : List Char) : List Char :=
  if cs.all (· == '/') then cs else (cs.reverse.dropWhile (· == '/')).reverse

/-- The directory part of a path and the name after it. -/
def split (cs : List Char) : List Char × List Char :=
  let (head, tail) := splitLast cs
  (dropSlashes head, tail)

/-- The name after the last slash. -/
def baseName (cs : List Char) : List Char := (splitLast cs).2

/-- A path seen from a directory; an absolute path stays what it is. -/
def join (directory path : List Char) : List Char :=
  if path.head? == some '/' then path
  else if directory.isEmpty || directory.getLast? == some '/' then directory ++ path
  else directory ++ '/' :: path

/-- A name without its extension, and the extension with its dot. Dots at the beginning of a name
begin no extension. -/
def splitExtension (cs : List Char) : List Char × List Char :=
  let (head, name) := splitLast cs
  let dots := name.takeWhile (· == '.')
  let body := name.drop dots.length
  let extension := (body.reverse.takeWhile (· != '.')).reverse
  if extension.length == body.length then (cs, [])
  else (head ++ dots ++ body.take (body.length - extension.length - 1), '.' :: extension)

/-- The slashes that an absolute path keeps at its beginning: one, or two if there are exactly
two. -/
def rootOf (cs : List Char) : List Char :=
  let n := (cs.takeWhile (· == '/')).length
  if n == 0 then [] else if n == 2 then ['/', '/'] else ['/']

/-- A path put together from its root and its parts. -/
def ofSteps (root : List Char) (parts : List (List Char)) : List Char :=
  root ++ ['/'].intercalate parts

/-- A path written without repeated slashes and without the current directory. -/
def tidy (cs : List Char) : List Char :=
  let text := ofSteps (rootOf cs) (steps cs)
  if text.isEmpty then ['.'] else text

/-- The parts of an absolute path after its steps upwards were taken. -/
def climb (above : List (List Char)) : List (List Char) → List (List Char)
  | [] => above.reverse
  | part :: rest => if part = ['.', '.'] then climb above.tail rest else climb (part :: above) rest

/-- An absolute path without steps upwards. -/
def absolute (cs : List Char) : List Char := ofSteps (rootOf cs) (climb [] (steps cs))

end Walkthrough.Path
