import Statechart.Text.Cluster
/-!
Typed lines. A backspace takes back the cluster in front of it; what is left is the line that was
meant.
-/

namespace Statechart.Session

/-- The lines of an input: what stands behind the last line end is a line unless it is empty. -/
def linesOf (input : String) : List String :=
  let pieces := (input.toList.splitOn '\n').map String.ofList
  if pieces.getLast? == some "" then pieces.dropLast else pieces

namespace Line

/-- The backspace. -/
def backspace : Char := '\x08'

/-- What is left of a text, newest character first, when bytes are taken off its end; none where a
character would be cut. -/
def takeBack? (bytes : Nat) : List Char → Option (List Char)
  | [] => if bytes = 0 then some [] else none
  | c :: cs =>
    if bytes = 0 then some (c :: cs)
    else if c.utf8Size ≤ bytes then takeBack? (bytes - c.utf8Size) cs
    else none

/-- A line while it is typed: its characters, newest first, and the sizes of its clusters, newest
first. A size is kept in one byte. -/
structure Draft where
  characters : List Char := []
  sizes : List Nat := []

namespace Draft

/-- Takes the newest cluster back; there is nothing to do where none is left. -/
def takeBack? (d : Draft) : Option Draft :=
  match d.sizes with
  | [] => some d
  | n :: sizes => (Line.takeBack? n d.characters).map fun cs => ⟨cs, sizes⟩

/-- Adds a cluster. -/
def add (d : Draft) (cluster : List Char) : Draft :=
  ⟨cluster.reverse ++ d.characters, (String.ofList cluster).utf8ByteSize % 256 :: d.sizes⟩

/-- Types a cluster. -/
def type? (d : Draft) (cluster : List Char) : Option Draft :=
  if cluster = [backspace] then d.takeBack? else some (d.add cluster)

end Draft

/-- The line that was meant by what was typed; none where a backspace cuts a character, which happens
only behind a cluster of more than 255 bytes. -/
def meant? (typed : String) : Option String :=
  if typed.toList.contains backspace then
    ((Text.clusters typed.toList).foldlM Draft.type? {}).map fun d =>
      String.ofList d.characters.reverse
  else some typed

end Line

end Statechart.Session
