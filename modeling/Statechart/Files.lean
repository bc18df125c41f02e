/-!
Files as the program sees them: a name either has a text or a reason why it has none. A directory is a
value of its own, with the rules by which a relative name leads through it.
-/

namespace Statechart

/-- Why a file cannot be read or written. -/
inductive FileFault
  | notFound
  | notDirectory
  | isDirectory
  | nameTooLong
  | nulInName
  | notText
  | other (text : String)
deriving DecidableEq, Repr

/-- The fault in words. -/
def FileFault.message : FileFault → String
  | notFound => "No such file or directory (os error 2)"
  | notDirectory => "Not a directory (os error 20)"
  | isDirectory => "Is a directory (os error 21)"
  | nameTooLong => "File name too long (os error 36)"
  | nulInName => "file name contained an unexpected NUL byte"
  | notText => "stream did not contain valid UTF-8"
  | other text => text

/-- What every name leads to. -/
abbrev Files := String → Except FileFault String

/-- The parts of a name between its slashes. -/
def nameParts (name : String) : List String := (name.toList.splitOn '/').map String.ofList

/-- The extension of a name: what stands behind the last dot of its last part, if something stands in
front of that dot. -/
def extension? (name : String) : Option String :=
  match ((nameParts name).filter fun p => p != "" && p != ".").getLast? with
  | none | some ".." => none
  | some last =>
    let cs := last.toList.reverse
    let ext := cs.takeWhile (· != '.')
    match cs.drop ext.length with
    | [] | [_] => none
    | _ => some (String.ofList ext.reverse)

/-- What stands under a name of a directory. -/
inductive Entry
  | file (bytes : ByteArray)
  | directory

/-- A directory: what stands under names of parts. A part in front of another one is a directory. -/
structure Directory where
  entries : List (List String × Entry)

namespace Directory

/-- A place reached from the directory: inside it, or so many levels above it. -/
inductive Place
  | inside (parts : List String)
  | above (levels : Nat)

/-- What stands at a list of parts. -/
def entry? (d : Directory) (parts : List String) : Option Entry :=
  if parts.isEmpty then some .directory
  else
    match d.entries.find? fun e => e.1 == parts with
    | some (_, e) => some e
    | none => if d.entries.any fun e => parts.isPrefixOf e.1 then some .directory else none

/-- Takes one step from a directory. Nothing is known above the directory. -/
def step (d : Directory) (place : Place) (part : String) : Except FileFault Place :=
  match place with
  | .above n =>
    if part == "" || part == "." then .ok (.above n)
    else if part == ".." then .ok (.above (n + 1))
    else .error .notFound
  | .inside parts =>
    match d.entry? parts with
    | none => .error .notFound
    | some (.file _) => .error .notDirectory
    | some .directory =>
      if part == "" || part == "." then .ok (.inside parts)
      else if part == ".." then
        if parts.isEmpty then .ok (.above 1) else .ok (.inside parts.dropLast)
      else if 255 < part.utf8ByteSize then .error .nameTooLong
      else .ok (.inside (parts ++ [part]))

/-- Refuses a text that names nothing at all. -/
def checkName (name : String) : Except FileFault Unit :=
  if name.toList.contains '\x00' then .error .nulInName
  else if name.isEmpty then .error .notFound
  else if 4095 < name.utf8ByteSize then .error .nameTooLong
  else .ok ()

/-- Follows the parts of a name to the place they lead to. -/
def walk (d : Directory) : List String → Except FileFault Place
  | "" :: parts => parts.foldlM d.step (.above 0)
  | parts => parts.foldlM d.step (.inside [])

/-- Follows a name to the place it leads to. -/
def follow (d : Directory) (name : String) : Except FileFault Place := do
  checkName name
  d.walk (nameParts name)

/-- Reads a file as text. -/
def read (d : Directory) (name : String) : Except FileFault String := do
  match ← d.follow name with
  | .above _ => .error .isDirectory
  | .inside parts =>
    match d.entry? parts with
    | none => .error .notFound
    | some .directory => .error .isDirectory
    | some (.file bytes) =>
      match String.fromUTF8? bytes with
      | some s => .ok s
      | none => .error .notText

/-- Writes a text into a file, which is created if it is not there. A name that ends in a slash or in
dots means a directory, whatever stands there. -/
def write (d : Directory) (name text : String) : Except FileFault Directory := do
  checkName name
  let parts := nameParts name
  let bare := (parts.reverse.dropWhile (· == "")).reverse
  match bare.getLast? with
  | none => .error .isDirectory
  | some last =>
    let parent ← d.step (← d.walk bare.dropLast) ""
    if bare.length < parts.length || last == "." || last == ".." then .error .isDirectory
    else
      match ← d.step parent last with
      | .above _ => .error .isDirectory
      | .inside parts =>
        match d.entry? parts with
        | some .directory => .error .isDirectory
        | _ => .ok ⟨(parts, .file text.toUTF8) :: d.entries.filter fun e => e.1 != parts⟩

end Directory

end Statechart
