import Statechart.Definition.Basic
import Statechart.Definition.Error
/-!
The ids of states: an id is not empty, contains no dot and does not start with `#`.
-/

namespace Statechart

/-- What is wrong with an id, the first fault that applies. -/
def idFault? (id : String) : Option IdFault :=
  if id.isEmpty then some .empty
  else if id.toList.contains '.' then some .containsDot
  else if id.toList.head? == some '#' then some .startsWithHash
  else none

/-- Refuses an id with a fault. -/
def checkId (id : String) : Except DefinitionError Unit :=
  match idFault? id with
  | some fault => .error (.invalidStateId id fault)
  | none => .ok ()

end Statechart
