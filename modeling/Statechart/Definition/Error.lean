/-!
What can be wrong with a definition. Each cause has a stable code and a text.
-/

namespace Statechart

/-- What is wrong with a state id. -/
inductive IdFault
  | empty
  | containsDot
  | startsWithHash
deriving DecidableEq, Repr

/-- The fault in words. -/
def IdFault.reason : IdFault → String
  | .empty => "must not be empty"
  | .containsDot => "must not contain '.'"
  | .startsWithHash => "must not start with '#'"

/-- What is wrong with a definition. States are named by the text of their path. -/
inductive DefinitionError
  | missingInitial (state : String)
  | unknownInitial (state initial : String)
  | initialWithoutChildren (state initial : String)
  | duplicateState (parent id : String)
  | invalidStateId (id : String) (fault : IdFault)
  | unresolvedTarget (state event target : String)
  /-- A text or value is not the written form of a definition, for which the parser has the words. -/
  | malformed (words : String)
deriving DecidableEq, Repr

namespace DefinitionError

/-- The stable code. -/
def code : DefinitionError → String
  | missingInitial .. => "MISSING_INITIAL"
  | unknownInitial .. => "UNKNOWN_INITIAL"
  | initialWithoutChildren .. => "INITIAL_WITHOUT_CHILDREN"
  | duplicateState .. => "DUPLICATE_STATE"
  | invalidStateId .. => "INVALID_STATE_ID"
  | unresolvedTarget .. => "UNRESOLVED_TARGET"
  | malformed _ => "INVALID_JSON"

/-- The cause in words. -/
def message : DefinitionError → String
  | missingInitial state => "compound state '" ++ state ++ "' has no initial child"
  | unknownInitial state initial =>
    "initial state '" ++ initial ++ "' is not a child of '" ++ state ++ "'"
  | initialWithoutChildren state initial =>
    "atomic state '" ++ state ++ "' declares initial '" ++ initial ++ "' but has no children"
  | duplicateState parent id => "duplicate state id '" ++ id ++ "' under '" ++ parent ++ "'"
  | invalidStateId id fault => "invalid state id '" ++ id ++ "': " ++ fault.reason
  | unresolvedTarget state event target =>
    "transition target '" ++ target ++ "' on event '" ++ event ++ "' in state '" ++ state ++
      "' does not resolve"
  | malformed words => "JSON error: " ++ words

end DefinitionError

end Statechart
