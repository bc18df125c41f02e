/-!
What a program leaves behind when it ends.
-/

namespace Statechart

/-- An exit code, the text printed, and the line with which a command reports its failure, if it
fails. What else goes to standard error is left out: lines that are logged, help with the arguments,
and what is printed of a failure that is the result of the whole program. -/
structure Exit where
  code : Nat
  out : String := ""
  err : Option String := none
deriving DecidableEq, Repr

end Statechart
