import Statechart.Machine.Basic
import Statechart.Text.Blank
/-!
The state tree as text: every state on a line of its own, indented by its depth and marked if it is
the initial one among its siblings, its transitions below it.
-/

namespace Statechart

/-- The indentation at a depth. -/
def indentation (depth : Nat) : String := String.ofList (List.replicate (2 * depth) ' ')

namespace Machine

/-- The lines of one state, each ended. -/
def stateLines (m : Machine) (s : State) (depth : Nat) (isInitial : Bool) : String :=
  indentation depth ++ (if isInitial then "*" else " ") ++ s.id ++ "\n" ++
    String.join (s.transitions.entries.map fun (event, t) =>
      indentation depth ++ "    " ++ event ++ " -> " ++
        ((m.state? t.node).map fun s => s.path.relative).getD "" ++ "\n")

/-- The lines of a state and everything below it; `fuel` bounds the depth. -/
def treeFrom (m : Machine) : Nat → Nat → Nat → Bool → String
  | 0, _, _, _ => ""
  | fuel + 1, i, depth, isInitial =>
    match m.state? i with
    | none => ""
    | some s =>
      m.stateLines s depth isInitial ++
        String.join (s.children.map fun c =>
          treeFrom m fuel c (depth + 1) (s.initial == some c))

/-- The state tree, without blanks at its end. -/
def tree (m : Machine) : String := Text.trimEnd (m.treeFrom (m.size + 1) root 0 false)

end Machine

end Statechart
