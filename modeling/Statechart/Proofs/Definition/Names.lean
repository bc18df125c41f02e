import Statechart.Proofs.Definition.Reach
/-!
Targets by name. A target names a chain of ids: an absolute one its own pieces, a bare one the
sibling with that id of the node that declares it, which may be the node itself. At the root, which
has no siblings, a bare id names the root if it is its id, and else a child of the root.
-/

namespace Statechart

namespace Target

theorem isAbsolute_iff {s : String} :
    isAbsolute s = true ↔ s.toList.head? = some '#' ∨ '.' ∈ s.toList := by
  simp [isAbsolute]

/-- A bare target contains no dot. -/
theorem dot_notMem_of_bare {s : String} (h : isAbsolute s = false) : '.' ∉ s.toList := by
  intro hdot
  rw [isAbsolute_iff.mpr (.inr hdot)] at h
  cases h

theorem parse?_of_absolute {s : String} (h : isAbsolute s = true) :
    parse? s = (StatePath.parse? s).map absolute := by
  rw [parse?, if_pos h]

theorem parse?_of_bare {s : String} (h : isAbsolute s = false) (hne : s ≠ "") :
    parse? s = some (relative s) := by
  rw [parse?, h]
  simp [hne]

theorem parse?_empty : parse? "" = none := rfl

theorem parse?_eq_absolute_iff {s : String} {p : StatePath} :
    parse? s = some (absolute p) ↔ isAbsolute s = true ∧ StatePath.parse? s = some p := by
  cases habs : isAbsolute s with
  | true => simp [parse?_of_absolute habs]
  | false =>
    by_cases hempty : s = ""
    · simp [hempty, parse?_empty]
    · simp [parse?_of_bare habs hempty]

theorem parse?_eq_relative_iff {s id : String} :
    parse? s = some (relative id) ↔ isAbsolute s = false ∧ s ≠ "" ∧ s = id := by
  cases habs : isAbsolute s with
  | true => simp [parse?_of_absolute habs]
  | false =>
    by_cases hempty : s = ""
    · simp [hempty, parse?_empty]
    · simp [parse?_of_bare habs hempty, hempty]

end Target

namespace Definition

/-- The ids that a target names when the node at `ids` declares it. -/
def targetOf (d : Definition) (ids : List String) (target : String) : List String :=
  if Target.isAbsolute target then splitDots (stripHash target)
  else if ids = [d.id] then (if target = d.id then [d.id] else [d.id, target])
  else ids.dropLast ++ [target]

variable {d : Definition} {ids : List String} {target : String}

theorem targetOf_of_absolute (h : Target.isAbsolute target = true) :
    d.targetOf ids target = splitDots (stripHash target) :=
  if_pos h

theorem targetOf_root_of_bare (h : Target.isAbsolute target = false) :
    d.targetOf [d.id] target = if target = d.id then [d.id] else [d.id, target] := by
  rw [targetOf, h, if_neg Bool.false_ne_true, if_pos rfl]

theorem targetOf_child_of_bare (h : Target.isAbsolute target = false) (hne : ids ≠ [])
    (id : String) : d.targetOf (ids ++ [id]) target = ids ++ [target] := by
  have hroot : ids ++ [id] ≠ [d.id] := by
    intro heq
    have hlen := congrArg List.length heq
    rw [List.length_append, List.length_singleton, List.length_singleton] at hlen
    have hpos := List.length_pos_iff.mpr hne
    omega
  rw [targetOf, h, if_neg Bool.false_ne_true, if_neg hroot, List.dropLast_concat]

/-- A target that names a node can be read. -/
theorem isSome_parse?_of_reaches (hd : d.Shaped) {n : Node}
    (h : d.Reaches (d.targetOf ids target) n) : (Target.parse? target).isSome := by
  have hvalid := hd.validId h
  cases habs : Target.isAbsolute target with
  | true =>
    rw [targetOf_of_absolute habs] at hvalid
    have hpieces : "" ∉ splitDots (stripHash target) := fun hmem => (hvalid "" hmem).1 rfl
    rw [Target.parse?_of_absolute habs, StatePath.parse?_eq_some_iff.mpr ⟨hpieces, rfl⟩]
    rfl
  | false =>
    -- the bare target is itself one of the ids
    have hmem : target ∈ d.targetOf ids target := by
      rw [targetOf, habs, if_neg Bool.false_ne_true]
      split
      · split
        · next heq => rw [heq]; exact List.mem_singleton_self _
        · simp
      · simp
    rw [Target.parse?_of_bare habs (hvalid target hmem).1]
    rfl

end Definition

end Statechart
