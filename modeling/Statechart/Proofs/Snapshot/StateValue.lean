import Statechart.Proofs.Interpreter.Checkpoint
import Statechart.Proofs.Snapshot.PathText
/-!
State values. The value of a path nests the ids below the root, and it is built from the leaf
outwards. Main statement: the ids can be read back from the value of any path, so that over one
machine the value says which states are active.
-/

namespace Statechart

/-- The ids that a nested value says, from the outside in. A string says itself, an object with a single
member the name of the member and what is said inside, and the empty object says nothing; a value
that has any other shape somewhere along the way says no ids at all. -/
def Json.Value.nestedIds? : Json.Value → Option (List String)
  | .string id => some [id]
  | .object [(id, inner)] => inner.nestedIds?.map (id :: ·)
  | .object [] => some []
  | _ => none

namespace StatePath

/-- Each turn of the loop puts one more id in front of what the value says. -/
theorem nestedIds?_foldl {inner : Json.Value} {ids : List String} (h : inner.nestedIds? = some ids)
    (above : List String) :
    (above.foldl (fun inner id => Json.Value.object [(id, inner)]) inner).nestedIds? =
      some (above.reverse ++ ids) := by
  induction above generalizing inner ids with
  | nil => simpa using h
  | cons id above ih =>
    have hnested : (Json.Value.object [(id, inner)]).nestedIds? = some (id :: ids) := by
      rw [Json.Value.nestedIds?, h, Option.map_some]
    rw [List.foldl_cons, ih hnested, List.reverse_cons, List.append_assoc]
    rfl

/-- The value of a path says the ids below the root. -/
theorem nestedIds?_value (p : StatePath) : p.value.nestedIds? = some p.segments.tail := by
  unfold value
  split
  · next hnil =>
    have htail : p.segments.tail = [] := List.reverse_eq_nil_iff.mp hnil
    rw [htail]
    rfl
  · next leaf above hcons =>
    -- the loop starts at the leaf and goes on with the ids above it
    have htail : p.segments.tail = above.reverse ++ [leaf] := by
      rw [← List.reverse_reverse p.segments.tail, hcons, List.reverse_cons]
    rw [nestedIds?_foldl rfl, htail]

theorem tail_eq_of_value_eq {p q : StatePath} (h : p.value = q.value) :
    p.segments.tail = q.segments.tail := by
  have hids := congrArg Json.Value.nestedIds? h
  rwa [nestedIds?_value, nestedIds?_value, Option.some.injEq] at hids

end StatePath

namespace Interpreter

variable {C C' : Type} {i : Interpreter C} {j : Interpreter C'} {m : Machine} {d : Definition}

/-- Over one machine all paths start with the same id, so that the value says the whole path. -/
theorem path_eq_of_value_eq (hm : m.Realizes d) (hi : i.Rests m d) (hj : j.Rests m d)
    (h : i.snapshot.value = j.snapshot.value) : i.snapshot.path = j.snapshot.path := by
  have htail := StatePath.tail_eq_of_value_eq h
  obtain ⟨q, u, hu, hpath⟩ := hi.exists_placed hm
  obtain ⟨q', u', hu', hpath'⟩ := hj.exists_placed hm
  rw [← hpath, ← hpath'] at htail ⊢
  obtain ⟨rest, hsegments, -⟩ := hu.reaches.1
  obtain ⟨rest', hsegments', -⟩ := hu'.reaches.1
  rw [hsegments, hsegments', List.tail_cons, List.tail_cons] at htail
  apply StatePath.ext
  rw [hsegments, hsegments', htail]

/-- The value of any path says the ids below its root. So wherever two runs on one machine have come,
equal values mean that the same states are active. -/
theorem value_says_configuration :
    (∀ p : StatePath, p.value.nestedIds? = some p.segments.tail) ∧
      ∀ {m : Machine} {d : Definition}, Machine.ofDefinition d = .ok m →
        ∀ {C C' : Type} (context : C) (ops : List (Operation C)) (context' : C')
          (ops' : List (Operation C')),
          let i := (new m context).performAll ops
          let j := (new m context').performAll ops'
          i.snapshot.value = j.snapshot.value → i.active = j.active := by
  refine ⟨StatePath.nestedIds?_value, ?_⟩
  intro m d h C C' context ops context' ops' i j hvalue
  have hm := Machine.realizes_of_ofDefinition h
  have hi : i.Rests m d := rests_performAll hm context ops
  have hj : j.Rests m d := rests_performAll hm context' ops'
  exact active_eq_of_path_eq hm hj hi (path_eq_of_value_eq hm hi hj hvalue)

/-- Two ways to an order that is being processed. -/
theorem value_says_configuration_order :
    let i := (new Machine.order ()).performAll [.start none, .send { type := "PAY" }]
    let j := (new Machine.order 0).performAll [.startAt "active" none]
    Machine.ofDefinition .order = .ok .order ∧
      i.snapshot.value.nestedIds? = some ["active", "processing"] ∧
      i.snapshot.value = j.snapshot.value ∧ i.active = j.active := by
  intro i j
  obtain ⟨hids, hactive⟩ := value_says_configuration
  have hvalue : i.snapshot.value = j.snapshot.value := by rfl
  exact ⟨Machine.ofDefinition_order, hids i.snapshot.path, hvalue,
    hactive Machine.ofDefinition_order () _ 0 _ hvalue⟩

end Interpreter

end Statechart
