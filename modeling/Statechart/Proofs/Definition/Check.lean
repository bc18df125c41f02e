import Statechart.Proofs.Definition.Reach
/-!
The structural rules of a definition as a check of its own, apart from any layout. The first
violation in document order is reported; a repeated id before anything inside the repeated state, an
unknown initial child after everything inside the children. Main statement: the check passes if and
only if every node follows the rules.
-/

namespace Statechart

namespace Node

mutual

/-- Checks a node below its id. -/
def check (path : StatePath) : Node → Except DefinitionError Unit
  | mk none [] _ => .ok ()
  | mk (some initial) [] _ => .error (.initialWithoutChildren path.display initial)
  | mk none (_ :: _) _ => .error (.missingInitial path.display)
  | mk (some initial) (s :: rest) _ =>
    match checkStates path [] (s :: rest) with
    | .error e => .error e
    | .ok () =>
      if initial ∈ (s :: rest).map Prod.fst then .ok ()
      else .error (.unknownInitial path.display initial)

/-- Checks the child states of a node; `seen` holds the ids before them. -/
def checkStates (path : StatePath) (seen : List String) :
    List (String × Node) → Except DefinitionError Unit
  | [] => .ok ()
  | (id, n) :: rest =>
    if id ∈ seen then .error (.duplicateState path.display id)
    else
      match checkId id with
      | .error e => .error e
      | .ok () =>
        match check (path.child id) n with
        | .error e => .error e
        | .ok () => checkStates path (id :: seen) rest

end

theorem checkStates_cons_eq_ok_iff {path : StatePath} {seen : List String} {id : String} {n : Node}
    {rest : List (String × Node)} :
    checkStates path seen ((id, n) :: rest) = .ok () ↔
      id ∉ seen ∧ ValidId id ∧ n.check (path.child id) = .ok () ∧
        checkStates path (id :: seen) rest = .ok () := by
  rw [checkStates, ← checkId_eq_ok_iff]
  by_cases hseen : id ∈ seen
  · simp [hseen]
  · cases hid : checkId id with
    | error e => simp [hseen]
    | ok _ => cases hn : n.check (path.child id) <;> simp [hseen]

theorem check_mk_cons_eq_ok_iff {path : StatePath} {initial : Option String} {s : String × Node}
    {rest : List (String × Node)} {on : Table String} :
    (mk initial (s :: rest) on).check path = .ok () ↔
      (∃ id ∈ (s :: rest).map Prod.fst, initial = some id) ∧
        checkStates path [] (s :: rest) = .ok () := by
  cases initial with
  | none => simp [check]
  | some id =>
    rw [check]
    cases hstates : checkStates path [] (s :: rest) with
    | error e => simp
    | ok _ => by_cases hid : id ∈ (s :: rest).map Prod.fst <;> simp_all

/-- The check of a node depends on its children only. -/
theorem sound_mk_cons_iff {initial : Option String} {s : String × Node}
    {rest : List (String × Node)} {on : Table String} :
    (mk initial (s :: rest) on).Sound ↔
      (∃ id ∈ (s :: rest).map Prod.fst, initial = some id) ∧
        (∀ id ∈ (s :: rest).map Prod.fst, ValidId id) ∧ ((s :: rest).map Prod.fst).Nodup := by
  constructor
  · intro h
    obtain ⟨id, hid⟩ := Option.isSome_iff_exists.mp (h.initial_iff.mpr (List.cons_ne_nil s rest))
    exact ⟨⟨id, h.initial_mem id hid, hid⟩, h.ids, h.distinct⟩
  · intro hexists
    obtain ⟨⟨id, hmem, rfl⟩, hids, hnd⟩ := hexists
    refine ⟨hids, hnd, by simp, ?_⟩
    intro id' heq
    cases heq
    exact hmem

theorem sound_mk_nil_iff {initial : Option String} {on : Table String} :
    (mk initial [] on).Sound ↔ initial = none := by
  constructor
  · intro h
    cases initial with
    | none => rfl
    | some id => exact absurd rfl (h.initial_iff.mp rfl)
  · intro heq
    subst heq
    refine ⟨?_, List.nodup_nil, by simp, ?_⟩
    · intro id hid
      cases hid
    · intro id hid
      cases hid

mutual

/-- A node passes the check if and only if it and all nodes below it follow the rules. -/
theorem check_eq_ok_iff : ∀ (n : Node) (path : StatePath), n.check path = .ok () ↔ n.Shaped
  | mk initial [] on, path => by
    rw [shaped_iff, sound_mk_nil_iff]
    cases initial <;> simp [check]
  | mk initial (s :: rest) on, path => by
    rw [check_mk_cons_eq_ok_iff, checkStates_eq_ok_iff (s :: rest) path [], shaped_iff,
      sound_mk_cons_iff, states_mk]
    constructor
    · intro hparts
      obtain ⟨hinitial, hids, hnd, hshaped⟩ := hparts
      exact ⟨⟨hinitial, fun id hid => (hids id hid).2, hnd⟩, hshaped⟩
    · intro hparts
      obtain ⟨⟨hinitial, hids, hnd⟩, hshaped⟩ := hparts
      exact ⟨hinitial, fun id hid => ⟨List.not_mem_nil, hids id hid⟩, hnd, hshaped⟩

theorem checkStates_eq_ok_iff : ∀ (states : List (String × Node)) (path : StatePath)
    (seen : List String),
    checkStates path seen states = .ok () ↔
      (∀ id ∈ states.map Prod.fst, id ∉ seen ∧ ValidId id) ∧ (states.map Prod.fst).Nodup ∧
        ∀ c ∈ states, c.2.Shaped
  | [], path, seen => by simp [checkStates]
  | (id, n) :: rest, path, seen => by
    rw [checkStates_cons_eq_ok_iff, check_eq_ok_iff n, checkStates_eq_ok_iff rest, List.map_cons,
      List.forall_mem_cons, List.nodup_cons, List.forall_mem_cons]
    simp only [List.mem_cons, not_or]
    constructor
    · intro hparts
      obtain ⟨hseen, hid, hn, hrest, hnd, hshaped⟩ := hparts
      refine ⟨⟨⟨hseen, hid⟩, fun k hk => ⟨(hrest k hk).1.2, (hrest k hk).2⟩⟩, ⟨?_, hnd⟩, hn,
        hshaped⟩
      -- the id has been seen when the siblings behind it are checked
      intro hmem
      exact (hrest id hmem).1.1 rfl
    · intro hparts
      obtain ⟨⟨⟨hseen, hid⟩, hrest⟩, ⟨hnotMem, hnd⟩, hn, hshaped⟩ := hparts
      refine ⟨hseen, hid, hn, fun k hk => ⟨⟨?_, (hrest k hk).1⟩, (hrest k hk).2⟩, hnd, hshaped⟩
      intro heq
      subst heq
      exact hnotMem hk

end

end Node

namespace Definition

/-- Checks the structure of a definition. -/
def check (d : Definition) : Except DefinitionError Unit :=
  match checkId d.id with
  | .error e => .error e
  | .ok () => d.root.check d.rootPath

theorem check_eq_ok_iff {d : Definition} : d.check = .ok () ↔ d.Shaped := by
  have hshaped : d.Shaped ↔ ValidId d.id ∧ d.root.Shaped :=
    ⟨fun h => ⟨h.id, h.root⟩, fun h => ⟨h.1, h.2⟩⟩
  rw [hshaped, ← checkId_eq_ok_iff, ← Node.check_eq_ok_iff d.root d.rootPath, check]
  cases hid : checkId d.id <;> simp

end Definition

end Statechart
