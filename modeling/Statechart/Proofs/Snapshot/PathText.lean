import Statechart.Proofs.Interpreter.ActivePath
import Statechart.Proofs.Json.Printer
import Statechart.Proofs.Text.Segments
/-!
Paths written as texts and read back. Any list of texts can be taken as a path, and not every path can
be read back from its text; which ones can is said by their segments. Main statement: these conditions
are exact, as are those under which a text is read at all, and the paths of a machine and of its
interpreters meet them, so that they can be stored as JSON strings and told apart by their texts.
-/

namespace Statechart

/-- Taking away a leading mark changes a text that has one. -/
theorem head?_ne_of_stripHash_eq {s : String} (h : stripHash s = s) : s.toList.head? ≠ some '#' := by
  intro hhash
  obtain ⟨rest, hchars⟩ := List.head?_eq_some_iff.mp hhash
  have hstrip : stripHash s = String.ofList rest := by
    simp only [stripHash, hchars]
  have hlength := congrArg (fun t : String => t.toList.length) (hstrip.symm.trans h)
  simp [hchars] at hlength

namespace StatePath

variable {p : StatePath} {s : String}

/-- A path that can be read back from its text. -/
structure Legible (p : StatePath) : Prop where
  ne_nil : p.segments ≠ []
  segments : ∀ id ∈ p.segments, id ≠ "" ∧ '.' ∉ id.toList
  unmarked : p.root.toList.head? ≠ some '#'

/-- A path is read back from the JSON string into which it is written, as a value and as a text. -/
def Survives (p : StatePath) : Prop :=
  read? (.ofValue p.toJson) = some p ∧
    (Json.Document.parse? p.toJson.compact).bind read? = some p

theorem Legible.parse?_display (h : p.Legible) : parse? p.display = some p := by
  obtain ⟨id, rest, hsegments⟩ := List.exists_cons_of_ne_nil h.ne_nil
  have hp : p = ⟨id :: rest⟩ := StatePath.ext hsegments
  have hid : id ≠ "" ∧ '.' ∉ id.toList := h.segments id (by simp [hsegments])
  have hroot : id.toList.head? ≠ some '#' := by
    have hunmarked := h.unmarked
    rwa [root, hsegments] at hunmarked
  have hstrip : stripHash p.display = p.display := by
    rw [hp]
    exact stripHash_display ⟨hid.1, hid.2, hroot⟩ rest
  have hpieces : splitDots p.display = p.segments :=
    splitDots_intercalate (fun id hid => (h.segments id hid).2) h.ne_nil
  rw [parse?_eq_some_iff, hstrip, hpieces]
  exact ⟨fun hempty => (h.segments "" hempty).1 rfl, rfl⟩

theorem legible_of_parse?_display (h : parse? p.display = some p) : p.Legible := by
  obtain ⟨hpieces, hp⟩ := parse?_eq_some_iff.mp h
  have hsegments : p.segments = splitDots (stripHash p.display) := congrArg segments hp
  rw [← hsegments] at hpieces
  have hne : p.segments ≠ [] := by
    rw [hsegments]
    exact splitDots_ne_nil _
  refine ⟨hne, ?_, ?_⟩
  · intro id hid
    refine ⟨fun hempty => hpieces (hempty ▸ hid), ?_⟩
    rw [hsegments] at hid
    exact dot_notMem_of_mem_splitDots hid
  · -- a mark in front of the first segment would be a mark in front of the text
    have hmark := head?_ne_of_stripHash_eq (display_of_parse? h).symm
    obtain ⟨id, rest, hcons⟩ := List.exists_cons_of_ne_nil hne
    have hid : id ≠ "" := by
      rintro rfl
      exact hpieces (by simp [hcons])
    rw [show p = ⟨id :: rest⟩ from StatePath.ext hcons, head?_display hid] at hmark
    rwa [root, hcons]

theorem parse?_display_iff : parse? p.display = some p ↔ p.Legible :=
  ⟨legible_of_parse?_display, Legible.parse?_display⟩

/-- A text is not read as a path if and only if one of its segments has no characters. -/
theorem parse?_eq_none_iff : parse? s = none ↔ HasEmptySegment (stripHash s) := by
  rw [← empty_mem_splitDots_iff, Option.eq_none_iff_forall_ne_some]
  simp [parse?_eq_some_iff]

theorem Legible.survives (h : p.Legible) : p.Survives := by
  have hread : read? (.string p.display) = some p := h.parse?_display
  have hintegral : (Json.Value.string p.display).Integral := trivial
  refine ⟨hread, ?_⟩
  rw [toJson, Json.Document.parse?_compact hintegral, Option.bind_some]
  exact hread

end StatePath

/-! ## The paths of a machine -/

/-- The path of a slot consists of ids that states may have. -/
theorem Definition.Placed.legible {d : Definition} (hd : d.Shaped) {q : Nat} {u : Slot}
    (hu : d.Placed q u) : u.path.Legible := by
  have hvalid := hd.validId hu.reaches.1
  refine ⟨hu.reaches.1.ne_nil, fun id hid => ⟨(hvalid id hid).1, (hvalid id hid).2.1⟩, ?_⟩
  obtain ⟨rest, hsegments, -⟩ := hu.reaches.1
  rw [StatePath.root, hsegments]
  exact hd.id.2.2

/-- An interpreter at rest shows the path of a slot. -/
theorem Interpreter.Rests.exists_placed {C : Type} {i : Interpreter C} {m : Machine}
    {d : Definition} (hm : m.Realizes d) (h : i.Rests m d) :
    ∃ q u, d.Placed q u ∧ u.path = i.snapshot.path := by
  obtain ⟨ids, ha⟩ := h.active
  have hpath : i.snapshot.path = ⟨ids⟩ := by
    rw [Interpreter.snapshot, h.machine]
    exact hm.pathOf_of_restsAt ha
  obtain ⟨q, u, hu, -, hids, -⟩ := ha
  exact ⟨q, u, hu, by rw [hpath, ← hids]⟩

namespace Machine

/-- The paths that a machine shows: those of its states, and those of the snapshots of its
interpreters, after any calls. -/
inductive Shows (m : Machine) : StatePath → Prop
  | state {q : Nat} {t : State} (h : m.state? q = some t) : m.Shows t.path
  | snapshot {C : Type} (context : C) (ops : List (Operation C)) :
    m.Shows ((Interpreter.new m context).performAll ops).snapshot.path

theorem Realizes.exists_placed_of_shows {m : Machine} {d : Definition} (h : m.Realizes d)
    {p : StatePath} (hp : m.Shows p) : ∃ q u, d.Placed q u ∧ u.path = p := by
  cases hp with
  | state ht =>
    obtain ⟨u, hu, hfills⟩ := h.placed_of_state ht
    exact ⟨_, u, hu, hfills.path.symm⟩
  | snapshot context ops => exact (Interpreter.rests_performAll h context ops).exists_placed h

end Machine

namespace StatePath

/-- A path can be read back from its text exactly if it has a segment, no segment is empty or contains
a dot, and the first one does not start with `#`. What is read from a text is shown as that text, but
for one leading `#`, and nothing is read exactly if the rest is empty or has an empty segment. The
paths of a machine and of its interpreters survive as JSON strings and are told apart by their
texts. -/
theorem reads_back :
    (∀ p : StatePath, parse? p.display = some p ↔
      p.segments ≠ [] ∧ (∀ id ∈ p.segments, id ≠ "" ∧ '.' ∉ id.toList) ∧
        p.root.toList.head? ≠ some '#') ∧
      (∀ (s : String) (p : StatePath), parse? s = some p → p.display = stripHash s) ∧
      (∀ s : String, parse? s = none ↔ stripHash s = "" ∨ HasEmptySegment (stripHash s)) ∧
      ∀ {d : Definition} {m : Machine}, Machine.ofDefinition d = .ok m →
        (∀ p, m.Shows p → p.Survives) ∧
          ∀ p q, m.Shows p → m.Shows q → p.display = q.display → p = q := by
  refine ⟨?_, fun s p => display_of_parse?, ?_, ?_⟩
  · intro p
    rw [parse?_display_iff]
    exact ⟨fun h => ⟨h.ne_nil, h.segments, h.unmarked⟩, fun h => ⟨h.1, h.2.1, h.2.2⟩⟩
  · intro s
    have hempty : stripHash s = "" → HasEmptySegment (stripHash s) := by
      intro hs
      rw [hs]
      exact hasEmptySegment_empty
    rw [parse?_eq_none_iff, or_iff_right_of_imp hempty]
  · intro d m h
    have hm := Machine.realizes_of_ofDefinition h
    constructor
    · intro p hp
      obtain ⟨q, u, hu, rfl⟩ := hm.exists_placed_of_shows hp
      exact (hu.legible hm.shaped).survives
    · intro p p' hp hp' hdisplay
      obtain ⟨q, u, hu, rfl⟩ := hm.exists_placed_of_shows hp
      obtain ⟨q', u', hu', rfl⟩ := hm.exists_placed_of_shows hp'
      exact hu.path_eq_of_display hm.shaped hu' hdisplay

/-- A text with two marks is read, but its path is not read back. The path of an order that was paid
survives, and is the one of the state in which orders are processed. -/
theorem reads_back_order :
    let marked : StatePath := ⟨["#order", "active"]⟩
    let i := (Interpreter.new Machine.order ()).performAll [.start none, .send { type := "PAY" }]
    parse? "##order.active" = some marked ∧ marked.display = "#order.active" ∧
      parse? marked.display ≠ some marked ∧ parse? "#order..active" = none ∧
      Machine.ofDefinition .order = .ok .order ∧ i.snapshot.path.Survives ∧
      ∃ t, Machine.order.state? 3 = some t ∧ t.path.display = i.snapshot.path.display ∧
        t.path = i.snapshot.path := by
  intro marked i
  obtain ⟨hlegible, hshown, hnone, hmachine⟩ := reads_back
  obtain ⟨hsurvives, hsame⟩ := hmachine Machine.ofDefinition_order
  have hread : parse? "##order.active" = some marked := by decide
  have hsnapshot : Machine.order.Shows i.snapshot.path := .snapshot () _
  refine ⟨hread, ?_, ?_, ?_, Machine.ofDefinition_order, hsurvives _ hsnapshot, ?_⟩
  · rw [hshown _ _ hread]
    decide
  · intro hback
    exact ((hlegible marked).mp hback).2.2 (by decide)
  · exact (hnone _).mpr (.inr ⟨"order.".toList, ".active".toList, rfl, .inr rfl, .inr rfl⟩)
  · have hpath : i.snapshot.path.display = "order.active.processing" := by rfl
    have hstate : ∃ t, Machine.order.state? 3 = some t ∧
        t.path.display = "order.active.processing" := ⟨_, rfl, rfl⟩
    obtain ⟨t, ht, hdisplay⟩ := hstate
    rw [← hpath] at hdisplay
    exact ⟨t, ht, hdisplay, hsame _ _ (.state ht) hsnapshot hdisplay⟩

end StatePath

end Statechart
