import Statechart.Json.Reader
import Statechart.Proofs.Json.Document
/-!
What is read from text is a document of JSON, but for leaves without a value. Main statement: a
document that is read and found readable is a document of JSON.
-/

namespace Statechart.Json

namespace Document

/-- A document of JSON but for its unreadable leaves. -/
def Plain (t : Document) : Prop := ∀ levels, t.readable levels = true → t.IsJson

variable {levels : Nat}

theorem readable_of_mem {items : List Document} (h : readableItems levels items = true)
    {d : Document} (hd : d ∈ items) : d.readable levels = true := by
  induction items with
  | nil => cases hd
  | cons d' rest ih =>
    rw [readableItems, Bool.and_eq_true] at h
    rcases List.mem_cons.mp hd with rfl | hd
    · exact h.1
    · exact ih h.2 hd

theorem readable_of_mem_fields {ms : List (String × Document)}
    (h : readableEntries levels (fields ms) = true) {m : String × Document} (hm : m ∈ ms) :
    m.2.readable levels = true := by
  induction ms with
  | nil => cases hm
  | cons m' rest ih =>
    rw [fields_cons, readableEntries, Bool.and_eq_true] at h
    rcases List.mem_cons.mp hm with rfl | hm
    · exact h.1
    · exact ih h.2 hm

theorem plain_unreadable : Plain .unreadable := by
  intro levels h
  simp [readable] at h

theorem IsJson.plain {t : Document} (h : t.IsJson) : t.Plain := fun _ _ => h

theorem plain_array {items : List Document} (h : ∀ d ∈ items, d.Plain) : (array items).Plain := by
  intro levels hreadable
  cases levels with
  | zero => simp [readable] at hreadable
  | succ levels => exact .array fun d hd => h d hd levels (readable_of_mem hreadable hd)

theorem plain_object {ms : List (String × Document)} (h : ∀ m ∈ ms, m.2.Plain) :
    (Document.object (fields ms)).Plain := by
  intro levels hreadable
  cases levels with
  | zero => simp [readable] at hreadable
  | succ levels => exact .object fun m hm => h m hm levels (readable_of_mem_fields hreadable hm)

end Document

open Document (Plain plain_unreadable plain_array plain_object)

theorem plain_readNumber {cs rest : List Char} {d : Document}
    (h : readNumber cs = some (d, rest)) : d.Plain := by
  simp only [readNumber, Option.bind_eq_bind, Option.pure_def] at h
  split at h
  all_goals
    obtain ⟨⟨n, left⟩, -, hread⟩ := Option.bind_eq_some_iff.mp h
    cases hread
    split
    · exact (Document.IsJson.number _).plain
    · exact plain_unreadable

/-! ## One step of each reader -/

/-- What is read with some fuel as the items of an array. -/
def ItemsPlain (fuel : Nat) : Prop :=
  ∀ cs ds rest, readItems fuel cs = some (ds, rest) → ∀ d ∈ ds, d.Plain

/-- What is read with some fuel as the entries of an object. -/
def EntriesPlain (fuel : Nat) : Prop :=
  ∀ cs es rest, readEntries fuel cs = some (some es, rest) →
    ∃ ms, es = fields ms ∧ ∀ m ∈ ms, m.2.Plain

/-- What is read with some fuel as a document. -/
def DocumentPlain (fuel : Nat) : Prop :=
  ∀ cs d rest, readDocument fuel cs = some (d, rest) → d.Plain

section Step

variable {fuel : Nat}

theorem DocumentPlain.succ (hitems : ItemsPlain fuel) (hentries : EntriesPlain fuel) :
    DocumentPlain (fuel + 1) := by
  intro cs d rest h
  rw [readDocument] at h
  split at h
  · simp only [Option.bind_eq_bind, Option.pure_def] at h
    obtain ⟨⟨s, left⟩, -, hread⟩ := Option.bind_eq_some_iff.mp h
    cases hread
    cases s with
    | none => exact plain_unreadable
    | some s => exact (Document.IsJson.string s).plain
  · split at h
    · cases h
      exact plain_array fun d hd => absurd hd List.not_mem_nil
    · simp only [Option.bind_eq_bind, Option.pure_def] at h
      obtain ⟨⟨ds, left⟩, hds, hread⟩ := Option.bind_eq_some_iff.mp h
      cases hread
      exact plain_array (hitems _ _ _ hds)
  · split at h
    · cases h
      show (Document.object (fields [])).Plain
      exact plain_object fun m hm => absurd hm List.not_mem_nil
    · simp only [Option.bind_eq_bind, Option.pure_def] at h
      obtain ⟨⟨entries, left⟩, hes, hread⟩ := Option.bind_eq_some_iff.mp h
      cases hread
      cases entries with
      | none => exact plain_unreadable
      | some es =>
        obtain ⟨ms, rfl, hms⟩ := hentries _ _ _ hes
        exact plain_object hms
  · obtain ⟨left, -, hread⟩ := Option.map_eq_some_iff.mp h
    cases hread
    exact Document.IsJson.null.plain
  · obtain ⟨left, -, hread⟩ := Option.map_eq_some_iff.mp h
    cases hread
    exact (Document.IsJson.bool true).plain
  · obtain ⟨left, -, hread⟩ := Option.map_eq_some_iff.mp h
    cases hread
    exact (Document.IsJson.bool false).plain
  · exact plain_readNumber h

theorem ItemsPlain.succ (hitems : ItemsPlain fuel) (hdocument : DocumentPlain fuel) :
    ItemsPlain (fuel + 1) := by
  intro cs ds rest h
  rw [readItems] at h
  obtain ⟨⟨d, left⟩, hd, hread⟩ := Option.bind_eq_some_iff.mp h
  simp only at hread
  split at hread
  · obtain ⟨⟨ds', left'⟩, hds, hread⟩ := Option.bind_eq_some_iff.mp hread
    cases hread
    intro d' hd'
    rcases List.mem_cons.mp hd' with rfl | hd'
    · exact hdocument _ _ _ hd
    · exact hitems _ _ _ hds d' hd'
  · cases hread
    intro d' hd'
    rw [List.mem_singleton.mp hd']
    exact hdocument _ _ _ hd
  · cases hread

theorem EntriesPlain.succ (hentries : EntriesPlain fuel) (hdocument : DocumentPlain fuel) :
    EntriesPlain (fuel + 1) := by
  intro cs es rest h
  rw [readEntries] at h
  split at h
  · next key left _ =>
    split at h
    · obtain ⟨⟨d, left'⟩, hd, hread⟩ := Option.bind_eq_some_iff.mp h
      have hplain := hdocument _ _ _ hd
      simp only at hread
      split at hread
      · -- a comma: the entry stands before those that follow, if its key has a text
        obtain ⟨⟨following, left''⟩, hes, hread⟩ := Option.bind_eq_some_iff.mp hread
        simp only [Option.pure_def, Option.some.injEq, Prod.mk.injEq] at hread
        obtain ⟨entry, hentry, hcons⟩ := Option.bind_eq_some_iff.mp hread.1
        obtain ⟨name, -, rfl⟩ := Option.map_eq_some_iff.mp hentry
        obtain ⟨es', rfl, rfl⟩ := Option.map_eq_some_iff.mp hcons
        obtain ⟨ms, rfl, hms⟩ := hentries _ _ _ hes
        exact ⟨(name, d) :: ms, rfl, List.forall_mem_cons.mpr ⟨hplain, hms⟩⟩
      · -- the brace: the entry is the last one
        simp only [Option.pure_def, Option.some.injEq, Prod.mk.injEq] at hread
        obtain ⟨entry, hentry, rfl⟩ := Option.map_eq_some_iff.mp hread.1
        obtain ⟨name, -, rfl⟩ := Option.map_eq_some_iff.mp hentry
        exact ⟨[(name, d)], rfl, List.forall_mem_singleton.mpr hplain⟩
      · cases hread
    · cases h
  · cases h

end Step

/-- Whatever the fuel, what is read is a document of JSON but for its unreadable leaves. -/
theorem documentPlain (fuel : Nat) : DocumentPlain fuel := by
  have hall : ItemsPlain fuel ∧ EntriesPlain fuel ∧ DocumentPlain fuel := by
    induction fuel with
    | zero =>
      -- without fuel nothing is read
      refine ⟨?_, ?_, ?_⟩
      · intro cs ds rest h
        rw [readItems] at h
        cases h
      · intro cs es rest h
        rw [readEntries] at h
        cases h
      · intro cs d rest h
        rw [readDocument] at h
        cases h
    | succ fuel ih =>
      obtain ⟨hitems, hentries, hdocument⟩ := ih
      exact ⟨hitems.succ hdocument, hentries.succ hdocument, .succ hitems hentries⟩
  exact hall.2.2

/-- A text whose leaves all have values is read as a document of JSON. -/
theorem Document.isJson_of_parse? {text : String} {t : Document} {levels : Nat}
    (h : Document.parse? text = some t) (hreadable : t.readable levels = true) : t.IsJson := by
  unfold Document.parse? at h
  simp only at h
  split at h
  · next d rest hread =>
    split at h
    · cases h
      exact documentPlain _ _ _ _ hread levels hreadable
    · cases h
  · cases h

end Statechart.Json
