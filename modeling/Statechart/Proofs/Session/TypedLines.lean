import Statechart.Session.Transcript
/-!
Lines as they are typed. The clusters of a line can be thought of as a stack, on which a backspace
takes off the newest one; a draft is such a stack, written out as characters and sizes. Main
statements: as long as no cluster has more bytes than a size can count, the line that was meant is
what the stack holds in the end; in any case it is a part of what was typed without a backspace in it,
and a session that is typed prints what it would print for the lines that were meant.
-/

namespace Statechart.Session

open Text (clusters)

namespace Line

/-! ## Bytes -/

/-- How many bytes some characters have. -/
def byteCount (cs : List Char) : Nat := (String.ofList cs).utf8ByteSize

theorem byteCount_append (cs ds : List Char) :
    byteCount (cs ++ ds) = byteCount cs + byteCount ds := by
  rw [byteCount, String.ofList_append, String.utf8ByteSize_append]
  rfl

theorem byteCount_cons (c : Char) (cs : List Char) :
    byteCount (c :: cs) = c.utf8Size + byteCount cs := by
  have hone : byteCount [c] = c.utf8Size := String.utf8ByteSize_singleton
  rw [← hone, ← byteCount_append]
  rfl

theorem byteCount_reverse (cs : List Char) : byteCount cs.reverse = byteCount cs := by
  induction cs with
  | nil => rfl
  | cons c rest ih =>
    rw [List.reverse_cons, byteCount_append, ih, byteCount_cons, byteCount_cons, Nat.add_comm]
    rfl

/-- What is taken back is a run of whole characters with just as many bytes. -/
theorem takeBack?_eq_some_iff {n : Nat} {cs rest : List Char} :
    takeBack? n cs = some rest ↔ ∃ taken, cs = taken ++ rest ∧ byteCount taken = n := by
  constructor
  · intro h
    induction cs generalizing n with
    | nil =>
      rw [takeBack?] at h
      split at h
      · next hzero => exact ⟨[], Option.some.inj h, hzero.symm⟩
      · cases h
    | cons c cs ih =>
      rw [takeBack?] at h
      split at h
      · next hzero => exact ⟨[], Option.some.inj h, hzero.symm⟩
      · split at h
        · next hfits =>
          obtain ⟨taken, hcs, hbytes⟩ := ih h
          refine ⟨c :: taken, congrArg (c :: ·) hcs, ?_⟩
          rw [byteCount_cons, hbytes, Nat.add_sub_cancel' hfits]
        · cases h
  · rintro ⟨taken, rfl, rfl⟩
    induction taken with
    | nil => cases rest <;> rfl
    | cons c taken ih =>
      have hpos : c.utf8Size + byteCount taken ≠ 0 := by
        have := c.utf8Size_pos
        omega
      rw [List.cons_append, takeBack?, byteCount_cons, if_neg hpos, if_pos (Nat.le_add_right _ _),
        Nat.add_sub_cancel_left]
      exact ih

/-! ## The stack -/

/-- The draft of a stack of clusters, the newest of them on top. -/
def Draft.ofStack (stack : List (List Char)) : Draft :=
  ⟨(stack.map List.reverse).flatten, stack.map byteCount⟩

/-- Types a cluster on a stack: a backspace takes off the top, anything else goes on top. -/
def press (stack : List (List Char)) (cluster : List Char) : List (List Char) :=
  if cluster = [backspace] then stack.tail else cluster :: stack

/-- The characters of a stack, oldest first. -/
def written (stack : List (List Char)) : List Char := stack.reverse.flatten

theorem reverse_characters_ofStack (stack : List (List Char)) :
    (Draft.ofStack stack).characters.reverse = written stack := by
  induction stack with
  | nil => rfl
  | cons top below ih =>
    have hcharacters : (Draft.ofStack (top :: below)).characters =
        top.reverse ++ (Draft.ofStack below).characters := rfl
    rw [hcharacters, List.reverse_append, ih, List.reverse_reverse, written, written]
    simp

/-- A draft follows the stack, one cluster after the other. -/
theorem type?_ofStack (stack : List (List Char)) {cluster : List Char}
    (hsize : byteCount cluster < 256) :
    (Draft.ofStack stack).type? cluster = some (Draft.ofStack (press stack cluster)) := by
  by_cases hback : cluster = [backspace]
  · rw [Draft.type?, if_pos hback, press, if_pos hback]
    cases stack with
    | nil => rfl
    | cons top below =>
      -- the size of the top is that of its characters, so that these go and no others
      have htop : takeBack? (byteCount top) (Draft.ofStack (top :: below)).characters =
          some (Draft.ofStack below).characters :=
        takeBack?_eq_some_iff.mpr ⟨top.reverse, rfl, byteCount_reverse top⟩
      show (takeBack? (byteCount top) (Draft.ofStack (top :: below)).characters).map _ = _
      rw [htop]
      rfl
  · have hcounted : (String.ofList cluster).utf8ByteSize % 256 = byteCount cluster :=
      Nat.mod_eq_of_lt hsize
    rw [Draft.type?, if_neg hback, press, if_neg hback, Draft.add, hcounted]
    rfl

theorem foldlM_type?_ofStack (stack : List (List Char)) {typed : List (List Char)}
    (hsize : ∀ cluster ∈ typed, byteCount cluster < 256) :
    typed.foldlM Draft.type? (Draft.ofStack stack) =
      some (Draft.ofStack (typed.foldl press stack)) := by
  induction typed generalizing stack with
  | nil => rfl
  | cons cluster rest ih =>
    rw [List.foldlM_cons, type?_ofStack stack (hsize cluster List.mem_cons_self)]
    exact ih (press stack cluster) fun c hc => hsize c (List.mem_cons_of_mem cluster hc)

/-- Without a backspace all clusters stay. -/
theorem foldl_press_of_notMem {typed : List (List Char)} (h : [backspace] ∉ typed)
    (stack : List (List Char)) : typed.foldl press stack = typed.reverse ++ stack := by
  induction typed generalizing stack with
  | nil => rfl
  | cons cluster rest ih =>
    have hcluster : cluster ≠ [backspace] := fun heq => h (heq ▸ List.mem_cons_self)
    rw [List.foldl_cons, press, if_neg hcluster, ih (fun hrest => h (List.mem_cons_of_mem _ hrest))]
    simp

/-- The line that was meant is what is left of the clusters, unless one of them has more bytes than
its size can count. -/
theorem meant?_eq_some_written {typed : String}
    (hsize : ∀ cluster ∈ clusters typed.toList, byteCount cluster < 256) :
    meant? typed = some (String.ofList (written ((clusters typed.toList).foldl press []))) := by
  rw [meant?]
  split
  · have hdraft := foldlM_type?_ofStack [] hsize
    rw [show ({} : Draft) = Draft.ofStack [] from rfl, hdraft, Option.map_some,
      reverse_characters_ofStack]
  · next hnone =>
    have hback : [backspace] ∉ clusters typed.toList := by
      intro hmem
      have htyped : backspace ∈ (clusters typed.toList).flatten :=
        List.mem_flatten.mpr ⟨_, hmem, List.mem_singleton_self _⟩
      rw [Text.flatten_clusters] at htyped
      exact hnone (List.contains_iff_mem.mpr htyped)
    rw [foldl_press_of_notMem hback, written, List.append_nil, List.reverse_reverse,
      Text.flatten_clusters, String.ofList_toList]

/-- An accent goes with its letter. -/
example : meant? "paye\u0301\x08\x08d" = some "pad" := by decide +kernel

/-! ## What a meant line is made of -/

/-- A cluster that is a backspace or has none in it. -/
def IsPure (cluster : List Char) : Prop := backspace ∈ cluster → cluster = [backspace]

theorem isPure_nil : IsPure [] := fun hmem => absurd hmem List.not_mem_nil

theorem isPure_reverse {cluster : List Char} (h : IsPure cluster) : IsPure cluster.reverse := by
  intro hmem
  rw [h (List.mem_reverse.mp hmem)]
  rfl

theorem joins_backspace (before : List Char) : Text.joins before backspace = false := by
  have hcontrol : Text.isControl backspace = true := by decide +kernel
  cases before with
  | nil => rfl
  | cons b earlier =>
    rw [Text.joins, hcontrol, Bool.or_true, if_pos rfl, Bool.and_eq_false_iff]
    exact .inr rfl

theorem backspace_joins (earlier : List Char) (c : Char) :
    Text.joins (backspace :: earlier) c = false := by
  have hcontrol : Text.isControl backspace = true := by decide +kernel
  rw [Text.joins, hcontrol, Bool.true_or, if_pos rfl, Bool.and_eq_false_iff]
  exact .inl rfl

theorem isPure_cons {cluster : List Char} (h : IsPure cluster) {c : Char}
    (hjoins : cluster = [] ∨ Text.joins cluster c = true) : IsPure (c :: cluster) := by
  intro hmem
  rcases hjoins with rfl | hjoins
  · rw [List.mem_singleton.mp hmem]
  · rcases List.mem_cons.mp hmem with rfl | hcluster
    · rw [joins_backspace] at hjoins
      cases hjoins
    · rw [h hcluster, backspace_joins] at hjoins
      cases hjoins

theorem isPure_of_mem_clustersFrom {cluster cs : List Char} (h : IsPure cluster) :
    ∀ found ∈ Text.clustersFrom cluster cs, IsPure found := by
  induction cs generalizing cluster with
  | nil =>
    intro found hfound
    rw [Text.clustersFrom] at hfound
    split at hfound
    · cases hfound
    · rw [List.mem_singleton.mp hfound]
      exact isPure_reverse h
  | cons c rest ih =>
    intro found hfound
    rw [Text.clustersFrom] at hfound
    split at hfound
    · next hjoins =>
      rw [Bool.or_eq_true, List.isEmpty_iff] at hjoins
      exact ih (isPure_cons h hjoins) found hfound
    · rcases List.mem_cons.mp hfound with rfl | hrest
      · exact isPure_reverse h
      · exact ih (isPure_cons isPure_nil (.inl rfl)) found hrest

/-- A backspace is a cluster of its own. -/
theorem isPure_of_mem_clusters {cs found : List Char} (h : found ∈ clusters cs) : IsPure found :=
  isPure_of_mem_clustersFrom isPure_nil found h

/-- A draft that is typed on keeps its characters and gets those of the cluster, or it loses some. -/
theorem type?_cases {d e : Draft} {cluster : List Char} (h : d.type? cluster = some e) :
    cluster ≠ [backspace] ∧ e.characters = cluster.reverse ++ d.characters ∨
      cluster = [backspace] ∧ e.characters <:+ d.characters := by
  rw [Draft.type?] at h
  split at h
  · next hback =>
    refine .inr ⟨hback, ?_⟩
    rw [Draft.takeBack?] at h
    split at h
    · cases h
      exact List.suffix_rfl
    · obtain ⟨rest, hrest, rfl⟩ := Option.map_eq_some_iff.mp h
      obtain ⟨taken, htaken, -⟩ := takeBack?_eq_some_iff.mp hrest
      exact ⟨taken, htaken.symm⟩
  · next hback =>
    cases h
    exact .inl ⟨hback, rfl⟩

/-- What a draft holds was typed, and no backspace is held. -/
theorem sublist_of_foldlM_type? {d e : Draft} {typed : List (List Char)}
    (h : typed.foldlM Draft.type? d = some e) (hpure : ∀ cluster ∈ typed, IsPure cluster)
    (hd : backspace ∉ d.characters) :
    e.characters.Sublist (typed.flatten.reverse ++ d.characters) ∧ backspace ∉ e.characters := by
  induction typed generalizing d with
  | nil =>
    cases h
    exact ⟨List.Sublist.refl _, hd⟩
  | cons cluster rest ih =>
    rw [List.foldlM_cons, Option.bind_eq_bind, Option.bind_eq_some_iff] at h
    obtain ⟨next, hnext, hrest⟩ := h
    have hclean : next.characters.Sublist (cluster.reverse ++ d.characters) ∧
        backspace ∉ next.characters := by
      rcases type?_cases hnext with ⟨hback, hadded⟩ | ⟨-, htaken⟩
      · rw [hadded]
        refine ⟨List.Sublist.refl _, fun hmem => ?_⟩
        rcases List.mem_append.mp hmem with hcluster | hold
        · exact hback (hpure cluster List.mem_cons_self (List.mem_reverse.mp hcluster))
        · exact hd hold
      · -- also where only a part of a large cluster went, nothing was added
        exact ⟨htaken.sublist.trans (List.sublist_append_right _ _),
          fun hmem => hd (htaken.subset hmem)⟩
    obtain ⟨hsublist, hnone⟩ := ih hrest (fun c hc => hpure c (List.mem_cons_of_mem cluster hc))
      hclean.2
    refine ⟨hsublist.trans ?_, hnone⟩
    rw [List.flatten_cons, List.reverse_append, List.append_assoc]
    exact hclean.1.append_left _

/-- The line that was meant is a part of what was typed, without a backspace in it. -/
theorem sublist_of_meant? {typed line : String} (h : meant? typed = some line) :
    line.toList.Sublist typed.toList ∧ backspace ∉ line.toList := by
  rw [meant?] at h
  split at h
  · obtain ⟨d, hd, rfl⟩ := Option.map_eq_some_iff.mp h
    obtain ⟨hsublist, hnone⟩ :=
      sublist_of_foldlM_type? hd (fun _ => isPure_of_mem_clusters) List.not_mem_nil
    rw [Text.flatten_clusters, List.append_nil] at hsublist
    rw [String.toList_ofList, List.mem_reverse]
    exact ⟨List.reverse_sublist.mp (by rwa [List.reverse_reverse]), hnone⟩
  · next hnone =>
    cases h
    exact ⟨List.Sublist.refl _, fun hmem => hnone (List.contains_iff_mem.mpr hmem)⟩

/-- A line is meant as it stands exactly if there is no backspace in it. -/
theorem meant?_eq_self_iff {typed : String} :
    meant? typed = some typed ↔ backspace ∉ typed.toList := by
  constructor
  · exact fun h => (sublist_of_meant? h).2
  · intro hnone
    rw [meant?, if_neg (fun hmem => hnone (List.contains_iff_mem.mp hmem))]

end Line

/-! ## Sessions -/

/-- A session prints for the lines that are typed what it prints for those that were meant. -/
theorem transcript_of_meant? (diag : Diagnostics) (s : Session) {typed lines : List String}
    (h : typed.map Line.meant? = lines.map some) :
    s.transcript diag typed = s.transcript diag lines := by
  induction typed generalizing s lines with
  | nil => rw [List.map_eq_nil_iff.mp h.symm]
  | cons first rest ih =>
    obtain ⟨line, lines, rfl, hfirst, hrest⟩ := List.map_eq_cons_iff.mp h.symm
    have hmeant : Line.meant? first = some line := hfirst.symm
    have hline : Line.meant? line = some line :=
      Line.meant?_eq_self_iff.mpr (Line.sublist_of_meant? hmeant).2
    simp only [transcript, respondTyped, hmeant, hline, Option.bind_some, ih _ hrest.symm]

end Statechart.Session
