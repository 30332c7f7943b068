import DocBrowser.Proofs.Regex.Language

/-!
The matcher tries exactly the ways that an expression admits. So whether there is a match does not
hang on the order of trials, no match begins before the one that is found, and where there is only
one match it is found.
-/

namespace DocBrowser.Regex

variable {regex : Regex} {set : CharClass} {text before taken more after : Text}
  {cursor last : Cursor} {groups : List (Nat × Span)} {kept : List (Nat × Text)}

/-! Cursors as places in a text. -/

/-- The groups as pieces of a text. -/
def cuts (text : Text) (groups : List (Nat × Span)) : List (Nat × Text) :=
  groups.map fun (number, span) => (number, span.cut text)

theorem lookup_cuts (text : Text) (groups : List (Nat × Span)) (number : Nat) :
    (cuts text groups).lookup number = (groups.lookup number).map (·.cut text) := by
  induction groups with
  | nil => rfl
  | cons group groups ih =>
    rw [cuts, List.map_cons, List.lookup_cons, List.lookup_cons]
    split
    · rfl
    · exact ih

theorem cut_between (before taken after : Text) :
    Span.cut ⟨before.length, (before ++ taken).length⟩ (before ++ (taken ++ after)) = taken := by
  simp [Span.cut]

/-- A cursor stands in a text after some of it. -/
structure Cursor.At (cursor : Cursor) (text before : Text) : Prop where
  position : cursor.position = before.length
  split : text = before ++ cursor.rest

/-- An expression takes what lies between two cursors, and the groups at the second are those at the
first and the ones that it keeps. -/
structure Leads (regex : Regex) (text before taken : Text) (cursor last : Cursor)
    (kept : List (Nat × Text)) : Prop where
  takes : regex.Takes before taken last.rest kept
  stands : last.At text (before ++ taken)
  cuts_eq : cuts text last.groups = kept ++ cuts text cursor.groups

/-- A cursor is reached by taking characters of a class, one after the other. -/
inductive Stretched (set : CharClass) (groups : List (Nat × Span)) : Nat → Text → Cursor → Prop
  | stop {position : Nat} {left : Text} :
      Stretched set groups position left ⟨position, left, groups⟩
  | step {position : Nat} {c : Char} {left : Text} {last : Cursor} : set.holds c = true →
      Stretched set groups (position + 1) left last →
      Stretched set groups position (c :: left) last

theorem mem_stretches_iff {shorter : List Cursor} {position : Nat} {left : Text} :
    last ∈ stretches set groups shorter position left ↔
      last ∈ shorter ∨ Stretched set groups position left last := by
  induction left generalizing shorter position with
  | nil =>
    rw [stretches, List.mem_cons, or_comm]
    apply or_congr_right
    constructor
    · rintro rfl
      exact .stop
    · intro stretched
      cases stretched
      rfl
  | cons c left ih =>
    rw [stretches]
    split
    · next holds =>
      rw [ih, List.mem_cons, or_comm (a := last = _), or_assoc]
      apply or_congr_right
      constructor
      · rintro (rfl | later)
        · exact .stop
        · exact .step holds later
      · intro stretched
        cases stretched with
        | stop => exact .inl rfl
        | step _ later => exact .inr later
    · next other =>
      rw [List.mem_cons, or_comm]
      apply or_congr_right
      constructor
      · rintro rfl
        exact .stop
      · intro stretched
        cases stretched with
        | stop => rfl
        | step holds _ => exact absurd holds other

theorem Stretched.exists_taken {position : Nat} {left : Text}
    (stretched : Stretched set groups position left last) :
    ∃ taken, left = taken ++ last.rest ∧ (∀ c ∈ taken, set.holds c = true) ∧
      last.position = position + taken.length ∧ last.groups = groups := by
  induction stretched with
  | stop => exact ⟨[], rfl, by simp, rfl, rfl⟩
  | step holds _ ih =>
    obtain ⟨taken, rfl, all, position, same⟩ := ih
    refine ⟨_ :: taken, rfl, List.forall_mem_cons.mpr ⟨holds, all⟩, ?_, same⟩
    rw [position, List.length_cons, Nat.add_assoc, Nat.add_comm 1]

theorem stretched_of_holds (all : ∀ c ∈ taken, set.holds c = true) (position : Nat) :
    Stretched set groups position (taken ++ after) ⟨position + taken.length, after, groups⟩ := by
  induction taken generalizing position with
  | nil => exact .stop
  | cons c taken ih =>
    have ⟨holds, others⟩ := List.forall_mem_cons.mp all
    have later := ih others (position + 1)
    rw [Nat.add_right_comm, Nat.add_assoc position] at later
    exact .step holds later

/-- The matcher only goes ways that the expression admits. -/
theorem exists_leads_of_mem_runs (stands : cursor.At text before)
    (there : last ∈ regex.runs cursor) :
    ∃ taken kept, regex.Leads text before taken cursor last kept := by
  induction regex generalizing before cursor last with
  | empty =>
    obtain rfl := List.mem_singleton.mp there
    exact ⟨[], [], .empty, by rwa [List.append_nil], rfl⟩
  | start =>
    rw [runs] at there
    split at there
    · next first =>
      obtain rfl := List.mem_singleton.mp there
      obtain rfl : before = [] := List.length_eq_zero_iff.mp (stands.position.symm.trans first)
      exact ⟨[], [], .start, stands, rfl⟩
    · cases there
  | finish =>
    rw [runs] at there
    split at there
    · next ended =>
      obtain rfl := List.mem_singleton.mp there
      refine ⟨[], [], ?_, by rwa [List.append_nil], rfl⟩
      rw [ended]
      exact .finish
    · cases there
  | one set =>
    rw [runs] at there
    split at there
    · cases there
    · next c left more =>
      split at there
      · next holds =>
        obtain rfl := List.mem_singleton.mp there
        refine ⟨[c], [], .one holds, ⟨?_, ?_⟩, rfl⟩
        · simp [stands.position]
        · rw [stands.split, more, List.append_assoc, List.singleton_append]
      · cases there
  | many set =>
    obtain nothing | stretched := mem_stretches_iff.mp there
    · cases nothing
    · obtain ⟨taken, left, holds, position, groups⟩ := stretched.exists_taken
      refine ⟨taken, [], .many holds, ⟨?_, ?_⟩, by rw [groups]; rfl⟩
      · rw [position, stands.position, List.length_append]
      · rw [stands.split, left, List.append_assoc]
  | andThen first rest ih ih' =>
    obtain ⟨middle, reached, onward⟩ := List.mem_flatMap.mp there
    obtain ⟨taken, kept, leads⟩ := ih stands reached
    obtain ⟨more, later, leads'⟩ := ih' leads.stands onward
    have left : middle.rest = more ++ last.rest := by
      have split := leads.stands.split.symm.trans leads'.stands.split
      rwa [List.append_assoc _ more, List.append_cancel_left_eq] at split
    refine ⟨taken ++ more, later ++ kept, .andThen (left ▸ leads.takes) leads'.takes, ?_, ?_⟩
    · rw [← List.append_assoc]
      exact leads'.stands
    · rw [leads'.cuts_eq, leads.cuts_eq, List.append_assoc]
  | group number inner ih =>
    obtain ⟨last, reached, rfl⟩ := List.mem_map.mp there
    obtain ⟨taken, kept, leads⟩ := ih stands reached
    have own : Span.cut ⟨cursor.position, last.position⟩ text = taken := by
      rw [stands.position, leads.stands.position, leads.stands.split, List.append_assoc]
      exact cut_between before taken last.rest
    refine ⟨taken, (number, taken) :: kept, .group leads.takes, ?_, ?_⟩
    · exact ⟨leads.stands.position, leads.stands.split⟩
    · have others := leads.cuts_eq
      simp only [cuts, List.map_cons, own] at others ⊢
      rw [others]
      rfl

/-- What the matcher leaves behind says how far it has come. -/
theorem Cursor.At.of_mem_runs (stands : cursor.At text before) (there : last ∈ regex.runs cursor)
    (left : cursor.rest = taken ++ last.rest) : last.At text (before ++ taken) := by
  obtain ⟨other, _, leads⟩ := exists_leads_of_mem_runs stands there
  have split := stands.split.symm.trans leads.stands.split
  rw [left, ← List.append_assoc, List.append_cancel_right_eq] at split
  rw [split]
  exact leads.stands

/-- Every way that an expression admits is tried. -/
theorem Takes.exists_mem_runs (takes : regex.Takes before taken after kept)
    (stands : cursor.At text before) (left : cursor.rest = taken ++ after) :
    ∃ last ∈ regex.runs cursor, last.rest = after := by
  induction takes generalizing cursor with
  | empty => exact ⟨cursor, List.mem_singleton_self _, left⟩
  | start => exact ⟨cursor, by simp [runs, stands.position], left⟩
  | finish => exact ⟨cursor, by simp [runs, left], left⟩
  | @one set c before after holds =>
    exact ⟨⟨cursor.position + 1, after, cursor.groups⟩, by simp [runs, left, holds], rfl⟩
  | @many set before taken after holds =>
    refine ⟨⟨cursor.position + taken.length, after, cursor.groups⟩, ?_, rfl⟩
    rw [runs, left]
    exact mem_stretches_iff.mpr (.inr (stretched_of_holds holds _))
  | andThen _ _ ih ih' =>
    rw [List.append_assoc] at left
    obtain ⟨middle, reached, rest⟩ := ih stands left
    rw [← rest] at left
    obtain ⟨last, onward, ended⟩ := ih' (.of_mem_runs stands reached left) rest
    exact ⟨last, List.mem_flatMap.mpr ⟨middle, reached, onward⟩, ended⟩
  | group _ ih =>
    obtain ⟨last, reached, rest⟩ := ih stands left
    exact ⟨_, List.mem_map_of_mem reached, rest⟩

/-! The leftmost match. -/

/-- A match somewhere in a text, with the whole match as group number 0. -/
structure Finds (regex : Regex) (text before taken after : Text) (kept : List (Nat × Text))
    (groups : List (Nat × Span)) : Prop where
  split : text = before ++ (taken ++ after)
  takes : regex.Takes before taken after kept
  cuts_eq : cuts text groups = (0, taken) :: kept

theorem exists_finds_of_matchAt? (found : regex.matchAt? before.length more = some groups) :
    ∃ taken after kept, regex.Finds (before ++ more) before taken after kept groups := by
  obtain ⟨last, first, rfl⟩ := Option.map_eq_some_iff.mp found
  have stands : Cursor.At ⟨before.length, more, []⟩ (before ++ more) before := ⟨rfl, rfl⟩
  obtain ⟨taken, kept, leads⟩ := exists_leads_of_mem_runs stands (List.mem_of_mem_head? first)
  have split := leads.stands.split
  rw [List.append_assoc] at split
  refine ⟨taken, last.rest, kept, split, leads.takes, ?_⟩
  have whole : Span.cut ⟨before.length, last.position⟩ (before ++ more) = taken := by
    rw [leads.stands.position, split]
    exact cut_between before taken last.rest
  have same := leads.cuts_eq
  simp only [cuts, List.map_nil, List.append_nil] at same
  simp [cuts, whole, same]

theorem exists_finds_of_find? (found : regex.find? before.length more = some groups) :
    ∃ before' taken after kept, regex.Finds (before ++ more) before' taken after kept groups := by
  induction more generalizing before with
  | nil => exact ⟨before, exists_finds_of_matchAt? found⟩
  | cons c more ih =>
    rw [find?] at found
    split at found
    · next here =>
      cases found
      exact ⟨before, exists_finds_of_matchAt? here⟩
    · have next : (before ++ [c]).length = before.length + 1 := by simp
      rw [← next] at found
      simpa using ih found

theorem Takes.matchAt?_ne_none (takes : regex.Takes before taken after kept) :
    regex.matchAt? before.length (taken ++ after) ≠ none := by
  have stands : Cursor.At ⟨before.length, taken ++ after, []⟩ (before ++ (taken ++ after)) before :=
    ⟨rfl, rfl⟩
  obtain ⟨last, there, _⟩ := takes.exists_mem_runs stands rfl
  simpa [matchAt?, List.head?_eq_none_iff] using List.ne_nil_of_mem there

theorem lookup_of_matchAt? {position : Nat} (found : regex.matchAt? position more = some groups) :
    ∃ last, groups.lookup 0 = some ⟨position, last⟩ := by
  obtain ⟨last, _, rfl⟩ := Option.map_eq_some_iff.mp found
  exact ⟨last.position, List.lookup_cons_self⟩

theorem find?_of_matchAt? {position : Nat} (here : regex.matchAt? position more = some groups) :
    regex.find? position more = some groups := by
  unfold find?
  split
  · exact here
  · rw [here]

/-- Where the expression admits a match, one is found that begins there or before. -/
theorem Takes.exists_find? {skipped : Text}
    (takes : regex.Takes (before ++ skipped) taken after kept) :
    ∃ groups first last, regex.find? before.length (skipped ++ (taken ++ after)) = some groups ∧
      groups.lookup 0 = some ⟨first, last⟩ ∧ first ≤ (before ++ skipped).length := by
  induction skipped generalizing before with
  | nil =>
    rw [List.append_nil] at takes
    obtain ⟨groups, here⟩ := Option.ne_none_iff_exists'.mp takes.matchAt?_ne_none
    obtain ⟨last, whole⟩ := lookup_of_matchAt? here
    exact ⟨groups, before.length, last, find?_of_matchAt? here, whole, by simp⟩
  | cons c skipped ih =>
    cases here : regex.matchAt? before.length (c :: (skipped ++ (taken ++ after))) with
    | some groups =>
      obtain ⟨last, whole⟩ := lookup_of_matchAt? here
      exact ⟨groups, before.length, last, find?_of_matchAt? here, whole, by simp⟩
    | none =>
      rw [← List.singleton_append, ← List.append_assoc] at takes
      obtain ⟨groups, first, last, found, whole, bound⟩ := ih takes
      have next : (before ++ [c]).length = before.length + 1 := by simp
      rw [next] at found
      refine ⟨groups, first, last, ?_, whole, by simpa using bound⟩
      rw [List.cons_append, find?, here]
      exact found

/-- A match that was found is one that the expression admits, and its groups are read off it. -/
theorem exists_takes_of_captures? {captures : Captures}
    (found : regex.captures? text = some captures) :
    ∃ before taken after kept, text = before ++ (taken ++ after) ∧
      regex.Takes before taken after kept ∧
      ∀ number, captures.get? number = ((0, taken) :: kept).lookup number := by
  obtain ⟨groups, first, rfl⟩ := Option.map_eq_some_iff.mp found
  have first : regex.find? ([] : Text).length text = some groups := first
  obtain ⟨before, taken, after, kept, finds⟩ := exists_finds_of_find? first
  refine ⟨before, taken, after, kept, finds.split, finds.takes, fun number => ?_⟩
  rw [← finds.cuts_eq, lookup_cuts]
  rfl

/-- A match that the expression admits is found, or another one that does not begin after it. -/
theorem Takes.exists_captures? (takes : regex.Takes before taken after kept) :
    ∃ captures first last, regex.captures? (before ++ (taken ++ after)) = some captures ∧
      captures.groups.lookup 0 = some ⟨first, last⟩ ∧ first ≤ before.length := by
  have takes : regex.Takes ([] ++ before) taken after kept := takes
  obtain ⟨groups, first, last, found, whole, bound⟩ := takes.exists_find?
  refine ⟨⟨before ++ (taken ++ after), groups⟩, first, last, ?_, whole, bound⟩
  simpa [captures?] using found

theorem isMatch_iff :
    regex.isMatch text = true ↔
      ∃ before taken after kept, text = before ++ (taken ++ after) ∧
        regex.Takes before taken after kept := by
  rw [isMatch, Option.isSome_iff_exists]
  constructor
  · rintro ⟨captures, found⟩
    obtain ⟨before, taken, after, kept, split, takes, _⟩ := exists_takes_of_captures? found
    exact ⟨before, taken, after, kept, split, takes⟩
  · rintro ⟨before, taken, after, kept, rfl, takes⟩
    obtain ⟨captures, _, _, found, _⟩ := takes.exists_captures?
    exact ⟨captures, found⟩

end DocBrowser.Regex
