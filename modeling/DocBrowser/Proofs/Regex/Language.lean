import DocBrowser.Regex.Basic

/-!
What regular expressions match, said without an order of trials: the pieces of a text that an
expression takes, given what stands around them, and the pieces of these that its groups keep.
-/

namespace DocBrowser.Regex

/-- An expression takes a piece of a text, with what stands before and after it, and keeps pieces of
it under the numbers of groups, the latest first. -/
inductive Takes : Regex → (before taken after : Text) → List (Nat × Text) → Prop
  | empty {before after : Text} : Takes .empty before [] after []
  | start {after : Text} : Takes .start [] [] after []
  | finish {before : Text} : Takes .finish before [] [] []
  | one {set : CharClass} {c : Char} {before after : Text} : set.holds c = true →
      Takes (.one set) before [c] after []
  | many {set : CharClass} {before taken after : Text} : (∀ c ∈ taken, set.holds c = true) →
      Takes (.many set) before taken after []
  | andThen {first rest : Regex} {before taken more after : Text}
      {kept later : List (Nat × Text)} : Takes first before taken (more ++ after) kept →
      Takes rest (before ++ taken) more after later →
      Takes (.andThen first rest) before (taken ++ more) after (later ++ kept)
  | group {number : Nat} {inner : Regex} {before taken after : Text}
      {kept : List (Nat × Text)} : Takes inner before taken after kept →
      Takes (.group number inner) before taken after ((number, taken) :: kept)

variable {set : CharClass} {before taken after : Text} {kept : List (Nat × Text)}

theorem takes_start_iff :
    start.Takes before taken after kept ↔ before = [] ∧ taken = [] ∧ kept = [] := by
  constructor
  · rintro ⟨⟩
    exact ⟨rfl, rfl, rfl⟩
  · rintro ⟨rfl, rfl, rfl⟩
    exact .start

theorem takes_finish_iff :
    finish.Takes before taken after kept ↔ after = [] ∧ taken = [] ∧ kept = [] := by
  constructor
  · rintro ⟨⟩
    exact ⟨rfl, rfl, rfl⟩
  · rintro ⟨rfl, rfl, rfl⟩
    exact .finish

theorem takes_one_iff :
    (one set).Takes before taken after kept ↔
      ∃ c, taken = [c] ∧ set.holds c = true ∧ kept = [] := by
  constructor
  · rintro (_ | _ | _ | @⟨_, c, _, _, holds⟩)
    exact ⟨c, rfl, holds, rfl⟩
  · rintro ⟨c, rfl, holds, rfl⟩
    exact .one holds

theorem takes_many_iff :
    (many set).Takes before taken after kept ↔ (∀ c ∈ taken, set.holds c = true) ∧ kept = [] := by
  constructor
  · intro takes
    cases takes with
    | many holds => exact ⟨holds, rfl⟩
  · rintro ⟨holds, rfl⟩
    exact .many holds

theorem takes_group_iff {number : Nat} {inner : Regex} :
    (group number inner).Takes before taken after kept ↔
      ∃ earlier, inner.Takes before taken after earlier ∧ kept = (number, taken) :: earlier := by
  constructor
  · intro takes
    cases takes with
    | group takes => exact ⟨_, takes, rfl⟩
  · rintro ⟨earlier, takes, rfl⟩
    exact .group takes

theorem le_and_le_iff {c d : Char} : c ≤ d ∧ d ≤ c ↔ d = c :=
  ⟨fun ⟨low, high⟩ => Char.le_antisymm high low, fun same => by simp [same]⟩

theorem holds_single_iff {c d : Char} : (CharClass.single c).holds d = true ↔ d = c := by
  simp [CharClass.holds, CharClass.single, le_and_le_iff]

theorem takes_char_iff {c : Char} :
    (char c).Takes before taken after kept ↔ taken = [c] ∧ kept = [] := by
  rw [char, takes_one_iff]
  constructor
  · rintro ⟨d, rfl, holds, rfl⟩
    rw [holds_single_iff.mp holds]
    exact ⟨rfl, rfl⟩
  · rintro ⟨rfl, rfl⟩
    exact ⟨c, rfl, holds_single_iff.mpr rfl, rfl⟩

/-! Expressions in a row. -/

theorem takes_row_nil_iff :
    (row []).Takes before taken after kept ↔ taken = [] ∧ kept = [] := by
  constructor
  · rintro ⟨⟩
    exact ⟨rfl, rfl⟩
  · rintro ⟨rfl, rfl⟩
    exact .empty

variable {part : Regex} {parts others : List Regex}

theorem takes_row_cons_iff :
    (row (part :: parts)).Takes before taken after kept ↔
      ∃ own more earlier later, taken = own ++ more ∧ kept = later ++ earlier ∧
        part.Takes before own (more ++ after) earlier ∧
        (row parts).Takes (before ++ own) more after later := by
  constructor
  · intro takes
    cases takes with
    | andThen first rest => exact ⟨_, _, _, _, rfl, rfl, first, rest⟩
  · rintro ⟨own, more, earlier, later, rfl, rfl, first, rest⟩
    exact .andThen first rest

theorem takes_row_append_iff :
    (row (parts ++ others)).Takes before taken after kept ↔
      ∃ own more earlier later, taken = own ++ more ∧ kept = later ++ earlier ∧
        (row parts).Takes before own (more ++ after) earlier ∧
        (row others).Takes (before ++ own) more after later := by
  induction parts generalizing before taken kept with
  | nil =>
    constructor
    · intro takes
      refine ⟨[], taken, [], kept, rfl, (List.append_nil kept).symm, .empty, ?_⟩
      rwa [List.append_nil]
    · rintro ⟨own, more, earlier, later, rfl, rfl, nothing, takes⟩
      obtain ⟨rfl, rfl⟩ := takes_row_nil_iff.mp nothing
      rwa [List.append_nil] at takes ⊢
  | cons part parts ih =>
    simp only [List.cons_append, takes_row_cons_iff, ih]
    constructor
    · rintro ⟨own, _, earlier, _, rfl, rfl, first, middle, more, between, later, rfl, rfl, second,
        rest⟩
      rw [List.append_assoc] at first
      refine ⟨own ++ middle, more, between ++ earlier, later, ?_, ?_, ?_, ?_⟩
      · simp
      · simp
      · exact ⟨own, middle, earlier, between, rfl, rfl, first, second⟩
      · rwa [← List.append_assoc]
    · rintro ⟨_, more, _, later, rfl, rfl, ⟨own, middle, earlier, between, rfl, rfl, first, second⟩,
        rest⟩
      rw [← List.append_assoc] at rest
      refine ⟨own, middle ++ more, earlier, later ++ between, ?_, ?_, ?_, ?_⟩
      · simp
      · simp
      · rwa [List.append_assoc]
      · exact ⟨middle, more, between, later, rfl, rfl, second, rest⟩

/-- Between the two ends of a text an expression takes all of it. -/
theorem takes_anchored_iff :
    (row (.start :: parts ++ [.finish])).Takes before taken after kept ↔
      before = [] ∧ after = [] ∧ (row parts).Takes [] taken [] kept := by
  rw [List.cons_append]
  constructor
  · intro takes
    obtain ⟨_, _, _, _, rfl, rfl, first, onward⟩ := takes_row_cons_iff.mp takes
    obtain ⟨rfl, rfl, rfl⟩ := takes_start_iff.mp first
    obtain ⟨_, _, _, _, rfl, rfl, inner, last⟩ := takes_row_append_iff.mp onward
    obtain ⟨_, _, _, _, rfl, rfl, ended, nothing⟩ := takes_row_cons_iff.mp last
    obtain ⟨rfl, rfl⟩ := takes_row_nil_iff.mp nothing
    obtain ⟨rfl, rfl, rfl⟩ := takes_finish_iff.mp ended
    simpa using inner
  · rintro ⟨rfl, rfl, inner⟩
    have last : (row [.finish]).Takes ([] ++ taken) [] [] [] :=
      takes_row_cons_iff.mpr ⟨[], [], [], [], rfl, rfl, .finish, .empty⟩
    have onward : (row (parts ++ [.finish])).Takes [] taken [] kept :=
      takes_row_append_iff.mpr ⟨taken, [], kept, [], by simp, by simp, by simpa using inner, last⟩
    exact takes_row_cons_iff.mpr ⟨[], taken, [], kept, by simp, by simp, .start, onward⟩

end DocBrowser.Regex
