import DocBrowser.Proofs.Route.Segments

/-!
Patterns and their texts. A pattern is as good as its text, whether it is accepted hangs on its
parameters alone, and those are the same with and without a slash at the end.
-/

namespace DocBrowser

@[simp]
theorem segments_append_slash (text : Text) : segments (text ++ ['/']) = segments text ++ [[]] :=
  List.splitOn_append_cons_self text []

namespace Pattern

@[simp]
theorem names_append (first rest : List Segment) :
    names (first ++ rest) = names first ++ names rest :=
  List.filterMap_append

@[simp]
theorem names_literal (text : Text) : names [.literal text] = [] := rfl

@[simp]
theorem text_ofText (text : Text) : (ofText text).text = text := rfl

variable {text : Text} {pattern : Pattern} {seen : List Text} {parts : List Segment}

/-- Segments give no offence if their parameters have proper names, and new ones each time. -/
theorem offence?_eq_none_iff :
    offence? text seen parts = none ↔
      (∀ name ∈ names parts, isName name = true) ∧ (names parts).Nodup ∧
        ∀ name ∈ names parts, name ∉ seen := by
  induction parts generalizing seen with
  | nil => simp [offence?, names]
  | cons part rest ih =>
    cases part with
    | literal text =>
      rw [offence?, ih]
      rfl
    | param name =>
      have all : names (.param name :: rest) = name :: names rest := rfl
      rw [offence?, all]
      by_cases proper : isName name = true
      · by_cases again : name ∈ seen
        · simp [proper, again]
        · simp only [proper, again, not_true_eq_false, if_false, ih, List.forall_mem_cons,
            List.nodup_cons, true_and, not_false_eq_true]
          simp only [List.mem_cons, not_or]
          constructor
          · rintro ⟨proper, nodup, new⟩
            exact ⟨proper, ⟨fun there => (new name there).1 rfl, nodup⟩,
              fun other there => (new other there).2⟩
          · rintro ⟨proper, ⟨once, nodup⟩, new⟩
            refine ⟨proper, nodup, fun other there => ⟨?_, new other there⟩⟩
            rintro rfl
            exact once there
      · simp [proper]

theorem parse_eq_ok_iff :
    parse text = .ok pattern ↔
      pattern = ofText text ∧ (∀ name ∈ names (segments text), isName name = true) ∧
        (names (segments text)).Nodup := by
  have accepted := @offence?_eq_none_iff text [] (segments text)
  rw [parse]
  cases offence : offence? text [] (segments text) with
  | none =>
    obtain ⟨proper, nodup, _⟩ := accepted.mp offence
    constructor
    · intro success
      exact ⟨(Except.ok.inj success).symm, proper, nodup⟩
    · rintro ⟨rfl, _⟩
      rfl
  | some error =>
    constructor
    · intro success
      cases success
    · rintro ⟨_, proper, nodup⟩
      have none := accepted.mpr ⟨proper, nodup, by simp⟩
      rw [offence] at none
      cases none

theorem text_of_parse (parsed : parse text = .ok pattern) : pattern.text = text := by
  rw [(parse_eq_ok_iff.mp parsed).1, text_ofText]

/-- Toggling a slash takes one off the text, or adds one. -/
theorem toggleSlash_cases (text : Text) :
    text = toggleSlash text ++ ['/'] ∨ toggleSlash text = text ++ ['/'] := by
  rw [toggleSlash]
  split
  · next slash =>
    obtain ⟨rest, rfl⟩ := List.getLast?_eq_some_iff.mp slash
    simp
  · exact .inr rfl

theorem segments_with_slash (text : Text) :
    segments (text ++ ['/']) = segments text ++ [.literal []] := by
  simp [segments, Segment.ofText]

/-- The parameters are the same with the other choice of slash. -/
theorem names_toggleSlash (text : Text) :
    names (segments (toggleSlash text)) = names (segments text) := by
  rcases toggleSlash_cases text with longer | longer
  · conv => rhs; rw [longer, segments_with_slash]
    simp
  · rw [longer, segments_with_slash]
    simp

/-- What is accepted is accepted with the other choice of slash. -/
theorem parse_toggleSlash (parsed : parse text = .ok pattern) :
    parse (toggleSlash text) = .ok (ofText (toggleSlash text)) := by
  rw [parse_eq_ok_iff, names_toggleSlash]
  exact ⟨rfl, (parse_eq_ok_iff.mp parsed).2⟩

end Pattern

end DocBrowser
