import DocBrowser.Proofs.Route.Matching
import Mathlib.Data.List.Nodup

/-!
The grammar of patterns. A pattern is accepted if its parameters have proper names and none has the
name of another, and else the first parameter at fault is reported. It matches the paths that its
text becomes when something is written in the place of each parameter, each path in one way only.
-/

namespace DocBrowser

namespace Pattern

open Percent (decode)

/-- A letter or an underscore, and letters, digits and underscores after it. -/
def ProperName (name : Text) : Prop :=
  ∃ first rest, name = first :: rest ∧ (first.isAlpha = true ∨ first = '_') ∧
    ∀ c ∈ rest, c.isAlphanum = true ∨ c = '_'

/-- Segments of a pattern whose parameters have proper names, none of them twice. -/
structure Faultless (parts : List Text) : Prop where
  proper : ∀ name, ':' :: name ∈ parts → ProperName name
  distinct : (parts.filter (·.head? = some ':')).Nodup

/-- The first parameter at fault among the segments of a pattern, and what is reported of it. -/
inductive FirstFault (pattern : Text) (parts : List Text) : RouteError → Prop
  | malformed {before after : List Text} {name : Text} :
      parts = before ++ (':' :: name) :: after → Faultless before → ¬ ProperName name →
      FirstFault pattern parts (.invalidParam pattern name)
  | repeated {before after : List Text} {name : Text} :
      parts = before ++ (':' :: name) :: after → Faultless before → ProperName name →
      ':' :: name ∈ before → FirstFault pattern parts (.duplicateParam pattern name)

variable {text path name : Text} {parts given seen : List Text} {raw other params : Params}
  {error : RouteError}

/-! Which patterns are accepted. -/

/-- The characters that a name may begin with. -/
def nameStart : CharClass where
  ranges := [('A', 'Z'), ('a', 'z'), ('_', '_')]

/-- The characters that a name may go on with. -/
def nameRest : CharClass where
  ranges := [('A', 'Z'), ('a', 'z'), ('0', '9'), ('_', '_')]

theorem nameRegex_eq :
    nameRegex = .row (.start :: [.one nameStart, .many nameRest] ++ [.finish]) := by rfl

theorem isAlpha_iff {c : Char} :
    c.isAlpha = true ↔ 'A' ≤ c ∧ c ≤ 'Z' ∨ 'a' ≤ c ∧ c ≤ 'z' := by
  have ranges : c.isAlpha =
      (decide ('A' ≤ c ∧ c ≤ 'Z') || (decide ('a' ≤ c) && decide (c ≤ 'z'))) := by rfl
  simp only [ranges, Bool.or_eq_true, Bool.and_eq_true, decide_eq_true_eq]

theorem isAlphanum_iff {c : Char} :
    c.isAlphanum = true ↔ c.isAlpha = true ∨ '0' ≤ c ∧ c ≤ '9' := by
  have ranges : c.isAlphanum = (c.isAlpha || (decide ('0' ≤ c) && decide (c ≤ '9'))) := by rfl
  simp only [ranges, Bool.or_eq_true, Bool.and_eq_true, decide_eq_true_eq]

theorem holds_nameStart_iff {c : Char} :
    nameStart.holds c = true ↔ c.isAlpha = true ∨ c = '_' := by
  rw [isAlpha_iff, ← @Regex.le_and_le_iff '_' c]
  simp [nameStart, CharClass.holds, or_assoc]

theorem holds_nameRest_iff {c : Char} :
    nameRest.holds c = true ↔ c.isAlphanum = true ∨ c = '_' := by
  rw [isAlphanum_iff, isAlpha_iff, ← @Regex.le_and_le_iff '_' c]
  simp [nameRest, CharClass.holds, or_assoc]

/-- The expression for names takes the proper ones. -/
theorem isName_iff : isName name = true ↔ ProperName name := by
  rw [isName, Regex.isMatch_iff, nameRegex_eq]
  simp only [Regex.takes_anchored_iff]
  constructor
  · rintro ⟨_, taken, _, _, rfl, rfl, rfl, takes⟩
    obtain ⟨_, _, _, _, rfl, rfl, start, onward⟩ := Regex.takes_row_cons_iff.mp takes
    obtain ⟨first, rfl, begins, rfl⟩ := Regex.takes_one_iff.mp start
    obtain ⟨rest, _, _, _, rfl, rfl, later, nothing⟩ := Regex.takes_row_cons_iff.mp onward
    obtain ⟨continues, rfl⟩ := Regex.takes_many_iff.mp later
    obtain ⟨rfl, rfl⟩ := Regex.takes_row_nil_iff.mp nothing
    refine ⟨first, rest, by simp, holds_nameStart_iff.mp begins, fun c there => ?_⟩
    exact holds_nameRest_iff.mp (continues c there)
  · rintro ⟨first, rest, rfl, begins, continues⟩
    refine ⟨[], first :: rest, [], [], by simp, rfl, rfl, ?_⟩
    refine Regex.takes_row_cons_iff.mpr ⟨[first], rest, [], [], rfl, rfl, ?_, ?_⟩
    · exact .one (holds_nameStart_iff.mpr begins)
    · refine Regex.takes_row_cons_iff.mpr ⟨rest, [], [], [], by simp, rfl, ?_, .empty⟩
      exact .many fun c there => holds_nameRest_iff.mpr (continues c there)

theorem names_of_literal {part : Text} (literal : part.head? ≠ some ':') (parts : List Text) :
    names ((part :: parts).map Segment.ofText) = names (parts.map Segment.ofText) := by
  rw [List.map_cons, ofText_of_literal literal]
  rfl

theorem ofText_eq_param_iff {part : Text} :
    Segment.ofText part = .param name ↔ part = ':' :: name := by
  unfold Segment.ofText
  split
  · simp
  · next literal =>
    constructor
    · intro other
      cases other
    · intro same
      exact absurd same (literal name)

/-- The parameters among the segments of a pattern, with and without their colons. -/
theorem filter_eq_map_names (parts : List Text) :
    parts.filter (·.head? = some ':') = (names (parts.map Segment.ofText)).map (':' :: ·) := by
  induction parts with
  | nil => rfl
  | cons part rest ih =>
    by_cases literal : part.head? = some ':'
    · obtain ⟨name, rfl⟩ := List.head?_eq_some_iff.mp literal
      rw [List.filter_cons_of_pos (by simp), ih]
      rfl
    · rw [List.filter_cons_of_neg (by simpa using literal), ih, names_of_literal literal]

theorem mem_names_iff : name ∈ names (parts.map Segment.ofText) ↔ ':' :: name ∈ parts := by
  rw [names, List.filterMap_map, List.mem_filterMap]
  constructor
  · rintro ⟨part, there, found⟩
    cases segment : Segment.ofText part with
    | literal text => simp [segment, Segment.name?] at found
    | param other =>
      obtain rfl : other = name := by simpa [segment, Segment.name?] using found
      rwa [← ofText_eq_param_iff.mp segment]
  · intro there
    exact ⟨_, there, rfl⟩

theorem faultless_iff (text : Text) (parts : List Text) :
    Faultless parts ↔ offence? text [] (parts.map Segment.ofText) = none := by
  have distinct : (parts.filter (·.head? = some ':')).Nodup ↔
      (names (parts.map Segment.ofText)).Nodup := by
    rw [filter_eq_map_names]
    exact List.nodup_map_iff fun _ _ same => (List.cons.inj same).2
  rw [offence?_eq_none_iff]
  simp only [mem_names_iff, isName_iff, ← distinct]
  constructor
  · rintro ⟨proper, once⟩
    exact ⟨proper, once, by simp⟩
  · rintro ⟨proper, once, _⟩
    exact ⟨proper, once⟩

theorem offence?_append (text : Text) (seen : List Text) (first rest : List Segment) :
    offence? text seen (first ++ rest) =
      (offence? text seen first).or (offence? text ((names first).reverse ++ seen) rest) := by
  induction first generalizing seen with
  | nil => rfl
  | cons segment first ih =>
    cases segment with
    | literal part => exact ih seen
    | param name =>
      have all : names (.param name :: first) = name :: names first := rfl
      simp only [List.cons_append, offence?, all, ih]
      split
      · rfl
      · split
        · rfl
        · simp

/-- The segments before the one that is reported give no offence. -/
theorem exists_of_offence? {segments : List Segment}
    (found : offence? text seen segments = some error) :
    ∃ before name after, segments = before ++ .param name :: after ∧
      offence? text seen before = none ∧
      offence? text ((names before).reverse ++ seen) [.param name] = some error := by
  induction segments generalizing seen with
  | nil => cases found
  | cons segment rest ih =>
    cases segment with
    | literal part =>
      obtain ⟨before, name, after, rfl, none, last⟩ := ih found
      exact ⟨.literal part :: before, name, after, rfl, none, last⟩
    | param name =>
      cases own : offence? text seen [.param name] with
      | some reported =>
        have whole := offence?_append text seen [.param name] rest
        rw [List.singleton_append, found, own, Option.some_or] at whole
        exact ⟨[], name, rest, rfl, rfl, own.trans whole.symm⟩
      | none =>
        have onward := offence?_append text seen [.param name] rest
        rw [List.singleton_append, found, own, Option.none_or] at onward
        obtain ⟨before, other, after, rfl, none, last⟩ := ih onward.symm
        refine ⟨.param name :: before, other, after, rfl, ?_, ?_⟩
        · have start := offence?_append text seen [.param name] before
          rwa [List.singleton_append, own, Option.none_or, none] at start
        · have all : names (.param name :: before) = name :: names before := rfl
          have same : (names [Segment.param name]).reverse ++ seen = name :: seen := rfl
          rw [same] at last
          simpa [all] using last

theorem exists_parse_eq_ok_iff :
    (∃ pattern, parse text = .ok pattern) ↔ Faultless (DocBrowser.segments text) := by
  rw [faultless_iff text, parse, segments]
  cases offence? text [] ((DocBrowser.segments text).map Segment.ofText) <;> simp

theorem parse_eq_error_iff :
    parse text = .error error ↔ FirstFault text (DocBrowser.segments text) error := by
  have reported : parse text = .error error ↔
      offence? text [] ((DocBrowser.segments text).map Segment.ofText) = some error := by
    rw [parse, segments]
    cases offence? text [] ((DocBrowser.segments text).map Segment.ofText) <;> simp
  rw [reported]
  constructor
  · intro found
    obtain ⟨_, name, _, split, none, last⟩ := exists_of_offence? found
    obtain ⟨before, others, whole, rfl, rest⟩ := List.map_eq_append_iff.mp split
    obtain ⟨part, after, rfl, parameter, _⟩ := List.map_eq_cons_iff.mp rest
    obtain rfl := ofText_eq_param_iff.mp parameter
    have faultless := (faultless_iff text before).mpr none
    simp only [offence?, List.append_nil, List.mem_reverse, mem_names_iff] at last
    split at last
    · next malformed =>
      cases last
      exact .malformed whole faultless fun proper => malformed (isName_iff.mpr proper)
    · next proper =>
      split at last
      · next again =>
        cases last
        exact .repeated whole faultless (isName_iff.mp (by simpa using proper)) again
      · cases last
  · intro fault
    cases fault with
    | malformed whole faultless malformed =>
      rw [whole, List.map_append, offence?_append, (faultless_iff text _).mp faultless]
      simp [Segment.ofText, offence?, isName_iff, malformed]
    | repeated whole faultless proper again =>
      rw [whole, List.map_append, offence?_append, (faultless_iff text _).mp faultless]
      simp [Segment.ofText, offence?, isName_iff, proper, mem_names_iff, again]

/-- Patterns are accepted by the form of their parameters. They match the paths that come from
replacing these by texts, and give each parameter what its text is decoded to. -/
theorem patterns_match_by_replacement (text : Text) :
    ((∃ pattern, parse text = .ok pattern) ↔ Faultless (DocBrowser.segments text)) ∧
      (∀ error, parse text = .error error ↔
        FirstFault text (DocBrowser.segments text) error) ∧
      ∀ pattern, parse text = .ok pattern → ∀ path,
        ((∃ params, pattern.matches? path = some params) ↔ ∃ raw, Replaces text raw path) ∧
        ∀ raw, Replaces text raw path →
          (∀ other, Replaces text other path → other = raw) ∧
          pattern.matches? path = some (decoded raw) := by
  refine ⟨exists_parse_eq_ok_iff, fun _ => parse_eq_error_iff, ?_⟩
  intro pattern parsed path
  obtain rfl := (parse_eq_ok_iff.mp parsed).1
  constructor
  · constructor
    · rintro ⟨params, found⟩
      exact exists_replaces_of_matches? found
    · rintro ⟨raw, replaces⟩
      exact ⟨_, matches?_of_replaces replaces⟩
  · intro raw replaces
    refine ⟨?_, matches?_of_replaces replaces⟩
    intro other again
    exact replaces.eq_of_replaces again

/-- Neither a dot in a pattern nor a new line in a path means anything but itself. -/
theorem dotted_pattern_is_matched :
    let text : Text := "/a.b/:x/:_y"
    let path : Text := "/a.b/%41/\n*"
    let raw : Params := [("x", "%41"), ("_y", "\n*")]
    let params : Params := [("x", "A"), ("_y", "\n*")]
    ∃ pattern, parse text = .ok pattern ∧ Replaces text raw path ∧
      (∀ other, Replaces text other path → other = raw) ∧
      pattern.matches? path = some params := by
  intro text path raw params
  have parsed : parse text = .ok (ofText text) := by rfl
  have replaces : Replaces text raw path := by
    refine ⟨[[], "a.b", "%41", "\n*"], ?_, rfl⟩
    apply Fills.literal (by decide)
    apply Fills.literal (by decide)
    apply Fills.parameter (by decide) (by decide)
    apply Fills.parameter (by decide) (by decide)
    exact .nil
  obtain ⟨_, _, accepted⟩ := patterns_match_by_replacement text
  obtain ⟨alone, matched⟩ := (accepted _ parsed path).2 raw replaces
  exact ⟨_, parsed, replaces, alone, matched⟩

end Pattern

end DocBrowser
