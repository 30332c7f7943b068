import DocBrowser.Proofs.Route.Expression
import DocBrowser.Proofs.Route.Patterns
import DocBrowser.Proofs.Route.Percent

/-!
Matches of patterns with paths, segment by segment, which is what their expressions come to. A
template that is filled in with the parameters of its own match gives the path back, as long as
nothing in the path was decoded, and a slash at the end of a pattern stands for a slash at the end of
the path.
-/

namespace DocBrowser

namespace Pattern

open Percent (decode)

/-- The parameters of a match of pattern segments with the segments of a path. -/
def matchSegments : List Segment → List Text → Option Params
  | [], [] => some []
  | .literal text :: rest, part :: parts =>
    if text = part then matchSegments rest parts else none
  | .param name :: rest, part :: parts =>
    if part = [] then none
    else (matchSegments rest parts).map ((name, decode part) :: ·)
  | _, _ => none

variable {path template text name : Text} {parts first rest : List Segment}
  {given texts : List Text} {raw params : Params}

/-! How the segments of a path are taken, one at a time. -/

theorem matchSegments_nil_iff :
    matchSegments [] given = some params ↔ given = [] ∧ params = [] := by
  cases given <;> simp [matchSegments, eq_comm]

theorem matchSegments_literal_iff :
    matchSegments (.literal text :: rest) given = some params ↔
      ∃ later, given = text :: later ∧ matchSegments rest later = some params := by
  cases given with
  | nil => simp [matchSegments]
  | cons part later =>
    by_cases same : text = part
    · simp [matchSegments, same]
    · simp [matchSegments, same, Ne.symm same]

theorem matchSegments_param_iff :
    matchSegments (.param name :: rest) given = some params ↔
      ∃ part later others, given = part :: later ∧ part ≠ [] ∧
        matchSegments rest later = some others ∧ params = (name, decode part) :: others := by
  cases given with
  | nil => simp [matchSegments]
  | cons part later =>
    by_cases empty : part = []
    · simp [matchSegments, empty]
    · simp only [matchSegments, empty, if_false, Option.map_eq_some_iff]
      constructor
      · rintro ⟨others, found, rfl⟩
        exact ⟨part, later, others, rfl, empty, found, rfl⟩
      · rintro ⟨_, _, others, same, _, found, rfl⟩
        cases same
        exact ⟨others, found, rfl⟩

theorem eq_nil_of_matchSegments_nil (found : matchSegments parts [] = some params) :
    parts = [] := by
  cases parts with
  | nil => rfl
  | cons segment rest => cases segment <;> cases found

theorem matchSegments_append {before after : List Text} {taken others : Params}
    (start : matchSegments first before = some taken)
    (finish : matchSegments rest after = some others) :
    matchSegments (first ++ rest) (before ++ after) = some (taken ++ others) := by
  induction first generalizing before taken with
  | nil =>
    obtain ⟨rfl, rfl⟩ := matchSegments_nil_iff.mp start
    exact finish
  | cons segment first ih =>
    cases segment with
    | literal text =>
      obtain ⟨before, rfl, more⟩ := matchSegments_literal_iff.mp start
      exact matchSegments_literal_iff.mpr ⟨_, rfl, ih more⟩
    | param name =>
      obtain ⟨part, before, taken, rfl, nonempty, more, rfl⟩ := matchSegments_param_iff.mp start
      exact matchSegments_param_iff.mpr ⟨part, _, _, rfl, nonempty, ih more, rfl⟩

theorem exists_of_matchSegments_append (found : matchSegments (first ++ rest) given = some params) :
    ∃ before after taken others, given = before ++ after ∧ params = taken ++ others ∧
      matchSegments first before = some taken ∧ matchSegments rest after = some others := by
  induction first generalizing given params with
  | nil => exact ⟨[], given, [], params, rfl, rfl, rfl, found⟩
  | cons segment first ih =>
    cases segment with
    | literal text =>
      obtain ⟨later, rfl, more⟩ := matchSegments_literal_iff.mp found
      obtain ⟨before, after, taken, others, rfl, rfl, start, finish⟩ := ih more
      refine ⟨text :: before, after, taken, others, rfl, rfl, ?_, finish⟩
      exact matchSegments_literal_iff.mpr ⟨before, rfl, start⟩
    | param name =>
      obtain ⟨part, later, captured, rfl, nonempty, more, rfl⟩ := matchSegments_param_iff.mp found
      obtain ⟨before, after, taken, others, rfl, rfl, start, finish⟩ := ih more
      refine ⟨part :: before, after, (name, decode part) :: taken, others, rfl, rfl, ?_, finish⟩
      exact matchSegments_param_iff.mpr ⟨part, before, taken, rfl, nonempty, start, rfl⟩

/-! The expression of a pattern matches in the same way. -/

theorem Fills.matchSegments_eq (fills : Fills texts raw given) :
    matchSegments (texts.map Segment.ofText) given = some (decoded raw) := by
  induction fills with
  | nil => rfl
  | literal literal _ ih =>
    rw [List.map_cons, ofText_of_literal literal]
    exact matchSegments_literal_iff.mpr ⟨_, rfl, ih⟩
  | parameter nonempty _ _ ih =>
    exact matchSegments_param_iff.mpr ⟨_, _, _, rfl, nonempty, ih, rfl⟩

theorem exists_fills (found : matchSegments (texts.map Segment.ofText) given = some params)
    (whole : ∀ part ∈ given, '/' ∉ part) : ∃ raw, Fills texts raw given := by
  induction texts generalizing given params with
  | nil =>
    obtain ⟨rfl, _⟩ := matchSegments_nil_iff.mp found
    exact ⟨[], .nil⟩
  | cons part rest ih =>
    by_cases literal : part.head? = some ':'
    · obtain ⟨name, rfl⟩ := List.head?_eq_some_iff.mp literal
      obtain ⟨value, later, others, rfl, nonempty, more, _⟩ := matchSegments_param_iff.mp found
      have ⟨unslashed, whole⟩ := List.forall_mem_cons.mp whole
      obtain ⟨raw, fills⟩ := ih more whole
      exact ⟨_, .parameter nonempty unslashed fills⟩
    · rw [List.map_cons, ofText_of_literal literal] at found
      obtain ⟨later, rfl, more⟩ := matchSegments_literal_iff.mp found
      obtain ⟨raw, fills⟩ := ih more (List.forall_mem_cons.mp whole).2
      exact ⟨_, .literal literal fills⟩

/-- A path is matched with the expression of a pattern as it is segment by segment. -/
theorem matches?_ofText (text path : Text) :
    (ofText text).matches? path = matchSegments (segments text) (DocBrowser.segments path) := by
  apply Option.ext
  intro params
  rw [matches?_eq_some_iff]
  constructor
  · rintro ⟨raw, replaces, rfl⟩
    exact (replaces_iff.mp replaces).matchSegments_eq
  · intro found
    obtain ⟨raw, fills⟩ := exists_fills found fun _ => not_mem_of_mem_segments
    refine ⟨raw, replaces_iff.mpr fills, ?_⟩
    exact Option.some.inj (found.symm.trans fills.matchSegments_eq)

/-! Templates filled in. -/

/-- What a segment of a template becomes. -/
def fill (params : Params) : Segment → Text
  | .literal text => text
  | .param name => params.get name

theorem interpolate_eq (template : Text) (params : Params) :
    interpolate template params = ofSegments ((segments template).map (fill params)) := by
  rw [interpolate, segments, List.map_map]
  congr 1
  apply List.map_congr_left
  intro part _
  simp only [Function.comp_apply]
  cases Segment.ofText part <;> rfl

/-- A parameter that no segment is named after fills none. -/
theorem map_fill_cons (absent : name ∉ names parts) (value : Text) (params : Params) :
    parts.map (fill ((name, value) :: params)) = parts.map (fill params) := by
  apply List.map_congr_left
  intro part there
  cases part with
  | literal text => rfl
  | param other =>
    have different : (other == name) = false := by
      rw [beq_eq_false_iff_ne]
      rintro rfl
      exact absent (List.mem_filterMap.mpr ⟨_, there, rfl⟩)
    simp [fill, Params.get, Params.get?, List.lookup_cons, different]

theorem map_fill_of_matchSegments (distinct : (names parts).Nodup)
    (plain : ∀ part ∈ given, decode part = part)
    (found : matchSegments parts given = some params) : parts.map (fill params) = given := by
  induction parts generalizing given params with
  | nil => exact (matchSegments_nil_iff.mp found).1.symm
  | cons segment rest ih =>
    cases segment with
    | literal text =>
      obtain ⟨later, rfl, more⟩ := matchSegments_literal_iff.mp found
      rw [List.map_cons, ih distinct (List.forall_mem_cons.mp plain).2 more]
      rfl
    | param name =>
      obtain ⟨part, later, others, rfl, _, more, rfl⟩ := matchSegments_param_iff.mp found
      have ⟨own, still⟩ := List.forall_mem_cons.mp plain
      have ⟨once, apart⟩ := List.nodup_cons.mp distinct
      rw [List.map_cons, map_fill_cons once, ih apart still more, own]
      simp [fill, Params.get, Params.get?]

/-- A template filled in from a match of itself is the path. -/
theorem interpolate_of_matches? (distinct : (names (segments template)).Nodup)
    (plain : '%' ∉ path) (found : (ofText template).matches? path = some params) :
    interpolate template params = path := by
  rw [matches?_ofText] at found
  rw [interpolate_eq, map_fill_of_matchSegments distinct _ found, ofSegments_segments]
  intro part there
  apply Percent.decode_of_not_mem
  intro sign
  exact plain (mem_of_mem_segments there sign)

/-! Slashes at the end. -/

theorem matches?_append_slash (found : (ofText text).matches? path = some params) :
    (ofText (text ++ ['/'])).matches? (path ++ ['/']) = some params := by
  have slash : matchSegments [.literal []] [[]] = some [] := rfl
  rw [matches?_ofText] at found
  have both := matchSegments_append found slash
  rwa [List.append_nil, ← segments_with_slash, ← segments_append_slash, ← matches?_ofText] at both

theorem exists_of_matches?_append_slash
    (found : (ofText (text ++ ['/'])).matches? path = some params) :
    ∃ shorter, path = shorter ++ ['/'] ∧ (ofText text).matches? shorter = some params := by
  rw [matches?_ofText, segments_with_slash] at found
  obtain ⟨before, after, taken, others, parts, rfl, start, finish⟩ :=
    exists_of_matchSegments_append found
  obtain ⟨_, rfl, last⟩ := matchSegments_literal_iff.mp finish
  obtain ⟨rfl, rfl⟩ := matchSegments_nil_iff.mp last
  have nonempty : before ≠ [] := by
    rintro rfl
    have nothing := eq_nil_of_matchSegments_nil start
    exact List.splitOn_ne_nil '/' text (List.map_eq_nil_iff.mp nothing)
  have whole : DocBrowser.segments (ofSegments before) = before := by
    apply segments_ofSegments _ nonempty
    intro part there
    exact @not_mem_of_mem_segments path part (by simp [parts, there])
  refine ⟨ofSegments before, ?_, ?_⟩
  · rw [← ofSegments_segments path, parts, ← ofSegments_segments (_ ++ ['/']),
      segments_append_slash, whole]
  · rw [matches?_ofText, whole, start, List.append_nil]

/-- Only the empty pattern matches the empty path. -/
theorem eq_nil_of_matches?_nil (found : (ofText text).matches? [] = some params) : text = [] := by
  obtain ⟨raw, replaces, _⟩ := matches?_eq_some_iff.mp found
  have fills := replaces_iff.mp replaces
  have none : DocBrowser.segments [] = [[]] := rfl
  rw [none] at fills
  have written := ofSegments_segments text
  cases parts : DocBrowser.segments text with
  | nil => exact absurd parts (List.splitOn_ne_nil '/' text)
  | cons part rest =>
    rw [parts] at fills written
    cases fills with
    | literal _ nothing =>
      cases nothing
      exact written.symm.trans (ofSegments_singleton [])
    | parameter nonempty => exact absurd rfl nonempty

end Pattern

end DocBrowser
