import DocBrowser.Proofs.Regex.Matching
import DocBrowser.Proofs.Route.Segments

/-!
The paths that a pattern matches, by its expression: those that its text becomes when something is
written in the place of each parameter, each path in one way only. The groups of the match are what
was written there.
-/

namespace DocBrowser

open Regex (row)

namespace Regex

variable {before taken after : Text} {kept : List (Nat × Text)}

theorem takes_map_char_iff {text : Text} :
    (row (text.map char)).Takes before taken after kept ↔ taken = text ∧ kept = [] := by
  induction text generalizing before taken kept with
  | nil => exact takes_row_nil_iff
  | cons c rest ih =>
    rw [List.map_cons, takes_row_cons_iff]
    constructor
    · rintro ⟨own, more, earlier, later, rfl, rfl, first, onward⟩
      obtain ⟨rfl, rfl⟩ := takes_char_iff.mp first
      obtain ⟨rfl, rfl⟩ := ih.mp onward
      exact ⟨rfl, rfl⟩
    · rintro ⟨rfl, rfl⟩
      exact ⟨[c], rest, [], [], rfl, rfl, takes_char_iff.mpr ⟨rfl, rfl⟩, ih.mpr ⟨rfl, rfl⟩⟩

theorem takes_divided_iff {parts others : List Regex} {c : Char} :
    (row (parts ++ char c :: others)).Takes before taken after kept ↔
      ∃ own more earlier later, taken = own ++ c :: more ∧ kept = later ++ earlier ∧
        (row parts).Takes before own (c :: more ++ after) earlier ∧
        (row others).Takes (before ++ own ++ [c]) more after later := by
  rw [takes_row_append_iff]
  constructor
  · rintro ⟨own, _, earlier, _, rfl, rfl, first, onward⟩
    obtain ⟨_, more, _, later, rfl, rfl, divider, rest⟩ := takes_row_cons_iff.mp onward
    obtain ⟨rfl, rfl⟩ := takes_char_iff.mp divider
    exact ⟨own, more, earlier, later, rfl, by simp, first, rest⟩
  · rintro ⟨own, more, earlier, later, rfl, rfl, first, rest⟩
    refine ⟨own, c :: more, earlier, later, rfl, rfl, first, ?_⟩
    exact takes_row_cons_iff.mpr
      ⟨[c], more, [], later, rfl, by simp, takes_char_iff.mpr ⟨rfl, rfl⟩, rest⟩

theorem holds_unslashed_iff {c : Char} : unslashed.holds c = true ↔ c ≠ '/' := by
  have same : unslashed.holds c = !(CharClass.single '/').holds c := by
    simp [unslashed, CharClass.holds, CharClass.single]
  rw [same, Bool.not_eq_true', ← Bool.not_eq_true, holds_single_iff]

/-- The group of a parameter takes any text without a slash, but not nothing. -/
theorem takes_parameter_iff {number : Nat} :
    (parameter number).Takes before taken after kept ↔
      taken ≠ [] ∧ '/' ∉ taken ∧ kept = [(number, taken)] := by
  have unslash {text : Text} : (∀ c ∈ text, unslashed.holds c = true) ↔ '/' ∉ text := by
    simp only [holds_unslashed_iff]
    exact ⟨fun other there => other _ there rfl, fun absent c there same => absent (same ▸ there)⟩
  rw [parameter, takes_group_iff]
  constructor
  · rintro ⟨earlier, takes, rfl⟩
    obtain ⟨_, _, _, _, rfl, rfl, first, onward⟩ := takes_row_cons_iff.mp takes
    obtain ⟨c, rfl, holds, rfl⟩ := takes_one_iff.mp first
    obtain ⟨more, _, _, _, rfl, rfl, repeated, nothing⟩ := takes_row_cons_iff.mp onward
    obtain ⟨all, rfl⟩ := takes_many_iff.mp repeated
    obtain ⟨rfl, rfl⟩ := takes_row_nil_iff.mp nothing
    refine ⟨List.cons_ne_nil _ _, ?_, rfl⟩
    rw [← unslash, List.append_nil]
    exact List.forall_mem_cons.mpr ⟨holds, all⟩
  · rintro ⟨some, absent, rfl⟩
    obtain ⟨c, more, rfl⟩ := List.exists_cons_of_ne_nil some
    have ⟨holds, all⟩ := List.forall_mem_cons.mp (unslash.mpr absent)
    have repeated : (row [.many unslashed]).Takes (before ++ [c]) more after [] :=
      takes_row_cons_iff.mpr ⟨more, [], [], [], by simp, rfl, .many all, .empty⟩
    exact ⟨[], takes_row_cons_iff.mpr ⟨[c], more, [], [], rfl, rfl, .one holds, repeated⟩, rfl⟩

end Regex

namespace Pattern

open Percent (decode)

/-- Segments of a pattern with a text in the place of each parameter. -/
inductive Fills : List Text → Params → List Text → Prop
  | nil : Fills [] [] []
  | literal {part : Text} {parts given : List Text} {raw : Params} : part.head? ≠ some ':' →
      Fills parts raw given → Fills (part :: parts) raw (part :: given)
  | parameter {name value : Text} {parts given : List Text} {raw : Params} : value ≠ [] →
      '/' ∉ value → Fills parts raw given →
      Fills ((':' :: name) :: parts) ((name, value) :: raw) (value :: given)

/-- The parameters of a match: each name with what the text in its place is decoded to. -/
def decoded (raw : Params) : Params := raw.map (Prod.map id decode)

/-- The path is the text of a pattern, but for a text without slashes instead of each parameter. -/
def Replaces (text : Text) (raw : Params) (path : Text) : Prop :=
  ∃ given, Fills (DocBrowser.segments text) raw given ∧ path = ofSegments given

variable {text path before taken after part name : Text} {parts given : List Text}
  {raw other params : Params} {kept : List (Nat × Text)}

theorem ofText_of_literal (literal : part.head? ≠ some ':') :
    Segment.ofText part = .literal part := by
  unfold Segment.ofText
  split
  · simp at literal
  · rfl

namespace Fills

theorem ne_nil (fills : Fills parts raw given) (some : parts ≠ []) : given ≠ [] := by
  cases fills with
  | nil => exact some
  | literal => exact List.cons_ne_nil _ _
  | parameter => exact List.cons_ne_nil _ _

/-- The texts are written in the places of the parameters, in their order. -/
theorem names_eq (fills : Fills parts raw given) :
    raw.map Prod.fst = names (parts.map Segment.ofText) := by
  induction fills with
  | nil => rfl
  | literal literal _ ih =>
    rw [ih, List.map_cons, ofText_of_literal literal]
    rfl
  | parameter _ _ _ ih =>
    rw [List.map_cons, ih]
    rfl

theorem length_eq (fills : Fills parts raw given) :
    (names (parts.map Segment.ofText)).length = (raw.map Prod.snd).length := by
  rw [← fills.names_eq, List.length_map, List.length_map]

/-- Segments are filled one by one. -/
theorem cons_iff :
    Fills (part :: parts) raw given ↔
      ∃ own more value later, raw = own ++ more ∧ given = value :: later ∧
        Fills [part] own [value] ∧ Fills parts more later := by
  constructor
  · intro fills
    cases fills with
    | literal literal rest => exact ⟨[], _, _, _, rfl, rfl, .literal literal .nil, rest⟩
    | parameter some whole rest => exact ⟨[_], _, _, _, rfl, rfl, .parameter some whole .nil, rest⟩
  · rintro ⟨own, more, value, later, rfl, rfl, first, rest⟩
    cases first with
    | literal literal nothing =>
      cases nothing
      exact .literal literal rest
    | parameter some whole nothing =>
      cases nothing
      exact .parameter some whole rest

end Fills

/-- The groups that keep some values, after other groups. -/
def numbered (groups : Nat) : List Text → List (Nat × Text)
  | [] => []
  | value :: rest => numbered (groups + 1) rest ++ [(groups + 1, value)]

theorem numbered_append (groups : Nat) (first rest : List Text) :
    numbered groups (first ++ rest) =
      numbered (groups + first.length) rest ++ numbered groups first := by
  induction first generalizing groups with
  | nil => simp [numbered]
  | cons value first ih => simp [numbered, ih, Nat.add_assoc, Nat.add_comm 1]

theorem takes_regexes_segment_iff {groups : Nat} :
    (row ((Segment.ofText part).regexes groups)).Takes before taken after kept ↔
      ∃ raw, Fills [part] raw [taken] ∧ kept = numbered groups (raw.map Prod.snd) := by
  by_cases literal : part.head? = some ':'
  · obtain ⟨name, rfl⟩ := List.head?_eq_some_iff.mp literal
    have own : (Segment.ofText (':' :: name)).regexes groups = [Regex.parameter (groups + 1)] := rfl
    rw [own]
    constructor
    · intro takes
      obtain ⟨_, _, _, _, rfl, rfl, first, nothing⟩ := Regex.takes_row_cons_iff.mp takes
      obtain ⟨rfl, rfl⟩ := Regex.takes_row_nil_iff.mp nothing
      obtain ⟨some, whole, rfl⟩ := Regex.takes_parameter_iff.mp first
      rw [List.append_nil]
      exact ⟨_, .parameter some whole .nil, rfl⟩
    · rintro ⟨_, fills, rfl⟩
      cases fills with
      | literal other => exact absurd literal other
      | parameter some whole nothing =>
        cases nothing
        refine Regex.takes_row_cons_iff.mpr ⟨taken, [], _, [], by simp, rfl, ?_, .empty⟩
        exact Regex.takes_parameter_iff.mpr ⟨some, whole, rfl⟩
  · rw [ofText_of_literal literal]
    refine Regex.takes_map_char_iff.trans ?_
    constructor
    · rintro ⟨rfl, rfl⟩
      exact ⟨[], .literal literal .nil, rfl⟩
    · rintro ⟨_, fills, rfl⟩
      cases fills with
      | literal _ nothing =>
        cases nothing
        exact ⟨rfl, rfl⟩
      | parameter => exact absurd rfl literal

/-- What is read of some segments takes what they are filled to, and keeps what was filled in under
the numbers that follow those of the groups before. -/
theorem takes_regexes_iff {groups : Nat} :
    (row (regexes groups (parts.map Segment.ofText))).Takes before taken after kept ↔
      ∃ raw given, Fills parts raw given ∧ taken = ofSegments given ∧
        kept = numbered groups (raw.map Prod.snd) := by
  induction parts generalizing groups before taken kept with
  | nil =>
    constructor
    · intro takes
      obtain ⟨rfl, rfl⟩ := Regex.takes_row_nil_iff.mp takes
      exact ⟨[], [], .nil, rfl, rfl⟩
    · rintro ⟨_, _, fills, rfl, rfl⟩
      cases fills
      exact .empty
  | cons part rest ih =>
    cases rest with
    | nil =>
      refine takes_regexes_segment_iff.trans ?_
      constructor
      · rintro ⟨raw, fills, rfl⟩
        exact ⟨raw, [taken], fills, (ofSegments_singleton taken).symm, rfl⟩
      · rintro ⟨raw, _, fills, rfl, rfl⟩
        obtain ⟨own, more, value, later, rfl, rfl, first, nothing⟩ := Fills.cons_iff.mp fills
        cases nothing
        rw [ofSegments_singleton]
        exact ⟨own ++ [], by simpa using first, rfl⟩
    | cons next rest =>
      refine Regex.takes_divided_iff.trans ?_
      constructor
      · rintro ⟨value, _, _, _, rfl, rfl, first, onward⟩
        obtain ⟨own, fills, rfl⟩ := takes_regexes_segment_iff.mp first
        obtain ⟨more, later, others, rfl, rfl⟩ := ih.mp onward
        have both : Fills (part :: next :: rest) (own ++ more) (value :: later) :=
          Fills.cons_iff.mpr ⟨_, _, _, _, rfl, rfl, fills, others⟩
        have some := others.ne_nil (List.cons_ne_nil _ _)
        have count : (names [Segment.ofText part]).length = (own.map Prod.snd).length :=
          fills.length_eq
        refine ⟨_, _, both, (ofSegments_cons some).symm, ?_⟩
        rw [count, List.map_append, numbered_append]
      · rintro ⟨_, _, fills, rfl, rfl⟩
        obtain ⟨own, more, value, later, rfl, rfl, fills, others⟩ := Fills.cons_iff.mp fills
        have some := others.ne_nil (List.cons_ne_nil _ _)
        have count : (names [Segment.ofText part]).length = (own.map Prod.snd).length :=
          fills.length_eq
        refine ⟨value, ofSegments later, _, _, ofSegments_cons some, ?_,
          takes_regexes_segment_iff.mpr ⟨own, fills, rfl⟩,
          ih.mpr ⟨more, later, others, rfl, rfl⟩⟩
        rw [count, List.map_append, numbered_append]

/-! Reading the parameters off a match. -/

theorem lookup_numbered_of_le {number groups : Nat} (earlier : number ≤ groups)
    (values : List Text) : (numbered groups values).lookup number = none := by
  induction values generalizing groups with
  | nil => rfl
  | cons value rest ih =>
    have other : (number == groups + 1) = false := beq_eq_false_iff_ne.mpr (by omega)
    rw [numbered, List.lookup_append, ih (Nat.le_succ_of_le earlier), Option.none_or,
      List.lookup_cons, other]
    rfl

theorem lookup_numbered (groups : Nat) (values : List Text) (i : Nat) :
    (numbered groups values).lookup (groups + i + 1) = values[i]? := by
  induction values generalizing groups i with
  | nil => rfl
  | cons value rest ih =>
    rw [numbered, List.lookup_append]
    cases i with
    | zero =>
      rw [lookup_numbered_of_le (Nat.le_refl _), Option.none_or, Nat.add_zero, List.lookup_cons_self]
      rfl
    | succ i =>
      have other : (groups + (i + 1) + 1 == groups + 1) = false :=
        beq_eq_false_iff_ne.mpr (by omega)
      have later := ih (groups + 1) i
      rw [Nat.add_assoc groups, Nat.add_comm 1] at later
      rw [later, List.lookup_cons, other, List.lookup_nil, Option.or_none]
      rfl

/-- Groups that hold what is written in the places of parameters give these to their names. -/
theorem filterMap_zipIdx_eq_decoded {get : Nat → Option Text} (raw : Params) (groups : Nat)
    (held : ∀ i, get (groups + i + 1) = (raw.map Prod.snd)[i]?) :
    ((raw.map Prod.fst).zipIdx groups).filterMap
        (fun (name, i) => (get (i + 1)).map fun value => (name, decode value)) = decoded raw := by
  induction raw generalizing groups with
  | nil => rfl
  | cons entry rest ih =>
    obtain ⟨name, value⟩ := entry
    have own : get (groups + 1) = some value := held 0
    have later := ih (groups + 1) fun i => by
      have next := held (i + 1)
      rwa [← Nat.add_assoc, Nat.add_right_comm groups] at next
    simp only [List.map_cons, List.zipIdx_cons, List.filterMap_cons, own, Option.map_some, later]
    rfl

namespace Fills

/-- A slash comes neither from a segment nor from what is written in its place. -/
theorem whole (fills : Fills parts raw given) (undivided : ∀ part ∈ parts, '/' ∉ part) :
    ∀ part ∈ given, '/' ∉ part := by
  induction fills with
  | nil => exact undivided
  | literal _ _ ih =>
    have ⟨first, rest⟩ := List.forall_mem_cons.mp undivided
    exact List.forall_mem_cons.mpr ⟨first, ih rest⟩
  | parameter _ unslashed _ ih =>
    exact List.forall_mem_cons.mpr ⟨unslashed, ih (List.forall_mem_cons.mp undivided).2⟩

/-- There is one way only to come from a pattern to a path. -/
theorem eq_of_fills (fills : Fills parts raw given) (again : Fills parts other given) :
    other = raw := by
  induction fills generalizing other with
  | nil =>
    cases again
    rfl
  | literal literal _ ih =>
    cases again with
    | literal _ again => exact ih again
    | parameter => exact absurd rfl literal
  | parameter _ _ _ ih =>
    cases again with
    | literal literal _ => exact absurd rfl literal
    | parameter _ _ again => rw [ih again]

end Fills

theorem replaces_iff : Replaces text raw path ↔
    Fills (DocBrowser.segments text) raw (DocBrowser.segments path) := by
  constructor
  · rintro ⟨given, fills, rfl⟩
    have undivided := fills.whole fun _ => not_mem_of_mem_segments
    rwa [segments_ofSegments undivided (fills.ne_nil (List.splitOn_ne_nil '/' text))]
  · intro fills
    exact ⟨_, fills, (ofSegments_segments path).symm⟩

theorem Replaces.eq_of_replaces (replaces : Replaces text raw path)
    (again : Replaces text other path) : other = raw :=
  (replaces_iff.mp replaces).eq_of_fills (replaces_iff.mp again)

theorem regex_ofText (text : Text) :
    (ofText text).regex = row (.start :: regexes 0 (segments text) ++ [.finish]) := by
  simp only [ofText, read_expression, Option.get_some]

/-- The expression takes the whole of the paths that come from replacing the parameters. -/
theorem takes_regex_iff :
    (ofText text).regex.Takes before taken after kept ↔
      before = [] ∧ after = [] ∧
        ∃ raw, Replaces text raw taken ∧ kept = numbered 0 (raw.map Prod.snd) := by
  rw [regex_ofText, Regex.takes_anchored_iff, segments, takes_regexes_iff]
  constructor
  · rintro ⟨rfl, rfl, raw, given, fills, rfl, rfl⟩
    exact ⟨rfl, rfl, raw, ⟨given, fills, rfl⟩, rfl⟩
  · rintro ⟨rfl, rfl, raw, ⟨given, fills, rfl⟩, rfl⟩
    exact ⟨rfl, rfl, raw, given, fills, rfl, rfl⟩

theorem matches?_eq_some_iff :
    (ofText text).matches? path = some params ↔
      ∃ raw, Replaces text raw path ∧ params = decoded raw := by
  have parameters {captures : Regex.Captures}
      (found : (ofText text).regex.captures? path = some captures) :
      ∃ raw, Replaces text raw path ∧ (ofText text).matches? path = some (decoded raw) := by
    obtain ⟨before, taken, after, kept, split, takes, held⟩ := Regex.exists_takes_of_captures? found
    obtain ⟨rfl, rfl, raw, replaces, rfl⟩ := takes_regex_iff.mp takes
    obtain rfl : path = taken := by simpa using split
    have values (i : Nat) : captures.get? (0 + i + 1) = (raw.map Prod.snd)[i]? := by
      rw [held, List.lookup_cons, ← lookup_numbered 0]
      rfl
    have names : (ofText text).params = raw.map Prod.fst :=
      (replaces_iff.mp replaces).names_eq.symm
    refine ⟨raw, replaces, ?_⟩
    rw [matches?, found, Option.map_some, names, filterMap_zipIdx_eq_decoded raw 0 values]
  constructor
  · intro matched
    obtain ⟨captures, found, _⟩ := Option.map_eq_some_iff.mp matched
    obtain ⟨raw, replaces, same⟩ := parameters found
    rw [matched] at same
    exact ⟨raw, replaces, Option.some.inj same⟩
  · rintro ⟨raw, replaces, rfl⟩
    have takes := takes_regex_iff.mpr ⟨rfl, rfl, raw, replaces, rfl⟩
    obtain ⟨captures, _, _, found, _⟩ := takes.exists_captures?
    rw [List.nil_append, List.append_nil] at found
    obtain ⟨other, again, matched⟩ := parameters found
    rwa [replaces.eq_of_replaces again] at matched

theorem matches?_of_replaces (replaces : Replaces text raw path) :
    (ofText text).matches? path = some (decoded raw) :=
  matches?_eq_some_iff.mpr ⟨raw, replaces, rfl⟩

theorem exists_replaces_of_matches? (found : (ofText text).matches? path = some params) :
    ∃ raw, Replaces text raw path :=
  (matches?_eq_some_iff.mp found).imp fun _ => And.left

end Pattern

end DocBrowser
