import DocBrowser.Proofs.Navigation.Shortening
import DocBrowser.Proofs.Route.Companions
import DocBrowser.Proofs.Route.Grammar

/-!
Which parameters survive a redirect between the two choices of trailing slash. The redirect writes
decoded values into a path that is cut and decoded again. Each of these steps makes a path shorter
or leaves it alone, and a path that gives the same parameters again is not shorter.
-/

namespace DocBrowser

open Utf8 (byteCount)
open Percent (decode dividers)

theorem byteCount_ofSegments_cons_lt {part other : Text} {rest others : List Text}
    (head : byteCount part ≤ byteCount other)
    (tail : byteCount (ofSegments rest) < byteCount (ofSegments others)) :
    byteCount (ofSegments (part :: rest)) < byteCount (ofSegments (other :: others)) := by
  cases others with
  | nil => cases tail
  | cons next others =>
    rw [byteCount_ofSegments_cons_cons other]
    cases rest with
    | nil =>
      rw [ofSegments_singleton]
      omega
    | cons first rest =>
      rw [byteCount_ofSegments_cons_cons]
      omega

theorem byteCount_ofSegments_head_lt {part other : Text}
    (head : byteCount part < byteCount other) (rest : List Text) :
    byteCount (ofSegments (part :: rest)) < byteCount (ofSegments (other :: rest)) := by
  cases rest with
  | nil => simpa using head
  | cons first rest =>
    rw [byteCount_ofSegments_cons_cons, byteCount_ofSegments_cons_cons]
    omega

theorem segments_of_rooted {path : Text} (rooted : path.head? = some '/') :
    ∃ next rest, segments path = [] :: next :: rest := by
  obtain ⟨rest, rfl⟩ := List.head?_eq_some_iff.mp rooted
  obtain ⟨next, others, parts⟩ := List.exists_cons_of_ne_nil (List.splitOn_ne_nil '/' rest)
  refine ⟨next, others, ?_⟩
  rw [← parts]
  exact List.splitOn_append_cons_self [] rest

namespace Pattern

/-- The segments of a pattern with the parameters of a match filled in. -/
def refilled (parts : List Text) (params : Params) : List Text :=
  (parts.map Segment.ofText).map (fill params)

variable {text path part : Text} {parts given : List Text} {raw params : Params}

theorem interpolate_eq_refilled (text : Text) (params : Params) :
    interpolate text params = ofSegments (refilled (DocBrowser.segments text) params) :=
  interpolate_eq text params

theorem refilled_literal (literal : part.head? ≠ some ':') (params : Params) :
    refilled (part :: parts) params = part :: refilled parts params := by
  rw [refilled, List.map_cons, ofText_of_literal literal]
  rfl

theorem refilled_parameter {name : Text}
    (absent : name ∉ names (parts.map Segment.ofText)) (value : Text) (params : Params) :
    refilled ((':' :: name) :: parts) ((name, value) :: params) =
      value :: refilled parts params := by
  have first : fill ((name, value) :: params) (.param name) = value := by
    simp [fill, Params.get, Params.get?]
  have own : Segment.ofText (':' :: name) = .param name := rfl
  rw [refilled, List.map_cons, List.map_cons, own, first, map_fill_cons absent]
  rfl

namespace Fills

/-- What was written in the places of parameters can be filled in again. -/
theorem refilled_raw (fills : Fills parts raw given)
    (distinct : (names (parts.map Segment.ofText)).Nodup) : refilled parts raw = given := by
  induction fills with
  | nil => rfl
  | literal literal _ ih =>
    rw [names_of_literal literal] at distinct
    rw [refilled_literal literal, ih distinct]
  | parameter _ _ _ ih =>
    have ⟨once, apart⟩ := List.nodup_cons.mp distinct
    rw [refilled_parameter once, ih apart]

/-- Filling in decoded values changes nothing, or makes the path shorter. -/
theorem unchanged_or_lt (fills : Fills parts raw given)
    (distinct : (names (parts.map Segment.ofText)).Nodup) :
    decoded raw = raw ∨
      byteCount (ofSegments (refilled parts (decoded raw))) < byteCount (ofSegments given) := by
  induction fills with
  | nil => exact .inl rfl
  | literal literal _ ih =>
    rw [names_of_literal literal] at distinct
    rw [refilled_literal literal]
    exact (ih distinct).imp_right (byteCount_ofSegments_cons_lt (Nat.le_refl _))
  | @parameter name value parts given raw _ _ rest ih =>
    have ⟨once, apart⟩ := List.nodup_cons.mp distinct
    have all : decoded ((name, value) :: raw) = (name, decode value) :: decoded raw := rfl
    rw [all, refilled_parameter once]
    rcases ih apart with unchanged | fewer
    · rcases Percent.decode_eq_or_byteCount_add_le value with same | saved
      · left
        rw [same, unchanged]
      · right
        rw [unchanged, rest.refilled_raw apart]
        exact byteCount_ofSegments_head_lt (by omega) given
    · exact .inr (byteCount_ofSegments_cons_lt (Percent.byteCount_decode_le value) fewer)

/-- A segment of the path is one of the pattern or the text for a parameter. -/
theorem mem_iff (fills : Fills parts raw given) :
    part ∈ given ↔ (part ∈ parts ∧ part.head? ≠ some ':') ∨ ∃ name, (name, part) ∈ raw := by
  induction fills with
  | nil => simp
  | literal literal _ ih =>
    simp only [List.mem_cons, ih]
    grind
  | @parameter name _ _ _ _ _ _ _ ih =>
    have colon : part = ':' :: name → part.head? = some ':' := by
      rintro rfl
      rfl
    simp only [List.mem_cons, ih, Prod.mk.injEq, exists_or, exists_eq_left]
    grind

/-- Values without slashes can stand in the places of the texts that they were decoded from. -/
theorem refill (fills : Fills parts raw given)
    (distinct : (names (parts.map Segment.ofText)).Nodup)
    (unslashed : ∀ entry ∈ decoded raw, '/' ∉ entry.2) :
    Fills parts (decoded raw) (refilled parts (decoded raw)) := by
  induction fills with
  | nil => exact .nil
  | literal literal _ ih =>
    rw [names_of_literal literal] at distinct
    rw [refilled_literal literal]
    exact .literal literal (ih distinct unslashed)
  | @parameter name value parts given raw nonempty _ _ ih =>
    have ⟨once, apart⟩ := List.nodup_cons.mp distinct
    have ⟨own, others⟩ := List.forall_mem_cons.mp unslashed
    have all : decoded ((name, value) :: raw) = (name, decode value) :: decoded raw := rfl
    rw [all, refilled_parameter once]
    exact .parameter (Percent.decode_ne_nil nonempty) own (ih apart others)

end Fills

theorem decoded_eq_self_iff :
    decoded params = params ↔ ∀ entry ∈ params, decode entry.2 = entry.2 := by
  have entrywise := @List.map_inj_left _ _ params (Prod.map id decode) id
  rw [List.map_id] at entrywise
  rw [decoded, entrywise]
  simp [Prod.ext_iff]

/-- A pattern that matches a rooted path is filled in to another one. -/
theorem Replaces.exists_refilled (replaces : Replaces text raw path)
    (normal : normalize path = path) (params : Params) :
    ∃ second more, refilled (DocBrowser.segments text) params = [] :: second :: more := by
  have fills := replaces_iff.mp replaces
  obtain ⟨next, rest, parts⟩ := segments_of_rooted (normal ▸ head?_normalize)
  rw [parts] at fills
  generalize DocBrowser.segments text = pattern at fills
  cases fills with
  | literal _ later => cases later <;> exact ⟨_, _, rfl⟩
  | parameter nonempty => exact absurd rfl nonempty

section Matched

variable (distinct : (names ((DocBrowser.segments text).map Segment.ofText)).Nodup)

include distinct

/-- If nothing was decoded, the pattern with its own match filled in is the path. -/
theorem Replaces.interpolate_eq (replaces : Replaces text raw path)
    (unchanged : ∀ entry ∈ raw, decode entry.2 = entry.2) :
    interpolate text (decoded raw) = path := by
  have fills := replaces_iff.mp replaces
  rw [decoded_eq_self_iff.mpr unchanged, interpolate_eq_refilled, fills.refilled_raw distinct,
    ofSegments_segments]

theorem Replaces.matches?_of_plain (normal : normalize path = path)
    (replaces : Replaces text raw path)
    (plain : ∀ entry ∈ decoded raw, (∀ c ∈ entry.2, c ∉ dividers) ∧ decode entry.2 = entry.2) :
    (ofText text).matches? (normalize (interpolate text (decoded raw))) = some (decoded raw) := by
  have fills := replaces_iff.mp replaces
  have again := fills.refill distinct fun entry there slash =>
    (plain entry there).1 '/' slash (by decide)
  have undivided : ∀ part ∈ refilled (DocBrowser.segments text) (decoded raw),
      ∀ c ∈ part, c ∉ dividers := by
    intro part there
    rcases again.mem_iff.mp there with literal | ⟨name, value⟩
    · apply undivided_of_mem_segments
      rw [normal]
      exact fills.mem_iff.mpr (.inl literal)
    · exact (plain _ value).1
  have still : normalize (interpolate text (decoded raw)) = interpolate text (decoded raw) := by
    obtain ⟨second, more, whole⟩ := replaces.exists_refilled normal (decoded raw)
    rw [whole] at undivided
    rw [interpolate_eq_refilled, whole]
    exact Table.normalize_ofSegments undivided
  rw [still]
  have filled : Replaces text (decoded raw) (interpolate text (decoded raw)) :=
    ⟨_, again, interpolate_eq_refilled text _⟩
  rw [matches?_of_replaces filled, decoded_eq_self_iff.mpr fun entry there => (plain entry there).2]

/-- A path made of filled in values has too few bytes to give them again after a cut or an
escape. -/
theorem Replaces.plain_of_matches? (normal : normalize path = path)
    (replaces : Replaces text raw path)
    (found : (ofText text).matches? (normalize (interpolate text (decoded raw))) =
      some (decoded raw)) :
    ∀ entry ∈ decoded raw, (∀ c ∈ entry.2, c ∉ dividers) ∧ decode entry.2 = entry.2 := by
  obtain ⟨other, again⟩ := exists_replaces_of_matches? found
  have same : decoded other = decoded raw := by
    rw [matches?_of_replaces again] at found
    exact Option.some.inj found
  have kept : byteCount (normalize (interpolate text (decoded raw))) ≤
      byteCount (interpolate text (decoded raw)) := by
    apply byteCount_normalize_le
    obtain ⟨second, more, whole⟩ := replaces.exists_refilled normal (decoded raw)
    rw [interpolate_eq_refilled, whole]
    simp
  have fills := replaces_iff.mp again
  rcases fills.unchanged_or_lt distinct with unchanged | fewer
  · intro entry there
    rw [← same, unchanged] at there
    exact ⟨undivided_of_mem_segments (fills.mem_iff.mpr (.inr ⟨entry.1, there⟩)),
      decoded_eq_self_iff.mp unchanged entry there⟩
  · rw [same, ← interpolate_eq_refilled, ofSegments_segments] at fewer
    omega

end Matched

/-! With the other choice of slash. -/

theorem Fills.append_slash (fills : Fills parts raw given) :
    Fills (parts ++ [[]]) raw (given ++ [[]]) := by
  induction fills with
  | nil => exact .literal (by simp) .nil
  | literal literal _ ih => exact .literal literal ih
  | parameter nonempty unslashed _ ih => exact .parameter nonempty unslashed ih

theorem Replaces.append_slash (replaces : Replaces text raw path) :
    Replaces (text ++ ['/']) raw (path ++ ['/']) := by
  rw [replaces_iff, segments_append_slash, segments_append_slash]
  exact (replaces_iff.mp replaces).append_slash

/-- Of a match of a companion, the same texts stand in the place of the parameters of the view. -/
theorem exists_replaces_of_toggleSlash (nonempty : text ≠ []) (normal : normalize path = path)
    (found : (ofText (toggleSlash text)).matches? path = some params) :
    ∃ raw other, Replaces (toggleSlash text) raw path ∧ Replaces text raw other ∧
      params = decoded raw ∧ normalize other = other ∧
      (text = toggleSlash text ++ ['/'] ∧ other = path ++ ['/'] ∨
        toggleSlash text = text ++ ['/'] ∧ path = other ++ ['/']) := by
  obtain ⟨other, still, matched, slash⟩ := exists_matches?_of_toggleSlash nonempty normal found
  rcases slash with ⟨longer, rfl⟩ | ⟨longer, rfl⟩
  · obtain ⟨raw, replaces⟩ := exists_replaces_of_matches? found
    have own := replaces.append_slash
    rw [← longer] at own
    rw [matches?_of_replaces replaces] at found
    exact ⟨raw, _, replaces, own, (Option.some.inj found).symm, still, .inl ⟨longer, rfl⟩⟩
  · obtain ⟨raw, replaces⟩ := exists_replaces_of_matches? matched
    have own := replaces.append_slash
    rw [← longer] at own
    rw [matches?_of_replaces replaces] at matched
    exact ⟨raw, other, own, replaces, (Option.some.inj matched).symm, still,
      .inr ⟨longer, rfl⟩⟩

theorem getLast?_of_toggleSlash (longer : toggleSlash text = text ++ ['/']) :
    text.getLast? ≠ some '/' := by
  intro slash
  rw [toggleSlash, if_pos slash] at longer
  have length := congrArg List.length longer
  simp at length

/-- A redirect from a companion keeps the parameters exactly if none of their values divides a path
or would be decoded. If nothing was decoded, it just takes a slash off the path or adds one. -/
theorem companions_keep_plain_parameters {text : Text} {pattern : Pattern} (nonempty : text ≠ [])
    (parsed : parse text = .ok pattern) :
    ∃ companion, parse (toggleSlash text) = .ok companion ∧
      ∀ (path : Text) (params : Params), path.head? = some '/' → '?' ∉ path → '#' ∉ path →
        companion.matches? path = some params →
        (pattern.matches? (normalize (interpolate text params)) = some params ↔
          ∀ entry ∈ params, (∀ c ∈ entry.2, c ∉ ['/', '?', '#']) ∧ decode entry.2 = entry.2) ∧
        ((∀ raw, Replaces (toggleSlash text) raw path →
            ∀ entry ∈ raw, decode entry.2 = entry.2) →
          if text.getLast? = some '/' then interpolate text params = path ++ ['/']
          else path = interpolate text params ++ ['/']) := by
  refine ⟨_, parse_toggleSlash parsed, ?_⟩
  intro path params rooted unasked unmarked found
  obtain ⟨rfl, _, distinct⟩ := parse_eq_ok_iff.mp parsed
  have normal : normalize path = path := by
    apply normalize_eq_self rooted
    intro c there
    rw [endsPath, Bool.or_eq_false_iff, beq_eq_false_iff_ne, beq_eq_false_iff_ne]
    constructor
    · rintro rfl
      exact unasked there
    · rintro rfl
      exact unmarked there
  obtain ⟨raw, other, before, replaces, rfl, still, slash⟩ :=
    exists_replaces_of_toggleSlash nonempty normal found
  constructor
  · exact ⟨replaces.plain_of_matches? distinct still, replaces.matches?_of_plain distinct still⟩
  · intro unchanged
    have filled := replaces.interpolate_eq distinct (unchanged raw before)
    rcases slash with ⟨longer, rfl⟩ | ⟨longer, rfl⟩
    · have last : text.getLast? = some '/' := by
        rw [longer]
        simp
      rw [if_pos last, filled]
    · rw [if_neg (getLast?_of_toggleSlash longer), filled]

/-- An escaped percent sign survives the redirect, and an escaped slash does not. Without escapes
the slash at the end is all that changes. -/
theorem slashed_value_is_lost :
    let text : Text := "/docs/:p"
    let plain : Params := [("p", "a")]
    let signed : Params := [("p", "a%")]
    let slashed : Params := [("p", "a/b")]
    text ≠ [] ∧ ∃ pattern companion, parse text = .ok pattern ∧
      parse (toggleSlash text) = .ok companion ∧
      (companion.matches? "/docs/a/" = some plain ∧
        ("/docs/a/" : Text) = interpolate text plain ++ ['/']) ∧
      (companion.matches? "/docs/a%25/" = some signed ∧
        pattern.matches? (normalize (interpolate text signed)) = some signed) ∧
      companion.matches? "/docs/a%2Fb/" = some slashed ∧
        pattern.matches? (normalize (interpolate text slashed)) ≠ some slashed := by
  intro text plain signed slashed
  have nonempty : text ≠ [] := by decide
  have parsed : parse text = .ok (ofText text) := by rfl
  obtain ⟨companion, toggled, keeps⟩ := companions_keep_plain_parameters nonempty parsed
  obtain rfl := (parse_eq_ok_iff.mp toggled).1
  have plainMatch : (ofText (toggleSlash text)).matches? "/docs/a/" = some plain := by rfl
  have signedMatch : (ofText (toggleSlash text)).matches? "/docs/a%25/" = some signed := by rfl
  have slashedMatch : (ofText (toggleSlash text)).matches? "/docs/a%2Fb/" = some slashed := by rfl
  have same := (keeps "/docs/a/" plain (by decide) (by decide) (by decide) plainMatch).2
  have kept := (keeps "/docs/a%25/" signed (by decide) (by decide) (by decide) signedMatch).1
  have lost := (keeps "/docs/a%2Fb/" slashed (by decide) (by decide) (by decide) slashedMatch).1
  refine ⟨nonempty, _, _, parsed, toggled, ⟨plainMatch, same ?_⟩, ⟨signedMatch, kept.mpr ?_⟩,
    slashedMatch, ?_⟩
  · intro raw replaces
    have written : Replaces (toggleSlash text) plain "/docs/a/" := by
      refine ⟨[[], "docs", "a", []], ?_, rfl⟩
      apply Fills.literal (by decide)
      apply Fills.literal (by decide)
      apply Fills.parameter (by decide) (by decide)
      exact .literal (by decide) .nil
    obtain rfl := (replaces_iff.mp written).eq_of_fills (replaces_iff.mp replaces)
    intro entry there
    obtain rfl := List.mem_singleton.mp there
    rfl
  · intro entry there
    obtain rfl := List.mem_singleton.mp there
    exact ⟨by simp, by rfl⟩
  · intro again
    have whole := (lost.mp again _ (List.mem_singleton_self _)).1
    exact whole '/' (by decide) (by decide)

end Pattern

end DocBrowser
