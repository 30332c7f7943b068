import DocBrowser.Text.LetterCase

/-!
Lower-casing of a part of a text. A part is lower-cased within its text as it is alone, but for the
capital sigmas that end a word in the one and not in the other.
-/

namespace DocBrowser

/-- A part occurs in a text if the text can be cut on both sides of it. -/
theorem Text.occurs_iff {part text : Text} : Text.occurs part text = true ↔ part <:+: text := by
  induction text with
  | nil => simp [Text.occurs]
  | cons c rest ih => simp [Text.occurs, ih, List.infix_cons_iff]

namespace LetterCase

variable {before part after first rest : Text}

/-- The lower-case form of a part of a text, between what stands `before` it (the nearest character
first) and what stands `after` it. -/
def lowerWithin (before after : Text) : Text → Text
  | [] => []
  | c :: rest =>
    if c = 'Σ' then lowerSigma before (rest ++ after) :: lowerWithin (c :: before) after rest
    else lowerChar c ++ lowerWithin (c :: before) after rest

theorem lowerAfter_append (before part after : Text) :
    lowerAfter before (part ++ after) =
      lowerWithin before after part ++ lowerAfter (part.reverse ++ before) after := by
  induction part generalizing before with
  | nil => rfl
  | cons c rest ih =>
    rw [List.cons_append, lowerAfter, lowerWithin, ih, List.reverse_cons, List.append_assoc]
    split
    · rfl
    · rw [List.append_assoc]
      rfl

theorem lower_append (before part after : Text) :
    lower (before ++ part ++ after) =
      lowerWithin [] (part ++ after) before ++ lowerWithin before.reverse after part ++
        lowerAfter (part.reverse ++ before.reverse) after := by
  rw [lower, List.append_assoc, lowerAfter_append, List.append_nil, lowerAfter_append,
    List.append_assoc]

/-- What stands around a part has no say in how long it becomes. -/
theorem length_lowerWithin (before after inner part : Text) :
    (lowerWithin before after part).length = (lowerAfter inner part).length := by
  induction part generalizing before inner with
  | nil => rfl
  | cons c rest ih =>
    rw [lowerWithin, lowerAfter]
    split
    · exact congrArg Nat.succ (ih _ _)
    · rw [List.length_append, List.length_append, ih]

/-! Capital sigmas. -/

/-- Each capital sigma of a part ends a word in the part alone exactly if it does so in the text
that has the part between `before` and `after`. -/
def SigmasKeepForm (before part after : Text) : Prop :=
  ∀ first rest, part = first ++ 'Σ' :: rest →
    lowerSigma (first.reverse ++ before.reverse) (rest ++ after) = lowerSigma first.reverse rest

/-- A part that follows `inner` is lower-cased as it is after `inner` alone if its sigmas are. -/
theorem lowerWithin_eq_iff (inner outer after part : Text) :
    lowerWithin (inner ++ outer) after part = lowerAfter inner part ↔
      ∀ first rest, part = first ++ 'Σ' :: rest →
        lowerSigma (first.reverse ++ (inner ++ outer)) (rest ++ after) =
          lowerSigma (first.reverse ++ inner) rest := by
  induction part generalizing inner with
  | nil => simp [lowerWithin, lowerAfter]
  | cons c part ih =>
    have later := ih (c :: inner)
    rw [List.cons_append] at later
    -- A sigma of `c :: part` is `c` itself or one of `part`, which has `c` before it too.
    simp only [List.cons_eq_append_iff]
    rw [lowerWithin, lowerAfter]
    split
    · next sigma =>
      subst sigma
      rw [List.cons.injEq, later]
      constructor
      · rintro ⟨own, others⟩ first rest (⟨rfl, same⟩ | ⟨first, rfl, same⟩)
        · cases same
          exact own
        · simpa using others first rest same
      · intro each
        refine ⟨each [] part (.inl ⟨rfl, rfl⟩), fun first rest same => ?_⟩
        simpa using each ('Σ' :: first) rest (.inr ⟨first, rfl, same⟩)
    · next other =>
      rw [List.append_cancel_left_eq, later]
      constructor
      · rintro others first rest (⟨rfl, same⟩ | ⟨first, rfl, same⟩)
        · cases same
          exact absurd rfl other
        · simpa using others first rest same
      · intro each first rest same
        simpa using each (c :: first) rest (.inr ⟨first, rfl, same⟩)

theorem sigmasKeepForm_iff :
    SigmasKeepForm before part after ↔ lowerWithin before.reverse after part = lower part := by
  have alone := lowerWithin_eq_iff [] before.reverse after part
  simp only [List.nil_append, List.append_nil] at alone
  exact alone.symm

/-- Without capital sigmas there is none that could change its form. -/
theorem sigmasKeepForm_of_not_mem (none : 'Σ' ∉ part) : SigmasKeepForm before part after := by
  rintro first rest rfl
  simp at none

theorem meetsCased_append_of_free (free : meetsCased rest = false) :
    meetsCased (first ++ rest) = meetsCased first := by
  unfold meetsCased at free ⊢
  rw [List.dropWhile_append]
  cases kept : first.dropWhile ignorable with
  | nil => simpa using free
  | cons c after => rfl

theorem meetsCased_of_append_free (free : meetsCased (first ++ rest) = false) :
    meetsCased first = false := by
  unfold meetsCased at free ⊢
  rw [List.dropWhile_append] at free
  cases kept : first.dropWhile ignorable with
  | nil => rfl
  | cons c after => simpa [kept] using free

/-- Around whole words there is no letter to change the form of a sigma. -/
theorem sigmasKeepForm_of_whole_words (start : meetsCased before.reverse = false)
    (finish : meetsCased after = false) : SigmasKeepForm before part after := by
  intro first rest _
  rw [lowerSigma, lowerSigma, meetsCased_append_of_free start, meetsCased_append_of_free finish]

/-- Every capital sigma is the first letter of its word. -/
def SigmasBeginWords (text : Text) : Prop :=
  ∀ first rest, text = first ++ 'Σ' :: rest → meetsCased first.reverse = false

/-- Where all sigmas begin words, no part has a sigma that ends a word. -/
theorem sigmasKeepForm_of_beginWords (begin : SigmasBeginWords (before ++ part ++ after)) :
    SigmasKeepForm before part after := by
  rintro first rest rfl
  have free := begin (before ++ first) (rest ++ after) (by simp)
  rw [List.reverse_append] at free
  have inside := meetsCased_of_append_free free
  rw [lowerSigma, lowerSigma, free, inside, Bool.false_and, Bool.false_and]

/-- The one place of a part in the lower-cased text that belongs to it is where its sigmas keep
their form. -/
theorem infix_lower_iff :
    lower part <:+: lower (before ++ part ++ after) ↔
      SigmasKeepForm before part after ∨
        ∃ first rest, first ++ lower part ++ rest = lower (before ++ part ++ after) ∧
          first ≠ lowerWithin [] (part ++ after) before := by
  have whole := lower_append before part after
  have same : (lowerWithin before.reverse after part).length = (lower part).length :=
    length_lowerWithin before.reverse after [] part
  constructor
  · rintro ⟨first, rest, found⟩
    by_cases place : first = lowerWithin [] (part ++ after) before
    · left
      rw [whole, place, List.append_assoc, List.append_assoc, List.append_cancel_left_eq] at found
      have own := (List.append_inj found same.symm).1
      exact sigmasKeepForm_iff.mpr own.symm
    · exact .inr ⟨first, rest, found, place⟩
  · rintro (keep | ⟨first, rest, found, _⟩)
    · rw [sigmasKeepForm_iff] at keep
      rw [whole, keep]
      exact ⟨_, _, rfl⟩
    · exact ⟨first, rest, found⟩

end LetterCase

end DocBrowser
