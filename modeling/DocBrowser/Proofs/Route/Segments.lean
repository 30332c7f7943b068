import DocBrowser.Route.Table

/-!
Paths and their segments. Cutting a path and joining its segments undo each other.
-/

namespace DocBrowser

variable {path part : Text} {parts : List Text}

@[simp]
theorem ofSegments_segments (path : Text) : ofSegments (segments path) = path :=
  List.intercalate_splitOn '/'

theorem ofSegments_cons (some : parts ≠ []) :
    ofSegments (part :: parts) = part ++ '/' :: ofSegments parts := by
  obtain ⟨next, rest, rfl⟩ := List.exists_cons_of_ne_nil some
  exact ofSegments_cons_cons part next rest

theorem segments_ofSegments (whole : ∀ part ∈ parts, '/' ∉ part) (some : parts ≠ []) :
    segments (ofSegments parts) = parts :=
  List.splitOn_intercalate '/' whole some

theorem not_mem_of_mem_segments (member : part ∈ segments path) : '/' ∉ part := by
  induction path generalizing part with
  | nil =>
    obtain rfl : part = [] := by simpa [segments] using member
    exact List.not_mem_nil
  | cons c rest ih =>
    rw [segments, List.splitOn_cons_eq_if_modifyHead] at member
    split at member
    · rcases List.mem_cons.mp member with rfl | later
      · exact List.not_mem_nil
      · exact ih later
    · next other =>
      cases cut : rest.splitOn '/' with
      | nil => exact absurd cut (List.splitOn_ne_nil '/' rest)
      | cons first parts =>
        have inside : ∀ part ∈ first :: parts, '/' ∉ part := by
          intro part there
          rw [← cut] at there
          exact ih there
        rw [cut, List.modifyHead_cons] at member
        rcases List.mem_cons.mp member with rfl | later
        · have before := inside first List.mem_cons_self
          intro slash
          rcases List.mem_cons.mp slash with rfl | after
          · simp at other
          · exact before after
        · exact inside part (.tail _ later)

/-- Joining segments brings in nothing but slashes. -/
theorem mem_ofSegments {c : Char} (member : c ∈ ofSegments parts) :
    c = '/' ∨ ∃ part ∈ parts, c ∈ part := by
  induction parts with
  | nil => cases member
  | cons part rest ih =>
    cases rest with
    | nil => exact .inr ⟨part, List.mem_cons_self, by simpa using member⟩
    | cons next rest =>
      rw [ofSegments_cons_cons] at member
      rcases List.mem_append.mp member with here | later
      · exact .inr ⟨part, List.mem_cons_self, here⟩
      · rcases List.mem_cons.mp later with rfl | later
        · exact .inl rfl
        · obtain slash | ⟨other, among, inside⟩ := ih later
          · exact .inl slash
          · exact .inr ⟨other, .tail _ among, inside⟩

theorem mem_ofSegments_of_mem {c : Char} (there : part ∈ parts) (inside : c ∈ part) :
    c ∈ ofSegments parts := by
  induction parts with
  | nil => cases there
  | cons first rest ih =>
    cases rest with
    | nil =>
      obtain rfl := List.mem_singleton.mp there
      simpa using inside
    | cons next rest =>
      rw [ofSegments_cons_cons]
      rcases List.mem_cons.mp there with rfl | later
      · exact List.mem_append_left _ inside
      · exact List.mem_append_right _ (.tail _ (ih later))

theorem mem_of_mem_segments {c : Char} (there : part ∈ segments path) (inside : c ∈ part) :
    c ∈ path := by
  rw [← ofSegments_segments path]
  exact mem_ofSegments_of_mem there inside

end DocBrowser
