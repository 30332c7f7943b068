import DocBrowser.Json.Reader
import DocBrowser.Proofs.Json.Value

/-!
What readers give, whatever they read. What holds of every item or member that a reader can give
holds of all that it gives as a list, and so a value that was read nests no deeper than its budget
and has its objects collected.
-/

namespace DocBrowser.Json.Reader

/-- Everything that a reader gives has the property. -/
def Yields {α : Type} (read : Read α) (p : α → Prop) : Prop :=
  ∀ input a rest, read input = .ok (a, rest) → p a

theorem exists_of_bind_eq_ok {ε α β : Type} {x : Except ε α} {next : α → Except ε β} {b : β}
    (success : x >>= next = .ok b) : ∃ a, x = .ok a ∧ next a = .ok b := by
  cases x with
  | error fault => cases success
  | ok a => exact ⟨a, rfl, success⟩

variable {α : Type} {p : α → Prop} {limit : Nat}

namespace Yields

section Items

variable {item : Read α}

theorem moreItems (yields : Yields item p) (limit : Nat) {done : List α}
    (before : ∀ a ∈ done, p a) :
    Yields (moreItems item done limit) fun items => ∀ a ∈ items, p a := by
  intro input items rest success
  induction limit generalizing done input with
  | zero => cases success
  | succ limit ih =>
    rw [Reader.moreItems] at success
    split at success
    · cases success
    split at success
    · cases success
      simpa using before
    split at success
    case isFalse => cases success
    split at success
    · cases success
    split at success
    · cases success
    obtain ⟨⟨a, left⟩, read, later⟩ := exists_of_bind_eq_ok success
    refine ih ?_ left later
    exact List.forall_mem_cons.mpr ⟨yields _ a left read, before⟩

theorem arrayBody (yields : Yields item p) :
    Yields (arrayBody limit item) fun items => ∀ a ∈ items, p a := by
  intro input items rest success
  rw [Reader.arrayBody] at success
  split at success
  · cases success
  split at success
  · cases success
    simp
  obtain ⟨⟨a, left⟩, read, later⟩ := exists_of_bind_eq_ok success
  refine yields.moreItems limit ?_ left items rest later
  simpa using yields _ a left read

end Items

section Members

variable {value : Read α}

theorem member (yields : Yields value p) : Yields (member limit value) fun held => p held.2 := by
  intro input held rest success
  rw [Reader.member] at success
  obtain ⟨⟨name, left⟩, _, later⟩ := exists_of_bind_eq_ok success
  dsimp only at later
  split at later
  · cases later
  split at later
  · obtain ⟨⟨a, left⟩, read, last⟩ := exists_of_bind_eq_ok later
    cases last
    exact yields _ a _ read
  · cases later

theorem moreMembers (yields : Yields value p) (whole limit : Nat) {done : List (Text × α)}
    (before : ∀ held ∈ done, p held.2) :
    Yields (moreMembers whole value done limit) fun members => ∀ held ∈ members, p held.2 := by
  intro input members rest success
  induction limit generalizing done input with
  | zero => cases success
  | succ limit ih =>
    rw [Reader.moreMembers] at success
    split at success
    · cases success
    split at success
    · cases success
      simpa using before
    split at success
    case isFalse => cases success
    split at success
    · cases success
    split at success
    · obtain ⟨⟨held, left⟩, read, later⟩ := exists_of_bind_eq_ok success
      refine ih ?_ left later
      exact List.forall_mem_cons.mpr ⟨yields.member _ held left read, before⟩
    · split at success <;> cases success

theorem objectBody (yields : Yields value p) :
    Yields (objectBody limit value) fun members => ∀ held ∈ members, p held.2 := by
  intro input members rest success
  rw [Reader.objectBody] at success
  split at success
  · cases success
  split at success
  · cases success
    simp
  split at success
  · obtain ⟨⟨held, left⟩, read, later⟩ := exists_of_bind_eq_ok success
    refine yields.moreMembers limit limit ?_ left members rest later
    simpa using yields.member _ held left read
  · cases success

theorem objectOf {held : Nat → Read α} {depth : Nat}
    (yields : ∀ inner, inner + 1 = depth → Yields (held inner) p) :
    Yields (objectOf limit depth held) fun members => ∀ held ∈ members, p held.2 := by
  intro input members rest success
  rw [Reader.objectOf] at success
  split at success
  · cases success
  split at success
  · cases depth with
    | zero => cases success
    | succ depth => exact (yields depth rfl).objectBody _ members rest success
  · obtain ⟨⟨found, left⟩, _, later⟩ := exists_of_bind_eq_ok success
    cases later

end Members

end Yields

/-! Values. -/

/-- What a value that was read with a budget of brackets is like. -/
structure Shaped (depth : Nat) (value : Json) : Prop where
  shallow : value.depth ≤ depth
  collected : value.collected = value

theorem shaped_ofScalar (x : Scalar) (depth : Nat) : Shaped depth (ofScalar x) := by
  cases x <;> exact ⟨Nat.zero_le _, rfl⟩

theorem shaped_array {items : List Json} {depth : Nat}
    (shaped : ∀ item ∈ items, Shaped depth item) : Shaped (depth + 1) (.array items) where
  shallow := depth_array_le_iff.mpr fun item there => (shaped item there).shallow
  collected := collected_array_of_forall fun item there => (shaped item there).collected

theorem shaped_ofMembers {members : List (Text × Json)} {depth : Nat}
    (shaped : ∀ member ∈ members, Shaped depth member.2) :
    Shaped (depth + 1) (.ofMembers members) := by
  have kept : ∀ member ∈ Sorted.collect members, Shaped depth member.2 := fun member there =>
    shaped member (Sorted.mem_of_mem_collect there)
  constructor
  case shallow => exact depth_object_le_iff.mpr fun member there => (kept member there).shallow
  case collected =>
    exact collected_object_of_ordered (fun member there => (kept member there).collected)
      (Sorted.ordered_collect members)

theorem yields_valueWith {inner : Option (Read Json)} {depth : Nat}
    (yields : ∀ read ∈ inner, ∃ less, less + 1 = depth ∧ Yields read (Shaped less)) :
    Yields (valueWith limit inner) (Shaped depth) := by
  intro input value rest success
  rw [valueWith] at success
  split at success
  · cases success
  split at success
  · split at success
    · cases success
    · next item =>
      obtain ⟨less, rfl, each⟩ := yields item rfl
      obtain ⟨⟨items, left⟩, read, last⟩ := exists_of_bind_eq_ok success
      cases last
      exact shaped_array (each.arrayBody _ items _ read)
  split at success
  · split at success
    · cases success
    · next held =>
      obtain ⟨less, rfl, each⟩ := yields held rfl
      obtain ⟨⟨members, left⟩, read, last⟩ := exists_of_bind_eq_ok success
      cases last
      exact shaped_ofMembers (each.objectBody _ members _ read)
  · obtain ⟨⟨x, left⟩, read, last⟩ := exists_of_bind_eq_ok success
    cases last
    exact shaped_ofScalar x depth

theorem yields_value (limit depth : Nat) : Yields (value limit depth) (Shaped depth) := by
  induction depth with
  | zero =>
    apply yields_valueWith
    intro read none
    cases none
  | succ depth ih =>
    apply yields_valueWith
    intro read own
    cases own
    exact ⟨depth, rfl, ih⟩

theorem exists_of_whole {read : Nat → Read α} {document : Bytes} {a : α}
    (success : whole read document = .ok a) :
    ∃ rest, read document.length document = .ok (a, rest) ∧ skipBlanks rest = [] := by
  rw [whole] at success
  cases result : read document.length document with
  | error fault =>
    rw [result] at success
    cases success
  | ok given =>
    obtain ⟨value, rest⟩ := given
    rw [result] at success
    dsimp only [bind, Except.bind] at success
    split at success
    · next ended =>
      cases success
      exact ⟨rest, rfl, ended⟩
    · cases success

end DocBrowser.Json.Reader
