import DocBrowser.Dictionary

/-!
What a finite map finds. Of the members it was collected from, the last of a name; and a map that is
collected again from its own entries is the same map.
-/

namespace DocBrowser

universe u

variable {α : Type u} {name : Text} {value : α} {entries : List (Text × α)}

namespace Sorted

theorem find?_insert (name other : Text) (value : α) (entries : List (Text × α)) :
    find? name (insert other value entries) =
      if name = other then some value else find? name entries := by
  induction entries with
  | nil => rfl
  | cons entry rest ih =>
    obtain ⟨first, held⟩ := entry
    rw [insert]
    split
    · rw [find?]
    · split
      · next same =>
        subst same
        by_cases here : name = other <;> simp [find?, here]
      · next different =>
        by_cases here : name = first
        · have other : first ≠ other := fun same => different same.symm
          simp [find?, here, other]
        · simp [find?, here, ih]

theorem find?_append (name : Text) (first rest : List (Text × α)) :
    find? name (first ++ rest) = (find? name first).or (find? name rest) := by
  induction first with
  | nil => rfl
  | cons entry first ih => by_cases here : name = entry.1 <;> simp [find?, here, ih]

theorem find?_foldl_insert (name : Text) (members entries : List (Text × α)) :
    find? name (members.foldl (fun entries member => insert member.1 member.2 entries) entries) =
      (find? name members.reverse).or (find? name entries) := by
  induction members generalizing entries with
  | nil => rfl
  | cons member rest ih =>
    rw [List.foldl_cons, ih, find?_insert, List.reverse_cons, find?_append, Option.or_assoc]
    by_cases here : name = member.1 <;> simp [find?, here]

/-- Of several members of one name the last is found. -/
theorem find?_collect (name : Text) (members : List (Text × α)) :
    find? name (collect members) = find? name members.reverse := by
  rw [collect, find?_foldl_insert]
  simp [find?]

theorem find?_map {β : Type u} (f : α → β) (name : Text) (entries : List (Text × α)) :
    find? name (entries.map fun (name, value) => (name, f value)) =
      (find? name entries).map f := by
  induction entries with
  | nil => rfl
  | cons entry rest ih =>
    obtain ⟨first, held⟩ := entry
    by_cases here : name = first <;> simp [find?, here, ih]

theorem mem_of_find? (found : find? name entries = some value) : (name, value) ∈ entries := by
  induction entries with
  | nil => cases found
  | cons entry rest ih =>
    obtain ⟨first, held⟩ := entry
    rw [find?] at found
    split at found
    · next same =>
      cases found
      rw [same]
      exact List.mem_cons_self
    · exact List.mem_cons_of_mem _ (ih found)

/-- In the order of their names, entries are found under their names. -/
theorem find?_of_mem (ordered : Ordered entries) (there : (name, value) ∈ entries) :
    find? name entries = some value := by
  induction entries with
  | nil => cases there
  | cons entry rest ih =>
    have ⟨above, tail⟩ := List.pairwise_cons.mp ordered
    rw [find?]
    rcases List.mem_cons.mp there with rfl | later
    · exact if_pos rfl
    · have before := above _ later
      have different : name ≠ entry.1 := by
        rintro rfl
        exact List.lt_irrefl _ before
      rw [if_neg different]
      exact ih tail later

theorem mem_of_mem_insert {member : Text × α} (there : member ∈ insert name value entries) :
    member = (name, value) ∨ member ∈ entries := by
  induction entries with
  | nil => exact .inl (List.mem_singleton.mp there)
  | cons entry rest ih =>
    obtain ⟨first, held⟩ := entry
    rw [insert] at there
    split at there
    · exact List.mem_cons.mp there
    · split at there
      · exact (List.mem_cons.mp there).imp_right (List.mem_cons_of_mem _)
      · rcases List.mem_cons.mp there with rfl | later
        · exact .inr List.mem_cons_self
        · exact (ih later).imp_right (List.mem_cons_of_mem _)

/-- Collecting brings in no member that was not given. -/
theorem mem_of_mem_collect {member : Text × α} {members : List (Text × α)}
    (there : member ∈ collect members) : member ∈ members := by
  have go : ∀ entries : List (Text × α),
      member ∈ members.foldl (fun entries member => insert member.1 member.2 entries) entries →
      member ∈ entries ∨ member ∈ members := by
    clear there
    induction members with
    | nil => exact fun entries there => .inl there
    | cons first rest ih =>
      intro entries there
      rcases ih _ there with inserted | later
      · rcases mem_of_mem_insert inserted with rfl | before
        · exact .inr List.mem_cons_self
        · exact .inl before
      · exact .inr (.tail _ later)
  exact (go [] there).resolve_left List.not_mem_nil

theorem insert_of_lt (above : ∀ entry ∈ entries, entry.1 < name) (value : α) :
    insert name value entries = entries ++ [(name, value)] := by
  induction entries with
  | nil => rfl
  | cons entry rest ih =>
    obtain ⟨first, held⟩ := entry
    have before : first < name := above (first, held) List.mem_cons_self
    have notAfter : ¬ name < first := fun after => List.lt_irrefl _ (List.lt_trans before after)
    have different : name ≠ first := by
      rintro rfl
      exact List.lt_irrefl _ before
    have later := ih fun entry there => above entry (.tail _ there)
    rw [insert, if_neg notAfter, if_neg different, later]
    rfl

theorem foldl_insert_of_ordered {members : List (Text × α)}
    (ordered : Ordered (entries ++ members)) :
    members.foldl (fun entries member => insert member.1 member.2 entries) entries =
      entries ++ members := by
  induction members generalizing entries with
  | nil => simp
  | cons member rest ih =>
    have above : ∀ entry ∈ entries, entry.1 < member.1 := by
      intro entry there
      exact (List.pairwise_append.mp ordered).2.2 entry there member List.mem_cons_self
    rw [List.foldl_cons, insert_of_lt above, ih]
    · simp
    · simpa [Ordered] using ordered

/-- Members in the order of their names are collected as they are. -/
theorem collect_of_ordered (ordered : Ordered entries) : collect entries = entries :=
  foldl_insert_of_ordered ordered

end Sorted

namespace Dictionary

theorem ofList_entries (d : Dictionary α) : ofList d.entries = d :=
  Dictionary.ext (Sorted.collect_of_ordered d.ordered)

theorem mem_of_find? {d : Dictionary α} (found : d.find? name = some value) :
    (name, value) ∈ d.entries :=
  Sorted.mem_of_find? found

theorem find?_eq_some_iff {d : Dictionary α} :
    d.find? name = some value ↔ (name, value) ∈ d.entries :=
  ⟨mem_of_find?, Sorted.find?_of_mem d.ordered⟩

end Dictionary

end DocBrowser
