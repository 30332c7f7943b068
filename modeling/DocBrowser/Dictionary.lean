import DocBrowser.Text

/-!
Finite maps from names, kept in the order of their names. Insertion replaces what was there, so of
several members of one name the last counts. Sorted without repetition, equal maps are equal lists.
-/

namespace DocBrowser

universe u

variable {α : Type u}

/-! Association lists in the order of their names. -/

namespace Sorted

def Ordered (entries : List (Text × α)) : Prop := entries.Pairwise (·.1 < ·.1)

/-- Puts a value under a name, in place of an earlier one. -/
def insert (name : Text) (value : α) : List (Text × α) → List (Text × α)
  | [] => [(name, value)]
  | (other, held) :: rest =>
    if name < other then (name, value) :: (other, held) :: rest
    else if name = other then (name, value) :: rest
    else (other, held) :: insert name value rest

def find? (name : Text) : List (Text × α) → Option α
  | [] => none
  | (other, held) :: rest => if name = other then some held else find? name rest

def collect (members : List (Text × α)) : List (Text × α) :=
  members.foldl (fun entries member => insert member.1 member.2 entries) []

theorem name_mem_insert {name other : Text} {value : α} {entries : List (Text × α)}
    (h : other ∈ (insert name value entries).map Prod.fst) :
    other = name ∨ other ∈ entries.map Prod.fst := by
  induction entries with
  | nil => simpa [insert] using h
  | cons entry rest ih =>
    obtain ⟨first, held⟩ := entry
    rw [insert] at h
    split at h
    · simpa using h
    · split at h
      · simp_all
      · simp only [List.map_cons, List.mem_cons] at h ⊢
        rcases h with h | h
        · exact .inr (.inl h)
        · exact (ih h).imp id .inr

theorem lt_of_not_lt_of_ne {a b : Text} (h : ¬ a < b) (ne : a ≠ b) : b < a := by
  rcases List.le_iff_lt_or_eq.1 (List.not_lt.1 h) with lt | eq
  · exact lt
  · exact absurd eq.symm ne

theorem ordered_insert {entries : List (Text × α)} (h : Ordered entries) (name : Text) (value : α) :
    Ordered (insert name value entries) := by
  induction entries with
  | nil => simp [insert, Ordered]
  | cons entry rest ih =>
    obtain ⟨first, held⟩ := entry
    have ⟨above, tail⟩ := List.pairwise_cons.1 h
    rw [insert]
    split
    · next lt =>
      refine List.pairwise_cons.2 ⟨?_, h⟩
      intro other mem
      rcases List.mem_cons.1 mem with rfl | mem
      · exact lt
      · exact List.lt_trans lt (above other mem)
    · split
      · next eq =>
        subst eq
        exact List.pairwise_cons.2 ⟨above, tail⟩
      · next notLt ne =>
        refine List.pairwise_cons.2 ⟨?_, ih tail⟩
        intro other mem
        rcases name_mem_insert (List.mem_map_of_mem mem) with eq | mem
        · exact eq ▸ lt_of_not_lt_of_ne notLt ne
        · obtain ⟨member, mem, eq⟩ := List.mem_map.1 mem
          exact eq ▸ above member mem

theorem ordered_foldl_insert {entries : List (Text × α)} (h : Ordered entries)
    (members : List (Text × α)) :
    Ordered (members.foldl (fun entries member => insert member.1 member.2 entries) entries) := by
  induction members generalizing entries with
  | nil => exact h
  | cons member rest ih => exact ih (ordered_insert h member.1 member.2)

theorem ordered_collect (members : List (Text × α)) : Ordered (collect members) :=
  ordered_foldl_insert List.Pairwise.nil members

end Sorted

@[ext]
structure Dictionary (α : Type u) where
  entries : List (Text × α)
  ordered : Sorted.Ordered entries

namespace Dictionary

def empty : Dictionary α := ⟨[], List.Pairwise.nil⟩

instance : Inhabited (Dictionary α) := ⟨empty⟩

/-- Puts a value under a name, in place of an earlier one. -/
def insert (d : Dictionary α) (name : Text) (value : α) : Dictionary α :=
  ⟨Sorted.insert name value d.entries, Sorted.ordered_insert d.ordered name value⟩

/-- Collects members in turn; of several members of one name the last counts. -/
def ofList (members : List (Text × α)) : Dictionary α :=
  ⟨Sorted.collect members, Sorted.ordered_collect members⟩

def find? (d : Dictionary α) (name : Text) : Option α := Sorted.find? name d.entries

def contains (d : Dictionary α) (name : Text) : Bool := (d.find? name).isSome

def size (d : Dictionary α) : Nat := d.entries.length

def isEmpty (d : Dictionary α) : Bool := d.entries.isEmpty

end Dictionary

end DocBrowser
