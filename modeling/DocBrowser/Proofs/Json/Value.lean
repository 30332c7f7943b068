import DocBrowser.Json.Basic
import DocBrowser.Proofs.Dictionary

/-!
JSON values and what is inside them. Values nest to some depth, and an object that is given with its
members in any order, some of them repeated, stands for the one that has them collected.
-/

namespace DocBrowser

/-- Whole numbers of 64 bits, with or without sign. -/
def Number.Integral : Number → Prop
  | .integer n => -0x8000000000000000 ≤ n ∧ n < 0x10000000000000000
  | .float _ => False

namespace Json

/-- Induction over what is inside arrays and objects. -/
@[elab_as_elim, induction_eliminator]
theorem induct {motive : Json → Prop} (null : motive .null) (bool : ∀ b, motive (.bool b))
    (number : ∀ n, motive (.number n)) (string : ∀ text, motive (.string text))
    (array : ∀ items, (∀ item ∈ items, motive item) → motive (.array items))
    (object : ∀ members, (∀ member ∈ members, motive member.2) → motive (.object members))
    (value : Json) : motive value := by
  refine @Json.rec motive (fun items => ∀ item ∈ items, motive item)
    (fun members => ∀ member ∈ members, motive member.2) (fun member => motive member.2)
    null bool number string array object ?_ ?_ ?_ ?_ ?_ value
  case refine_1 => exact fun item there => absurd there List.not_mem_nil
  case refine_2 => exact fun item rest first later => List.forall_mem_cons.mpr ⟨first, later⟩
  case refine_3 => exact fun member there => absurd there List.not_mem_nil
  case refine_4 => exact fun member rest first later => List.forall_mem_cons.mpr ⟨first, later⟩
  case refine_5 => exact fun name value held => held

mutual

/-- How many brackets are open at once in the written value. -/
def depth : Json → Nat
  | .null => 0
  | .bool _ => 0
  | .number _ => 0
  | .string _ => 0
  | .array items => depthOfItems items + 1
  | .object members => depthOfMembers members + 1

def depthOfItems : List Json → Nat
  | [] => 0
  | item :: rest => max (depth item) (depthOfItems rest)

def depthOfMembers : List (Text × Json) → Nat
  | [] => 0
  | (_, value) :: rest => max (depth value) (depthOfMembers rest)

end

mutual

/-- A value and all values inside it. -/
def parts : Json → List Json
  | .null => [.null]
  | .bool b => [.bool b]
  | .number n => [.number n]
  | .string text => [.string text]
  | .array items => .array items :: partsOfItems items
  | .object members => .object members :: partsOfMembers members

def partsOfItems : List Json → List Json
  | [] => []
  | item :: rest => parts item ++ partsOfItems rest

def partsOfMembers : List (Text × Json) → List Json
  | [] => []
  | (_, value) :: rest => parts value ++ partsOfMembers rest

end

mutual

/-- The value that has the members of every object collected: in order of name, and of several of
one name only the last. -/
def collected : Json → Json
  | .null => .null
  | .bool b => .bool b
  | .number n => .number n
  | .string text => .string text
  | .array items => .array (collectedItems items)
  | .object members => .ofMembers (collectedMembers members)

def collectedItems : List Json → List Json
  | [] => []
  | item :: rest => collected item :: collectedItems rest

def collectedMembers : List (Text × Json) → List (Text × Json)
  | [] => []
  | (name, value) :: rest => (name, collected value) :: collectedMembers rest

end

/-- Every number in the value is a whole one of 64 bits. -/
def Integral (value : Json) : Prop := ∀ n, .number n ∈ value.parts → n.Integral

/-- The members of every object in the value are in order of name, each name once. -/
def InOrder (value : Json) : Prop :=
  ∀ members, .object members ∈ value.parts → Sorted.Ordered members

variable {items : List Json} {members : List (Text × Json)} {value part : Json} {depth : Nat}

theorem depth_array_le_iff :
    (array items).depth ≤ depth + 1 ↔ ∀ item ∈ items, item.depth ≤ depth := by
  rw [Json.depth, Nat.add_le_add_iff_right]
  induction items with
  | nil => simp [depthOfItems]
  | cons item rest ih => rw [depthOfItems, Nat.max_le, ih, List.forall_mem_cons]

theorem depth_object_le_iff :
    (object members).depth ≤ depth + 1 ↔ ∀ member ∈ members, member.2.depth ≤ depth := by
  rw [Json.depth, Nat.add_le_add_iff_right]
  induction members with
  | nil => simp [depthOfMembers]
  | cons member rest ih => rw [depthOfMembers, Nat.max_le, ih, List.forall_mem_cons]

theorem mem_parts_array :
    part ∈ (array items).parts ↔ part = .array items ∨ ∃ item ∈ items, part ∈ item.parts := by
  have inside : part ∈ partsOfItems items ↔ ∃ item ∈ items, part ∈ item.parts := by
    induction items with
    | nil => simp [partsOfItems]
    | cons item rest ih => simp [partsOfItems, ih]
  rw [parts, List.mem_cons, inside]

theorem mem_parts_object :
    part ∈ (object members).parts ↔
      part = .object members ∨ ∃ member ∈ members, part ∈ member.2.parts := by
  have inside : part ∈ partsOfMembers members ↔ ∃ member ∈ members, part ∈ member.2.parts := by
    induction members with
    | nil => simp [partsOfMembers]
    | cons member rest ih => simp [partsOfMembers, ih]
  rw [parts, List.mem_cons, inside]

theorem integral_array_iff : (array items).Integral ↔ ∀ item ∈ items, item.Integral := by
  simp only [Integral, mem_parts_array]
  constructor
  · intro whole item there n inside
    exact whole n (.inr ⟨item, there, inside⟩)
  · rintro whole n (same | ⟨item, there, inside⟩)
    · cases same
    · exact whole item there n inside

theorem integral_object_iff :
    (object members).Integral ↔ ∀ member ∈ members, member.2.Integral := by
  simp only [Integral, mem_parts_object]
  constructor
  · intro whole member there n inside
    exact whole n (.inr ⟨member, there, inside⟩)
  · rintro whole n (same | ⟨member, there, inside⟩)
    · cases same
    · exact whole member there n inside

theorem collected_array (items : List Json) :
    (array items).collected = .array (items.map collected) := by
  have each : collectedItems items = items.map collected := by
    induction items with
    | nil => rfl
    | cons item rest ih => rw [collectedItems, ih, List.map_cons]
  rw [collected, each]

theorem collected_object (members : List (Text × Json)) :
    (object members).collected =
      .ofMembers (members.map fun (name, value) => (name, value.collected)) := by
  have each : collectedMembers members =
      members.map fun (name, value) => (name, value.collected) := by
    induction members with
    | nil => rfl
    | cons member rest ih => rw [collectedMembers, ih, List.map_cons]
  rw [collected, each]

theorem map_collected_of_forall (each : ∀ member ∈ members, member.2.collected = member.2) :
    (members.map fun (name, value) => (name, value.collected)) = members := by
  have same : ∀ member ∈ members, (member.1, member.2.collected) = id member :=
    fun member there => Prod.ext rfl (each member there)
  exact (List.map_congr_left same).trans (List.map_id members)

theorem collected_array_of_forall (each : ∀ item ∈ items, item.collected = item) :
    (array items).collected = array items := by
  have same : items.map collected = items.map id := List.map_congr_left each
  rw [collected_array, same, List.map_id]

theorem collected_object_of_ordered (each : ∀ member ∈ members, member.2.collected = member.2)
    (ordered : Sorted.Ordered members) : (object members).collected = object members := by
  rw [collected_object, map_collected_of_forall each, ofMembers, Sorted.collect_of_ordered ordered]

/-- A value whose objects are in order is collected already. -/
theorem collected_of_inOrder (inOrder : value.InOrder) : value.collected = value := by
  induction value with
  | null => rfl
  | bool b => rfl
  | number n => rfl
  | string text => rfl
  | array items ih =>
    apply collected_array_of_forall
    intro item there
    apply ih item there
    intro members inside
    exact inOrder members (mem_parts_array.mpr (.inr ⟨item, there, inside⟩))
  | object members ih =>
    refine collected_object_of_ordered (fun member there => ih member there ?_) ?_
    · intro inner inside
      exact inOrder inner (mem_parts_object.mpr (.inr ⟨member, there, inside⟩))
    · exact inOrder members (mem_parts_object.mpr (.inl rfl))

end Json

end DocBrowser
