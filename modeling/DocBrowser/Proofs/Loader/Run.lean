import DocBrowser.Loader.Desk
import DocBrowser.Proofs.Loader.Invariant

/-!
Runs at a desk. A run is counted by what can be seen of it: how often each load was polled, through
whichever handle, and which loads the loader has counted as fetches. These counts say how far the
loads have come, whatever the order of the steps was.
-/

namespace DocBrowser

/-- A source that fails at first, and then takes a poll before it answers with an empty index. -/
def Source.unsteady : Source :=
  .scripted "unsteady"
    [{ outcome := .error (.status "unsteady" 503) }, { delay := 1, outcome := .ok [0x7B, 0x7D] }]

namespace Desk

def polled? (desk : Desk) : DeskStep → Option Nat
  | .poll handle => desk.number? handle
  | _ => none

/-- How often steps poll a load, through any of its handles. -/
def polls (number : Nat) (desk : Desk) : List DeskStep → Nat
  | [] => 0
  | step :: rest =>
    (if desk.polled? step = some number then 1 else 0) + polls number (desk.step step).2 rest

/-- The load that a step begins, if the loader counts it as a fetch. -/
def issued? (desk : Desk) : DeskStep → Option Nat
  | .load =>
    match desk.owner with
    | .live loader => if loader.load.2.fetches = loader.fetches then none else some loader.load.1
    | .gone _ => none
  | _ => none

/-- The loads that steps begin and the loader counts as fetches, in order. -/
def issued (desk : Desk) : List DeskStep → List Nat
  | [] => []
  | step :: rest => (desk.issued? step).toList ++ issued (desk.step step).2 rest

end Desk

/-- A sound loader, or the loads that one has left behind. -/
def Owner.Sound (polled : Nat → Nat) (begun : Nat) : Owner → Prop
  | .live loader => loader.Sound polled ∧ loader.fetches = begun
  | .gone loads => loads.Orderly polled begun

/-- A desk whose handles are all on loads that there are. -/
structure Desk.Sound (polled : Nat → Nat) (begun : Nat) (desk : Desk) : Prop where
  owner : desk.owner.Sound polled begun
  handles : ∀ handle number, desk.number? handle = some number →
    number < desk.owner.loads.items.length

namespace Owner

variable {owner : Owner} {polled : Nat → Nat} {begun number : Nat}

@[simp]
theorem loads_poll : (owner.poll number).2.loads = (owner.loads.poll number).2 := by
  cases owner <;> rfl

@[simp]
theorem fst_poll : (owner.poll number).1 = (owner.loads.poll number).1 := by
  cases owner <;> rfl

theorem Sound.orderly (sound : owner.Sound polled begun) :
    owner.loads.Orderly polled begun := by
  cases owner with
  | live loader =>
    obtain ⟨live, rfl⟩ := sound
    exact live.orderly
  | gone loads => exact sound

theorem exists_eq_gone (gone : owner.loader? = none) : ∃ loads, owner = .gone loads := by
  cases owner with
  | live loader => cases gone
  | gone loads => exact ⟨loads, rfl⟩

theorem Sound.poll (sound : owner.Sound polled begun)
    (inside : number < owner.loads.items.length) :
    (owner.poll number).2.Sound (Function.update polled number (polled number + 1)) begun := by
  cases owner with
  | live loader => exact ⟨sound.1.poll inside, sound.2⟩
  | gone loads => exact Loads.Orderly.poll sound inside

end Owner

namespace Desk

variable {desk : Desk} {polled : Nat → Nat} {begun handle number : Nat}

theorem number?_eq_some_of_append {handles : List (Option Nat)} {added : Option Nat} {owner : Owner}
    (found : Desk.number? ⟨owner, handles ++ [added]⟩ handle = some number) :
    Desk.number? ⟨owner, handles⟩ handle = some number ∨ added = some number := by
  by_cases before : handle < handles.length
  · exact .inl (by simpa [number?, List.getElem?_append_left before] using found)
  · right
    simp only [number?, List.getElem?_append_right (Nat.le_of_not_lt before)] at found
    cases there : [added][handle - handles.length]? with
    | none => simp [there] at found
    | some kept =>
      obtain rfl := List.mem_singleton.mp (List.mem_of_getElem? there)
      simpa [there] using found

theorem number?_eq_some_of_set {handles : List (Option Nat)} {dropped : Nat} {owner : Owner}
    (found : Desk.number? ⟨owner, handles.set dropped none⟩ handle = some number) :
    Desk.number? ⟨owner, handles⟩ handle = some number := by
  simp only [number?, List.getElem?_set] at found ⊢
  split at found
  · split at found <;> simp at found
  · exact found

inductive Moves (desk : Desk) : DeskStep → Desk → Prop
  | idle {step : DeskStep} : desk.polled? step = none → desk.issued? step = none →
      Moves desk step desk
  | load {loader : Loader} : desk.owner = .live loader →
      Moves desk .load ⟨.live loader.load.2, desk.handles ++ [some loader.load.1]⟩
  | poll {handle number : Nat} : desk.number? handle = some number →
      Moves desk (.poll handle) ⟨(desk.owner.poll number).2, desk.handles⟩
  | drop {handle number : Nat} : desk.number? handle = some number →
      Moves desk (.drop handle) ⟨desk.owner, desk.handles.set handle none⟩
  | dropLoader {loader : Loader} : desk.owner = .live loader →
      Moves desk .dropLoader ⟨.gone loader.toLoads, desk.handles⟩

theorem moves_step (desk : Desk) (step : DeskStep) : desk.Moves step (desk.step step).2 := by
  cases step with
  | load =>
    cases owner : desk.owner with
    | live loader =>
      simp only [Desk.step, owner]
      exact .load owner
    | gone loads =>
      simp only [Desk.step, owner]
      exact .idle rfl (by simp [issued?, owner])
  | poll handle =>
    cases reached : desk.number? handle with
    | none =>
      simp only [Desk.step, reached]
      exact .idle reached rfl
    | some number =>
      simp only [Desk.step, reached]
      exact .poll reached
  | drop handle =>
    cases reached : desk.number? handle with
    | none =>
      simp only [Desk.step, reached]
      exact .idle rfl rfl
    | some number =>
      simp only [Desk.step, reached]
      exact .drop reached
  | dropLoader =>
    cases owner : desk.owner with
    | live loader =>
      simp only [Desk.step, owner]
      exact .dropLoader owner
    | gone loads =>
      simp only [Desk.step, owner]
      exact .idle rfl rfl

theorem step_load {loader : Loader} (live : desk.owner = .live loader) :
    desk.step .load =
      (.handle desk.handles.length,
        ⟨.live loader.load.2, desk.handles ++ [some loader.load.1]⟩) := by
  simp [Desk.step, live]

theorem step_poll (reached : desk.number? handle = some number) :
    desk.step (.poll handle) =
      (.polled (desk.owner.loads.poll number).1, ⟨(desk.owner.poll number).2, desk.handles⟩) := by
  simp [Desk.step, reached]

/-- Handles given out keep their load until they are dropped. -/
theorem number?_of_step {step : DeskStep} (before : handle < desk.handles.length)
    (found : (desk.step step).2.number? handle = some number) :
    desk.number? handle = some number := by
  have moved := desk.moves_step step
  generalize (desk.step step).2 = after at moved found
  cases moved with
  | idle | poll | dropLoader => exact found
  | load => simpa [number?, List.getElem?_append_left before] using found
  | drop => exact number?_eq_some_of_set found

theorem length_handles_step (step : DeskStep) :
    desk.handles.length ≤ (desk.step step).2.handles.length := by
  have moved := desk.moves_step step
  generalize (desk.step step).2 = after at moved
  cases moved <;> simp

theorem number?_of_run {steps : List DeskStep} (before : handle < desk.handles.length)
    (found : (desk.run steps).number? handle = some number) :
    desk.number? handle = some number := by
  induction steps generalizing desk with
  | nil => exact found
  | cons step rest ih =>
    have within := Nat.lt_of_lt_of_le before (desk.length_handles_step step)
    exact number?_of_step before (ih within found)

@[simp]
theorem loader?_dropLoader : (desk.step .dropLoader).2.owner.loader? = none := by
  cases owner : desk.owner <;> simp [Desk.step, owner, Owner.loader?]

@[simp]
theorem loads_dropLoader : (desk.step .dropLoader).2.owner.loads = desk.owner.loads := by
  cases owner : desk.owner <;> simp [Desk.step, owner, Owner.loads]

@[simp]
theorem handles_dropLoader : (desk.step .dropLoader).2.handles = desk.handles := by
  cases owner : desk.owner <;> simp [Desk.step, owner]

/-- A loader that is gone does not come back. -/
theorem loader?_step (gone : desk.owner.loader? = none) (step : DeskStep) :
    (desk.step step).2.owner.loader? = none := by
  have moved := desk.moves_step step
  generalize (desk.step step).2 = after at moved
  cases moved with
  | idle | drop => exact gone
  | load live | dropLoader live => simp [Owner.loader?, live] at gone
  | poll =>
    obtain ⟨loads, owner⟩ := Owner.exists_eq_gone gone
    rw [owner]
    rfl

theorem loader?_run (gone : desk.owner.loader? = none) (steps : List DeskStep) :
    (desk.run steps).owner.loader? = none := by
  induction steps generalizing desk with
  | nil => exact gone
  | cons step rest ih => exact ih (loader?_step gone step)

theorem counts_eq_update (polled : Nat → Nat) (number : Nat) :
    (fun other => polled other + if some number = some other then 1 else 0) =
      Function.update polled number (polled number + 1) := by
  funext other
  by_cases same : other = number
  · simp [same]
  · simp [Function.update_of_ne same, Ne.symm same]

namespace Sound

theorem new (source : Source) : (Desk.new source).Sound (fun _ => 0) 0 where
  owner := ⟨.new source, rfl⟩
  handles := by simp [Desk.new, number?]

theorem step (sound : desk.Sound polled begun) (step : DeskStep) :
    (desk.step step).2.Sound
      (fun number => polled number + if desk.polled? step = some number then 1 else 0)
      (begun + (desk.issued? step).toList.length) := by
  have moved := desk.moves_step step
  generalize (desk.step step).2 = after at moved
  cases moved with
  | idle unpolled unissued => simpa [unpolled, unissued] using sound
  | @load loader live =>
    have owner := sound.owner
    have inside := sound.handles
    rw [live] at owner inside
    obtain ⟨kept, rfl⟩ := owner
    constructor
    case owner =>
      refine ⟨kept.load, ?_⟩
      rcases loader.fetches_load with same | more
      · simp [issued?, live, same]
      · simp [issued?, live, more]
    case handles =>
      intro handle number found
      rcases number?_eq_some_of_append found with before | added
      · exact Nat.lt_of_lt_of_le (inside handle number before) Loader.length_le_load
      · exact Option.some.inj added ▸ kept.load_lt
  | @poll handle number reached =>
    simp only [polled?, issued?, reached, counts_eq_update]
    refine ⟨sound.owner.poll (sound.handles handle number reached), ?_⟩
    intro other found there
    simpa using sound.handles other found there
  | drop =>
    refine ⟨sound.owner, ?_⟩
    intro other found there
    exact sound.handles other found (number?_eq_some_of_set there)
  | dropLoader live =>
    have owner := sound.owner
    have inside := sound.handles
    rw [live] at owner inside
    exact ⟨owner.orderly, inside⟩

theorem of_live {loader : Loader} (sound : desk.Sound polled begun)
    (live : desk.owner = .live loader) : loader.Sound polled ∧ loader.fetches = begun := by
  have owner := sound.owner
  rwa [live] at owner

/-- Loads that are counted as fetches are numbered one after the other. -/
theorem eq_of_issued? (sound : desk.Sound polled begun) {step : DeskStep}
    (issued : desk.issued? step = some number) : number = begun := by
  cases step with
  | load =>
    cases live : desk.owner with
    | gone loads => simp [issued?, live] at issued
    | live loader =>
      obtain ⟨kept, rfl⟩ := sound.of_live live
      have held := kept.state_eq
      cases state : loader.state with
      | resolved shared => simp [issued?, live, Loader.load_of_resolved state] at issued
      | pending other => simp [issued?, live, Loader.load_of_pending state] at issued
      | empty | failed error =>
        have unresolved : ∀ shared, loader.state ≠ .resolved shared := by simp [state]
        have newest := Loader.load_of_idle unresolved (by simp [state])
        rw [held] at unresolved
        have length := kept.orderly.length_eq unresolved
        simp [issued?, live, newest] at issued
        omega
  | poll | drop | dropLoader => simp [issued?] at issued

theorem run (sound : desk.Sound polled begun) (steps : List DeskStep) :
    (desk.run steps).Sound (fun number => polled number + desk.polls number steps)
      (begun + (desk.issued steps).length) := by
  induction steps generalizing desk polled begun with
  | nil => exact sound
  | cons step rest ih =>
    have later := ih (sound.step step)
    simpa [Desk.run, polls, issued, Nat.add_assoc] using later

/-- The loads that a run begins and the loader counts as fetches are numbered in order. -/
theorem issued_eq (sound : desk.Sound polled begun) (steps : List DeskStep) :
    desk.issued steps = List.range' begun (desk.issued steps).length := by
  induction steps generalizing desk polled begun with
  | nil => rfl
  | cons step rest ih =>
    have later := ih (sound.step step)
    cases first : desk.issued? step with
    | none => simpa [issued, first] using later
    | some number =>
      obtain rfl := sound.eq_of_issued? first
      simpa [issued, first, List.range'_succ] using later

end Sound

variable (source : Source) (steps : List DeskStep)

/-- Every run leads to a sound desk. -/
theorem sound_run :
    ((Desk.new source).run steps).Sound (fun number => (Desk.new source).polls number steps)
      ((Desk.new source).issued steps).length := by
  simpa using (Sound.new source).run steps

theorem issued_eq_range :
    (Desk.new source).issued steps = List.range ((Desk.new source).issued steps).length := by
  rw [List.range_eq_range']
  exact (Sound.new source).issued_eq steps

@[simp]
theorem source_step (step : DeskStep) :
    (desk.step step).2.owner.loads.source = desk.owner.loads.source := by
  have moved := desk.moves_step step
  generalize (desk.step step).2 = after at moved
  cases moved with
  | idle | drop => rfl
  | load live => simp [Owner.loads, live]
  | poll => simp
  | dropLoader live => simp [Owner.loads, live]

@[simp]
theorem source_run : (desk.run steps).owner.loads.source = desk.owner.loads.source := by
  induction steps generalizing desk with
  | nil => rfl
  | cons step rest ih => simp [Desk.run, ih]

end Desk

end DocBrowser
