import DocBrowser.Loader
import Mathlib.Logic.Function.Basic

/-!
The course of a load. How far a load has come depends only on how often it was polled, and requests
to the source follow one another: the next one is begun when the one before has failed. `Orderly`
says so of all loads together, and a poll or a new load keeps it.
-/

namespace DocBrowser

namespace Source

variable (source : Source)

def delay (number : Nat) : Nat := (source.respond number).delay

def result (number : Nat) : LoadResult := Loads.complete number (source.respond number).outcome

/-- What a poll brings to the load that makes request `number`, after `polled` earlier ones. -/
def answer (number polled : Nat) : Poll LoadResult :=
  if polled < source.delay number then .pending else .done (source.result number)

/-- The load that makes request `number`, after `polled` polls. -/
def load (number : Nat) : Nat → Load
  | 0 => .unpolled
  | polled + 1 =>
    if polled < source.delay number then
      .waiting (source.delay number - (polled + 1)) (source.respond number).outcome
    else .finished (source.result number)

/-- What a loader holds after it has begun so many requests, the last of which may be under way. -/
def state (polled : Nat → Nat) : Nat → LoadState
  | 0 => .empty
  | last + 1 =>
    if source.delay last < polled last then Loader.keep (source.result last) else .pending last

variable {source : Source} {number polls : Nat} {polled : Nat → Nat}

theorem load_of_delay_lt (enough : source.delay number < polls) :
    source.load number polls = .finished (source.result number) := by
  cases polls with
  | zero => omega
  | succ earlier =>
    have notEarlier : ¬ earlier < source.delay number := by omega
    simp [load, notEarlier]

@[simp]
theorem isUnfinished_load :
    Loader.isUnfinished (some (source.load number polls)) =
      decide (polls ≤ source.delay number) := by
  cases polls with
  | zero => simp [load, Loader.isUnfinished]
  | succ earlier =>
    by_cases early : earlier < source.delay number
    · simp [load, early, Loader.isUnfinished, Nat.succ_le_of_lt early]
    · have late : ¬ earlier + 1 ≤ source.delay number := by omega
      simp [load, early, late, Loader.isUnfinished]

theorem state_eq_resolved_iff {begun : Nat} {shared : SharedIndex} :
    source.state polled begun = .resolved shared ↔
      ∃ last, begun = last + 1 ∧ source.delay last < polled last ∧
        source.result last = .ok shared := by
  cases begun with
  | zero => simp [state]
  | succ last =>
    by_cases enough : source.delay last < polled last
    · cases ended : source.result last <;> simp [state, enough, ended, Loader.keep]
    · simp [state, enough]

theorem state_eq_pending_iff {begun : Nat} :
    source.state polled begun = .pending number ↔
      begun = number + 1 ∧ polled number ≤ source.delay number := by
  cases begun with
  | zero => simp [state]
  | succ last =>
    by_cases enough : source.delay last < polled last
    · cases ended : source.result last <;> simp [state, enough, ended, Loader.keep] <;> grind
    · simp [state, enough]
      grind

theorem state_update {begun : Nat}
    (ended : begun = number + 1 → source.delay number < polled number) :
    source.state (Function.update polled number (polled number + 1)) begun =
      source.state polled begun := by
  cases begun with
  | zero => rfl
  | succ last =>
    by_cases same : last = number
    · subst same
      have enough := ended rfl
      have still : source.delay last < polled last + 1 := by omega
      simp [state, enough, still]
    · simp [state, Function.update_of_ne same]

theorem state_update_of_resolved {begun : Nat} {shared : SharedIndex}
    (resolved : source.state polled begun = .resolved shared) :
    source.state (Function.update polled number (polled number + 1)) begun = .resolved shared := by
  obtain ⟨last, rfl, enough, _⟩ := state_eq_resolved_iff.mp resolved
  rw [state_update, resolved]
  intro same
  obtain rfl : last = number := by omega
  exact enough

theorem state_mono {others : Nat → Nat} {begun : Nat} {shared : SharedIndex}
    (resolved : source.state polled begun = .resolved shared)
    (more : ∀ number, polled number ≤ others number) :
    source.state others begun = .resolved shared := by
  obtain ⟨last, rfl, enough, ended⟩ := state_eq_resolved_iff.mp resolved
  exact state_eq_resolved_iff.mpr ⟨last, rfl, Nat.lt_of_lt_of_le enough (more last), ended⟩

end Source

namespace Loads

variable {loads : Loads} {number polls begun : Nat} {polled : Nat → Nat} {shared : SharedIndex}

@[simp]
theorem source_wait (left : Nat) (outcome : Except LoadError Bytes) :
    (loads.wait number left outcome).2.source = loads.source := by
  cases left <;> rfl

@[simp]
theorem length_wait (left : Nat) (outcome : Except LoadError Bytes) :
    (loads.wait number left outcome).2.items.length = loads.items.length := by
  cases left <;> simp [wait]

@[simp]
theorem source_poll : (loads.poll number).2.source = loads.source := by
  unfold poll
  split <;> simp

@[simp]
theorem length_poll : (loads.poll number).2.items.length = loads.items.length := by
  unfold poll
  split <;> simp

/-- Waiting for the answer to a request brings its load one poll further. -/
theorem wait_eq (loads : Loads) (unanswered : polls ≤ loads.source.delay number) :
    loads.wait number (loads.source.delay number - polls) (loads.source.respond number).outcome =
      (loads.source.answer number polls,
        { loads with items := loads.items.set number (loads.source.load number (polls + 1)) }) := by
  cases left : loads.source.delay number - polls with
  | zero =>
    have last : ¬ polls < loads.source.delay number := by omega
    simp [wait, Source.load, Source.answer, Source.result, last]
  | succ more =>
    have notLast : polls < loads.source.delay number := by omega
    have fewer : loads.source.delay number - (polls + 1) = more := by omega
    simp [wait, Source.load, Source.answer, notLast, fewer]

theorem set_eq_self {item : Load} (there : loads.items[number]? = some item) :
    loads.items.set number item = loads.items := by
  obtain ⟨inside, rfl⟩ := List.getElem?_eq_some_iff.mp there
  exact List.set_getElem_self inside

/-- A poll of a load that makes a request. Only a first poll asks the source, and it is answered as
intended if the requests before were all made. -/
theorem poll_eq_of_course
    (course : loads.items[number]? = some (loads.source.load number polls))
    (asked : polls = 0 → loads.calls = number) :
    loads.poll number =
      (loads.source.answer number polls,
        { loads with
          items := loads.items.set number (loads.source.load number (polls + 1))
          calls := if polls = 0 then loads.calls + 1 else loads.calls }) := by
  cases polls with
  | zero =>
    have first := asked rfl
    subst first
    simp only [poll, course, Source.load]
    exact wait_eq { loads with calls := loads.calls + 1 } (Nat.zero_le _)
  | succ earlier =>
    by_cases early : earlier < loads.source.delay number
    · have waiting : loads.poll number =
          loads.wait number (loads.source.delay number - (earlier + 1))
            (loads.source.respond number).outcome := by
        simp [poll, course, Source.load, early]
      rw [waiting, wait_eq loads early]
      simp
    · have ended : loads.source.load number (earlier + 1) =
          loads.source.load number (earlier + 1 + 1) := by
        rw [Source.load_of_delay_lt (by omega), Source.load_of_delay_lt (by omega)]
      have later : ¬ earlier + 1 < loads.source.delay number := by omega
      rw [← ended, set_eq_self course]
      simp [poll, course, Source.load, early, Source.answer, later]

theorem poll_eq_of_spare
    (spare : loads.items[number]? = some (.ready shared) ∨
      loads.items[number]? = some (.finished (.ok shared))) :
    loads.poll number =
      (.done (.ok shared),
        { loads with items := loads.items.set number (.finished (.ok shared)) }) := by
  rcases spare with ready | finished
  · simp [poll, ready]
  · rw [set_eq_self finished]
    simp [poll, finished]

end Loads

end DocBrowser
