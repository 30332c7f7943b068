import DocBrowser.Proofs.Loader.Flight

/-!
What those get who wait for the index now: the index that is there, or what the request brings that
is under way or comes next.
-/

namespace DocBrowser

theorem Loads.pollsLeft_of_wait {loads later : Loads} {number left : Nat}
    {outcome : Except LoadError Bytes} (answer : loads.wait number left outcome = (.pending, later))
    (inside : number < loads.items.length) :
    later.pollsLeft number = left := by
  cases left with
  | zero => simp [wait] at answer
  | succ left =>
    obtain ⟨_, rfl⟩ := Prod.mk.inj answer
    simp [pollsLeft, inside]

/-- A poll without answer is one of those that were needed. -/
theorem Loads.pollsLeft_of_pending {loads later : Loads} {number : Nat}
    (answer : loads.poll number = (.pending, later)) (inside : number < loads.items.length) :
    loads.pollsLeft number = later.pollsLeft number + 1 := by
  have there := List.getElem?_eq_getElem inside
  cases item : loads.items[number] with
  | ready index => simp [poll, there, item] at answer
  | finished result => simp [poll, there, item] at answer
  | unpolled =>
    simp only [poll, there, item] at answer
    rw [pollsLeft_of_wait answer inside, pollsLeft, there, item]
  | waiting left outcome =>
    simp only [poll, there, item] at answer
    rw [pollsLeft_of_wait answer inside, pollsLeft, there, item]

namespace Loader

/-- What waiting for the index will bring. -/
def prospect (loader : Loader) : LoadResult :=
  match loader.state with
  | .resolved shared => .ok shared
  | .pending number => loader.source.result number
  | .empty | .failed _ => loader.source.result loader.calls

theorem prospect_new (source : Source) : (new source).prospect = source.result 0 := rfl

theorem prospect_of_resolved {loader : Loader} {shared : SharedIndex}
    (resolved : loader.state = .resolved shared) : loader.prospect = .ok shared := by
  simp [prospect, resolved]

variable {loader : Loader} {number polls left : Nat}

theorem await_eq :
    loader.await =
      pollUntil loader.load.1 (loader.load.2.pollsLeft loader.load.1) loader.load.2 := rfl

theorem pollsLeft_of_course
    (course : loader.items[number]? = some (loader.source.load number polls))
    (asked : polls = 0 → loader.calls = number) (unanswered : polls ≤ loader.source.delay number) :
    loader.pollsLeft number = loader.source.delay number - polls + 1 := by
  cases polls with
  | zero => simp [Loads.pollsLeft, course, Source.load, asked rfl, Source.delay]
  | succ earlier =>
    have early : earlier < loader.source.delay number := unanswered
    simp [Loads.pollsLeft, course, Source.load, early]

@[simp]
theorem fetches_pollUntil (limit : Nat) :
    (pollUntil number limit loader).2.fetches = loader.fetches := by
  induction limit generalizing loader with
  | zero => rfl
  | succ limit ih =>
    have once : (loader.poll number).2.fetches = loader.fetches := fetches_poll
    rw [pollUntil]
    split
    · next later answer =>
      rw [answer] at once
      exact ih.trans once
    · exact once

/-- A request that is polled as often as it needs ends with its answer, and the loader keeps it. -/
theorem exists_pollUntil_of_course
    (course : loader.items[number]? = some (loader.source.load number polls))
    (asked : polls = 0 → loader.calls = number)
    (total : polls + left = loader.source.delay number) :
    ∃ later, pollUntil number (left + 1) loader = (.done (loader.source.result number), later) ∧
      later.state = keep (loader.source.result number) := by
  induction left generalizing loader polls with
  | zero =>
    have last : ¬ polls < loader.source.delay number := by omega
    rw [pollUntil, poll_eq_of_course course asked (by omega)]
    simp [Source.answer, last]
  | succ left ih =>
    have early : polls < loader.source.delay number := by omega
    have inside := (List.getElem?_eq_some_iff.mp course).1
    rw [pollUntil, poll_eq_of_course course asked (by omega)]
    simp only [Source.answer, early, if_true]
    refine @ih _ (polls + 1) ?_ ?_ ?_
    · simp [inside]
    · simp
    · simp only
      omega

namespace Consistent

/-- A request that is under way ends if it is polled until it does. -/
theorem exists_pollUntil_of_pending (consistent : loader.Consistent)
    (pending : loader.state = .pending number) :
    ∃ later, Loader.pollUntil number (loader.pollsLeft number) loader =
        (.done (loader.source.result number), later) ∧
      later.state = keep (loader.source.result number) := by
  obtain ⟨polled, sound⟩ := consistent
  obtain ⟨last, unanswered⟩ := Source.state_eq_pending_iff.mp (sound.state_eq.symm.trans pending)
  have inside : number < loader.fetches := by omega
  have course := sound.orderly.course number inside
  have asked : polled number = 0 → loader.calls = number := fun unpolled =>
    (sound.orderly.calls_eq_of_unpolled inside unpolled).1
  rw [pollsLeft_of_course course asked unanswered]
  exact exists_pollUntil_of_course course asked (Nat.add_sub_of_le unanswered)

/-- Who waits for the index gets what was to come, and the loader keeps it. -/
theorem exists_await (consistent : loader.Consistent) :
    ∃ later, loader.await = (.done loader.prospect, later) ∧
      later.state = keep loader.prospect := by
  have begun := consistent.load.consistent
  cases held : loader.state with
  | resolved shared =>
    have ready := poll_load_of_resolved held
    have still := (consistent.await.settled shared held).1
    have once : loader.load.2.pollsLeft loader.load.1 = 1 := by
      simp [load_of_resolved held, Loads.pollsLeft]
    rw [prospect_of_resolved held]
    refine ⟨loader.await.2, Prod.ext ?_ rfl, still⟩
    rw [await_eq, once, Loader.pollUntil]
    split
    · next answer => simp [answer] at ready
    · exact ready
  | pending number =>
    rw [await_eq, load_of_pending held]
    simp only [prospect, held]
    exact consistent.exists_pollUntil_of_pending held
  | empty | failed error =>
    have idle : loader.Idle := consistent.idle (by simp [status, held])
    have number := idle.poll_load.1
    have pending : loader.load.2.state = .pending loader.load.1 := by
      rw [load_of_idle idle.unresolved idle.free]
    have ends := begun.exists_pollUntil_of_pending pending
    rw [await_eq]
    simp only [prospect, held]
    rw [number, source_load] at ends
    rwa [number]

end Consistent

end Loader

end DocBrowser
