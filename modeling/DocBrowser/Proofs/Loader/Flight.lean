import DocBrowser.Proofs.Loader.Progress

/-!
The next request of an idle loader, poll by poll. The loader in the middle of it is given in full,
so that who polls and who has stopped polling can make no difference.
-/

namespace DocBrowser

/-- A load that has ended stays as it is, whatever is polled. -/
theorem Loads.getElem?_poll_of_finished {loads : Loads} {number other : Nat} {result : LoadResult}
    (finished : loads.items[number]? = some (.finished result)) :
    (loads.poll other).2.items[number]? = some (.finished result) := by
  have untouched : ∀ item, loads.items[other]? ≠ some (.finished result) →
      (loads.items.set other item)[number]? = some (.finished result) := by
    intro item different
    have apart : other ≠ number := by
      rintro rfl
      exact different finished
    rw [List.getElem?_set_ne apart, finished]
  have waited : ∀ calls left outcome, loads.items[other]? ≠ some (.finished result) →
      ((({ loads with calls } : Loads).wait other left outcome).2.items[number]?) =
        some (.finished result) := by
    intro calls left outcome different
    cases left <;> exact untouched _ different
  unfold poll
  split
  · exact finished
  · exact finished
  · next there => exact untouched _ (by simp [there])
  · next there => exact waited _ _ _ (by simp [there])
  · next there => exact waited loads.calls _ _ (by simp [there])

theorem Source.result_eq_ok {source : Source} {number : Nat} {index : Index}
    (success : (source.respond number).outcome.bind Index.ofBytes = .ok index) :
    source.result number = .ok ⟨number, index⟩ := by
  simp [result, Loads.complete, success, Except.map]

theorem Source.result_eq_error {source : Source} {number : Nat} {error : LoadError}
    (failure : (source.respond number).outcome.bind Index.ofBytes = .error error) :
    source.result number = .error error := by
  simp [result, Loads.complete, failure, Except.map]

namespace Loader

variable {loader : Loader} {number polls : Nat} {result : LoadResult} {shared : SharedIndex}

theorem poll_eq_of_finished (finished : loader.items[number]? = some (.finished result)) :
    loader.poll number = (.done result, loader) := by
  simp [poll, Loads.poll, finished, isUnfinished]

theorem getElem?_poll_of_finished (finished : loader.items[number]? = some (.finished result))
    (other : Nat) : (loader.poll other).2.items[number]? = some (.finished result) :=
  Loads.getElem?_poll_of_finished finished

theorem getElem?_load_of_finished (finished : loader.items[number]? = some (.finished result)) :
    loader.load.2.items[number]? = some (.finished result) := by
  obtain ⟨later, appended⟩ := loader.load_appends
  have inside := (List.getElem?_eq_some_iff.mp finished).1
  rw [appended, List.getElem?_append_left inside, finished]

/-- A poll of the load under way, in full. -/
theorem poll_eq_of_course
    (course : loader.items[number]? = some (loader.source.load number polls))
    (asked : polls = 0 → loader.calls = number) (unanswered : polls ≤ loader.source.delay number) :
    loader.poll number =
      (loader.source.answer number polls,
        { loader with
          items := loader.items.set number (loader.source.load number (polls + 1))
          calls := if polls = 0 then loader.calls + 1 else loader.calls
          state := if polls < loader.source.delay number then loader.state
            else keep (loader.source.result number) }) := by
  have polledOnce := Loads.poll_eq_of_course course asked
  by_cases early : polls < loader.source.delay number
  · simp [poll, polledOnce, Source.answer, early]
  · simp [poll, polledOnce, Source.answer, early, course, unanswered]

/-- A loader that has no index and waits for none. The next request will ask the source. -/
structure Idle (loader : Loader) : Prop where
  unresolved : ∀ shared, loader.state ≠ .resolved shared
  free : ∀ number, loader.state ≠ .pending number
  length_eq : loader.items.length = loader.calls
  fetches_eq : loader.fetches = loader.calls

theorem idle_new (source : Source) : (new source).Idle := by
  constructor <;> simp [new]

theorem Consistent.idle (consistent : loader.Consistent)
    (status : loader.status = .empty ∨ ∃ error, loader.status = .failed error) : loader.Idle := by
  obtain ⟨polled, sound⟩ := consistent
  have held := sound.state_eq
  have unresolved : ∀ shared, loader.state ≠ .resolved shared := by
    intro shared resolved
    simp [Loader.status, resolved] at status
  have free : ∀ number, loader.state ≠ .pending number := by
    intro number pending
    simp [Loader.status, pending] at status
  have calls : loader.calls = loader.fetches := by
    apply sound.orderly.calls_eq_of_polled
    intro last begun
    by_contra unpolled
    apply free last
    exact held.trans (Source.state_eq_pending_iff.mpr ⟨begun, by omega⟩)
  have length : loader.items.length = loader.fetches :=
    sound.orderly.length_eq fun shared => held ▸ unresolved shared
  exact ⟨unresolved, free, length.trans calls.symm, calls.symm⟩

/-- How many polls of the next request bring no answer. -/
def delay (loader : Loader) : Nat := loader.source.delay loader.calls

/-- How the next request ends. -/
def outcome (loader : Loader) : LoadResult := loader.source.result loader.calls

/-- An idle loader once its next request has been polled so often, by anyone. -/
def flight (loader : Loader) : Nat → Loader
  | 0 => loader
  | polls + 1 =>
    { loader with
      items := loader.items ++ [loader.source.load loader.calls (polls + 1)]
      calls := loader.calls + 1
      fetches := loader.fetches + 1
      state := if polls < loader.delay then .pending loader.calls else keep loader.outcome }

theorem load_flight (underway : polls < loader.delay) :
    (loader.flight (polls + 1)).load = (loader.calls, loader.flight (polls + 1)) :=
  load_of_pending (by simp [flight, underway])

theorem answer_of_lt (early : polls < loader.delay) :
    loader.source.answer loader.calls polls = .pending := if_pos early

theorem answer_of_le (late : loader.delay ≤ polls) :
    loader.source.answer loader.calls polls = .done loader.outcome := if_neg (Nat.not_lt.mpr late)

/-- Once the request has ended, nothing is left of the number of its polls. -/
theorem flight_of_lt (ended : loader.delay < polls) :
    loader.flight polls = loader.flight (loader.delay + 1) := by
  have last : loader.source.delay loader.calls < loader.delay + 1 := Nat.lt_succ_self _
  cases polls with
  | zero => omega
  | succ earlier =>
    have late : ¬ earlier < loader.delay := by omega
    simp [flight, late, Source.load_of_delay_lt ended, Source.load_of_delay_lt last]

namespace Idle

/-- The first poll of a request begins it, and asks the source. -/
theorem poll_load (idle : loader.Idle) :
    loader.load.1 = loader.calls ∧
      loader.load.2.poll loader.calls =
        (loader.source.answer loader.calls 0, loader.flight 1) := by
  have length := idle.length_eq
  rw [load_of_idle idle.unresolved idle.free]
  refine ⟨length, ?_⟩
  have course : (loader.items ++ [Load.unpolled])[loader.calls]? =
      some (loader.source.load loader.calls 0) := by
    simp [← length, Source.load]
  rw [poll_eq_of_course course (fun _ => rfl) (Nat.zero_le _)]
  simp [flight, delay, outcome, ← length]

theorem getElem?_flight (idle : loader.Idle) (polls : Nat) :
    (loader.flight (polls + 1)).items[loader.calls]? =
      some (loader.source.load loader.calls (polls + 1)) := by
  simp [flight, ← idle.length_eq]

theorem poll_flight (idle : loader.Idle) (underway : polls < loader.delay) :
    (loader.flight (polls + 1)).poll loader.calls =
      (loader.source.answer loader.calls (polls + 1), loader.flight (polls + 2)) := by
  have unanswered : polls + 1 ≤ loader.source.delay loader.calls := underway
  have waiting : polls < loader.source.delay loader.items.length := by
    rw [idle.length_eq]
    exact underway
  rw [poll_eq_of_course (idle.getElem?_flight polls) (by simp) unanswered]
  simp [flight, delay, outcome, waiting, ← idle.length_eq]

theorem getElem?_flight_of_le (idle : loader.Idle) (enough : loader.delay ≤ polls) :
    (loader.flight (polls + 1)).items[loader.calls]? = some (.finished loader.outcome) := by
  rw [idle.getElem?_flight, Source.load_of_delay_lt (Nat.lt_succ_of_le enough)]
  rfl

theorem pollsLeft_flight (idle : loader.Idle) (underway : polls < loader.delay) :
    (loader.flight (polls + 1)).pollsLeft loader.calls = loader.delay - polls := by
  have there := idle.getElem?_flight polls
  have early : polls < loader.source.delay loader.calls := underway
  simp only [Source.load, early, if_true] at there
  simp only [Loads.pollsLeft, there, delay]
  omega

end Idle

end Loader

end DocBrowser
