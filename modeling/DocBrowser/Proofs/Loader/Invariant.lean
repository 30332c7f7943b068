import DocBrowser.Proofs.Loader.Course

/-!
What holds of a loader at all times. The loads that make a request come first, in the order of their
requests, and all of them but the last have failed; the loads after them are for the index that the
last one brought. The state of the loader is that of the last request.
-/

namespace DocBrowser

/-- Loads of which the first `begun` make a request, polled `polled` times each. -/
structure Loads.Orderly (polled : Nat → Nat) (begun : Nat) (loads : Loads) : Prop where
  course : ∀ number, number < begun →
    loads.items[number]? = some (loads.source.load number (polled number))
  /-- The source is asked at the first poll of a load. -/
  asked : ∀ number, number < begun → (0 < polled number ↔ number < loads.calls)
  calls_le : loads.calls ≤ begun
  failed : ∀ number, number + 1 < begun →
    loads.source.delay number < polled number ∧ ∃ error, loads.source.result number = .error error
  spare : ∀ number item, begun ≤ number → loads.items[number]? = some item →
    ∃ shared, loads.source.state polled begun = .resolved shared ∧
      (item = .ready shared ∨ item = .finished (.ok shared))
  untouched : ∀ number, loads.items.length ≤ number → polled number = 0

/-- Whether a load has still to end, and the source has to answer for that. A load for an index that
is there is over from the start. -/
def Loads.Underway (loads : Loads) (number : Nat) : Prop :=
  Loader.isUnfinished loads.items[number]? = true

namespace Loads.Orderly

variable {loads : Loads} {polled : Nat → Nat} {begun number : Nat} {shared : SharedIndex}

theorem begun_le_length (orderly : loads.Orderly polled begun) : begun ≤ loads.items.length := by
  cases begun with
  | zero => exact Nat.zero_le _
  | succ last =>
    have there := orderly.course last (Nat.lt_succ_self last)
    obtain ⟨inside, _⟩ := List.getElem?_eq_some_iff.mp there
    exact inside

/-- Without success there are no other loads than those that make a request. -/
theorem length_eq (orderly : loads.Orderly polled begun)
    (unresolved : ∀ shared, loads.source.state polled begun ≠ .resolved shared) :
    loads.items.length = begun := by
  apply Nat.le_antisymm _ orderly.begun_le_length
  by_contra longer
  have inside : begun < loads.items.length := by omega
  obtain ⟨shared, resolved, _⟩ :=
    orderly.spare begun _ (Nat.le_refl begun) (List.getElem?_eq_getElem inside)
  exact unresolved shared resolved

/-- Only the last request can be without answer. -/
theorem begun_eq_of_waiting (orderly : loads.Orderly polled begun) (inside : number < begun)
    (waiting : polled number ≤ loads.source.delay number) : begun = number + 1 := by
  by_contra earlier
  have finished := (orderly.failed number (by omega)).1
  omega

/-- A load that was never polled is the last, and the only one the source was not asked for. -/
theorem calls_eq_of_unpolled (orderly : loads.Orderly polled begun) (inside : number < begun)
    (unpolled : polled number = 0) : loads.calls = number ∧ begun = number + 1 := by
  have asked := orderly.asked number inside
  have last := orderly.begun_eq_of_waiting inside (by omega)
  have notAbove : loads.calls ≤ number := by omega
  refine ⟨?_, last⟩
  cases number with
  | zero => omega
  | succ before =>
    have finished := (orderly.failed before (by omega)).1
    have askedBefore := orderly.asked before (by omega)
    omega

theorem poll_eq_of_lt (orderly : loads.Orderly polled begun) (inside : number < begun) :
    loads.poll number =
      (loads.source.answer number (polled number),
        { loads with
          items := loads.items.set number (loads.source.load number (polled number + 1))
          calls := if polled number = 0 then loads.calls + 1 else loads.calls }) :=
  poll_eq_of_course (orderly.course number inside)
    fun unpolled => (orderly.calls_eq_of_unpolled inside unpolled).1

theorem poll_eq_of_le (orderly : loads.Orderly polled begun) (above : begun ≤ number)
    (inside : number < loads.items.length) :
    ∃ shared, loads.source.state polled begun = .resolved shared ∧
      Loader.isUnfinished loads.items[number]? = false ∧
      loads.poll number =
        (.done (.ok shared),
          { loads with items := loads.items.set number (.finished (.ok shared)) }) := by
  have there := List.getElem?_eq_getElem inside
  obtain ⟨shared, resolved, spare⟩ := orderly.spare number _ above there
  refine ⟨shared, resolved, ?_, poll_eq_of_spare ?_⟩
  · rw [there]
    rcases spare with ready | finished
    · simp [ready, Loader.isUnfinished]
    · simp [finished, Loader.isUnfinished]
  · rw [there]
    exact spare.imp (congrArg some) (congrArg some)

/-- The only load under way is that of the last request, until it is polled often enough. -/
theorem underway_iff (orderly : loads.Orderly polled begun) :
    loads.Underway number ↔ loads.source.state polled begun = .pending number := by
  rw [Source.state_eq_pending_iff]
  constructor
  · intro underway
    by_cases requesting : number < begun
    · have waiting : polled number ≤ loads.source.delay number := by
        simpa [Underway, orderly.course number requesting] using underway
      exact ⟨orderly.begun_eq_of_waiting requesting waiting, waiting⟩
    · exfalso
      by_cases inside : number < loads.items.length
      · obtain ⟨_, _, ended, _⟩ := orderly.poll_eq_of_le (by omega) inside
        simp [Underway, ended] at underway
      · simp [Underway, List.getElem?_eq_none (Nat.le_of_not_lt inside), Loader.isUnfinished]
          at underway
  · rintro ⟨rfl, waiting⟩
    simp [Underway, orderly.course number (Nat.lt_succ_self number), waiting]

/-- The source was asked for all requests if the last load was polled. -/
theorem calls_eq_of_polled (orderly : loads.Orderly polled begun)
    (polledOnce : ∀ last, begun = last + 1 → 0 < polled last) : loads.calls = begun := by
  apply Nat.le_antisymm orderly.calls_le
  cases begun with
  | zero => exact Nat.zero_le _
  | succ last => exact (orderly.asked last (Nat.lt_succ_self last)).mp (polledOnce last rfl)

/-- Bringing one load a poll further keeps the order, if the source is asked at the first poll. -/
theorem advance (orderly : loads.Orderly polled begun) (inside : number < loads.items.length)
    (item : Load) (calls : Nat)
    (course : number < begun → item = loads.source.load number (polled number + 1))
    (spare : begun ≤ number → ∃ shared, loads.source.state polled begun = .resolved shared ∧
      item = .finished (.ok shared))
    (asked : calls = if number < begun ∧ polled number = 0 then loads.calls + 1 else loads.calls) :
    Orderly (Function.update polled number (polled number + 1)) begun
      { loads with items := loads.items.set number item, calls } := by
  constructor
  case course =>
    intro other otherInside
    by_cases same : other = number
    · subst same
      simp [inside, course otherInside]
    · have kept := orderly.course other otherInside
      simpa [Function.update_of_ne same, List.getElem?_set_ne (Ne.symm same)] using kept
  case asked =>
    intro other otherInside
    have before := orderly.asked other otherInside
    by_cases first : number < begun ∧ polled number = 0
    · obtain ⟨next, last⟩ := orderly.calls_eq_of_unpolled first.1 first.2
      by_cases same : other = number
      · subst same
        simp [asked, first, next]
      · simp only [asked, first, and_self, if_true, Function.update_of_ne same]
        omega
    · by_cases same : other = number
      · subst same
        have earlier : polled other ≠ 0 := fun unpolled => first ⟨otherInside, unpolled⟩
        simp [asked, earlier, before.mp (Nat.pos_of_ne_zero earlier)]
      · simpa [asked, first, Function.update_of_ne same] using before
  case calls_le =>
    have before := orderly.calls_le
    by_cases first : number < begun ∧ polled number = 0
    · obtain ⟨next, last⟩ := orderly.calls_eq_of_unpolled first.1 first.2
      simp only [asked, first, and_self, if_true]
      omega
    · simpa [asked, first] using before
  case failed =>
    intro other earlier
    obtain ⟨finished, error⟩ := orderly.failed other earlier
    refine ⟨?_, error⟩
    by_cases same : other = number
    · subst same
      simp only [Function.update_self]
      omega
    · simpa [Function.update_of_ne same] using finished
  case spare =>
    intro other found above there
    by_cases same : other = number
    · subst same
      obtain ⟨shared, resolved, rfl⟩ := spare above
      simp only [List.getElem?_set_self inside, Option.some.injEq] at there
      exact ⟨shared, Source.state_update_of_resolved resolved, .inr there.symm⟩
    · rw [List.getElem?_set_ne (Ne.symm same)] at there
      obtain ⟨shared, resolved, kept⟩ := orderly.spare other found above there
      exact ⟨shared, Source.state_update_of_resolved resolved, kept⟩
  case untouched =>
    intro other outside
    simp only [List.length_set] at outside
    have apart : other ≠ number := by omega
    simpa [Function.update_of_ne apart] using orderly.untouched other outside

theorem poll (orderly : loads.Orderly polled begun) (inside : number < loads.items.length) :
    (loads.poll number).2.Orderly (Function.update polled number (polled number + 1)) begun := by
  by_cases requesting : number < begun
  · rw [orderly.poll_eq_of_lt requesting]
    refine orderly.advance inside _ _ (fun _ => rfl) ?_ ?_
    · intro above
      omega
    · simp [requesting]
  · obtain ⟨shared, resolved, _, polledOnce⟩ := orderly.poll_eq_of_le (by omega) inside
    rw [polledOnce]
    refine orderly.advance inside _ _ ?_ (fun _ => ⟨shared, resolved, rfl⟩) ?_
    · intro inFront
      omega
    · simp [requesting]

theorem append_ready (orderly : loads.Orderly polled begun)
    (resolved : loads.source.state polled begun = .resolved shared) :
    Orderly polled begun { loads with items := loads.items ++ [.ready shared] } := by
  constructor
  case course =>
    intro other inside
    have within : other < loads.items.length := by
      have bound := orderly.begun_le_length
      omega
    simpa [List.getElem?_append_left within] using orderly.course other inside
  case asked => exact orderly.asked
  case calls_le => exact orderly.calls_le
  case failed => exact orderly.failed
  case spare =>
    intro other item above there
    by_cases within : other < loads.items.length
    · rw [List.getElem?_append_left within] at there
      exact orderly.spare other item above there
    · rw [List.getElem?_append_right (by omega)] at there
      have last := List.mem_of_getElem? there
      exact ⟨shared, resolved, .inl (List.mem_singleton.mp last)⟩
  case untouched =>
    intro other outside
    simp only [List.length_append, List.length_singleton] at outside
    exact orderly.untouched other (by omega)

/-- A new request may be begun when the last one has failed, or when there was none. -/
theorem append_unpolled (orderly : loads.Orderly polled begun)
    (unresolved : ∀ shared, loads.source.state polled begun ≠ .resolved shared)
    (idle : ∀ number, loads.source.state polled begun ≠ .pending number) :
    Orderly polled (begun + 1) { loads with items := loads.items ++ [.unpolled] } := by
  have length := orderly.length_eq unresolved
  have fresh : polled begun = 0 := orderly.untouched begun (by omega)
  constructor
  case course =>
    intro other inside
    by_cases earlier : other < begun
    · have within : other < loads.items.length := by omega
      simpa [List.getElem?_append_left within] using orderly.course other earlier
    · have newest : other = loads.items.length := by omega
      subst newest
      simp [length, fresh, Source.load]
  case asked =>
    intro other inside
    by_cases earlier : other < begun
    · exact orderly.asked other earlier
    · have newest : other = begun := by omega
      subst newest
      have bound := orderly.calls_le
      simp only [fresh]
      omega
  case calls_le => exact Nat.le_succ_of_le orderly.calls_le
  case failed =>
    intro other earlier
    by_cases before : other + 1 < begun
    · exact orderly.failed other before
    · have last : begun = other + 1 := by omega
      subst last
      have enough : loads.source.delay other < polled other := by
        by_contra waiting
        exact idle other (Source.state_eq_pending_iff.mpr ⟨rfl, by omega⟩)
      refine ⟨enough, ?_⟩
      cases ended : loads.source.result other with
      | error error => exact ⟨error, rfl⟩
      | ok shared =>
        exact absurd (Source.state_eq_resolved_iff.mpr ⟨other, rfl, enough, ended⟩)
          (unresolved shared)
  case spare =>
    intro other item above there
    have outside : (loads.items ++ [Load.unpolled]).length ≤ other := by
      simp only [List.length_append, List.length_singleton]
      omega
    rw [List.getElem?_eq_none outside] at there
    cases there
  case untouched =>
    intro other outside
    simp only [List.length_append, List.length_singleton] at outside
    exact orderly.untouched other (by omega)

theorem calls_eq_of_resolved (orderly : loads.Orderly polled begun)
    (resolved : loads.source.state polled begun = .resolved shared) : loads.calls = begun := by
  apply orderly.calls_eq_of_polled
  rintro last rfl
  obtain ⟨newest, same, enough, _⟩ := Source.state_eq_resolved_iff.mp resolved
  obtain rfl : newest = last := by omega
  omega

/-- A poll that succeeds is one of the last request, or of a load for the index it brought. -/
theorem resolved_of_poll (orderly : loads.Orderly polled begun)
    (inside : number < loads.items.length)
    (success : (loads.poll number).1 = .done (.ok shared)) :
    loads.source.state (Function.update polled number (polled number + 1)) begun =
      .resolved shared := by
  by_cases requesting : number < begun
  · rw [orderly.poll_eq_of_lt requesting] at success
    by_cases early : polled number < loads.source.delay number
    · simp [Source.answer, early] at success
    · have ended : loads.source.result number = .ok shared := by
        simpa [Source.answer, early] using success
      refine Source.state_eq_resolved_iff.mpr ⟨number, ?_, ?_, ended⟩
      · by_contra earlier
        obtain ⟨_, error, failed⟩ := orderly.failed number (by omega)
        simp [ended] at failed
      · simp only [Function.update_self]
        omega
  · obtain ⟨kept, resolved, _, polledOnce⟩ := orderly.poll_eq_of_le (by omega) inside
    obtain rfl : kept = shared := by simpa [polledOnce] using success
    exact Source.state_update_of_resolved resolved

theorem eq_of_result? {other : SharedIndex} (orderly : loads.Orderly polled begun)
    (resolved : loads.source.state polled begun = .resolved shared)
    (success : loads.result? number = some (.ok other)) : other = shared := by
  have finished : loads.items[number]? = some (.finished (.ok other)) := by
    unfold result? at success
    split at success <;> simp_all
  have inside := (List.getElem?_eq_some_iff.mp finished).1
  have again : (loads.poll number).1 = .done (.ok other) := by
    rw [poll_eq_of_spare (.inr finished)]
  have same := orderly.resolved_of_poll inside again
  rw [Source.state_update_of_resolved resolved] at same
  exact (LoadState.resolved.inj same).symm

end Loads.Orderly

/-- A loader whose state is that of its last request. -/
structure Loader.Sound (polled : Nat → Nat) (loader : Loader) : Prop where
  orderly : loader.toLoads.Orderly polled loader.fetches
  state_eq : loader.state = loader.source.state polled loader.fetches

namespace Loader

variable {loader : Loader} {polled : Nat → Nat} {number : Nat} {shared : SharedIndex}

@[simp]
theorem toLoads_poll : (loader.poll number).2.toLoads = (loader.toLoads.poll number).2 := rfl

@[simp]
theorem fst_poll : (loader.poll number).1 = (loader.toLoads.poll number).1 := rfl

@[simp]
theorem fetches_poll : (loader.poll number).2.fetches = loader.fetches := rfl

theorem load_of_resolved (resolved : loader.state = .resolved shared) :
    loader.load =
      (loader.items.length, { loader with items := loader.items ++ [.ready shared] }) := by
  simp [load, resolved, push]

theorem load_of_pending (pending : loader.state = .pending number) :
    loader.load = (number, loader) := by
  simp [load, pending]

theorem load_of_idle (unresolved : ∀ shared, loader.state ≠ .resolved shared)
    (idle : ∀ number, loader.state ≠ .pending number) :
    loader.load =
      (loader.items.length,
        { loader with
          items := loader.items ++ [.unpolled]
          state := .pending loader.items.length
          fetches := loader.fetches + 1 }) := by
  cases held : loader.state with
  | empty => simp [load, held, push]
  | failed error => simp [load, held, push]
  | pending number => exact absurd held (idle number)
  | resolved shared => exact absurd held (unresolved shared)

/-- A request for the index does nothing to the loads there are. -/
theorem load_appends (loader : Loader) :
    ∃ later, loader.load.2.toLoads = { loader.toLoads with items := loader.items ++ later } := by
  cases state : loader.state with
  | resolved shared => exact ⟨_, by rw [load_of_resolved state]⟩
  | pending number => exact ⟨[], by simp [load_of_pending state]⟩
  | empty | failed error =>
    exact ⟨_, by rw [load_of_idle (by simp [state]) (by simp [state])]⟩

theorem length_le_load : loader.items.length ≤ loader.load.2.items.length := by
  obtain ⟨later, appended⟩ := loader.load_appends
  simp [appended]

theorem fetches_load (loader : Loader) :
    loader.load.2.fetches = loader.fetches ∨ loader.load.2.fetches = loader.fetches + 1 := by
  cases state : loader.state with
  | resolved shared => simp [load_of_resolved state]
  | pending number => simp [load_of_pending state]
  | empty | failed error => rw [load_of_idle (by simp [state]) (by simp [state])]; simp

@[simp]
theorem source_load : loader.load.2.source = loader.source := by
  obtain ⟨later, appended⟩ := loader.load_appends
  rw [appended]

namespace Sound

theorem new (source : Source) : (Loader.new source).Sound fun _ => 0 where
  orderly := by constructor <;> simp [Loader.new]
  state_eq := rfl

theorem load (sound : loader.Sound polled) : loader.load.2.Sound polled := by
  have held := sound.state_eq
  cases state : loader.state with
  | resolved shared =>
    rw [load_of_resolved state]
    exact ⟨sound.orderly.append_ready (held.symm.trans state), held⟩
  | pending number =>
    rw [load_of_pending state]
    exact sound
  | empty | failed error =>
    have unresolved : ∀ shared, loader.state ≠ .resolved shared := by simp [state]
    have idle : ∀ number, loader.state ≠ .pending number := by simp [state]
    rw [load_of_idle unresolved idle]
    rw [held] at unresolved idle
    have length := sound.orderly.length_eq unresolved
    refine ⟨sound.orderly.append_unpolled unresolved idle, ?_⟩
    have fresh : polled loader.fetches = 0 := sound.orderly.untouched _ (by omega)
    simp [Source.state, fresh, length]

theorem load_lt (sound : loader.Sound polled) :
    loader.load.1 < loader.load.2.items.length := by
  have held := sound.state_eq
  cases state : loader.state with
  | resolved shared => simp [load_of_resolved state]
  | pending number =>
    obtain ⟨last, _⟩ := Source.state_eq_pending_iff.mp (held.symm.trans state)
    have bound := sound.orderly.begun_le_length
    simp only [load_of_pending state]
    omega
  | empty | failed error => rw [load_of_idle (by simp [state]) (by simp [state])]; simp

/-- The state after a poll is that of the last request, which may have ended just now. -/
theorem state_poll (sound : loader.Sound polled) (inside : number < loader.items.length) :
    (loader.poll number).2.state =
      loader.source.state (Function.update polled number (polled number + 1)) loader.fetches := by
  have held := sound.state_eq
  by_cases requesting : number < loader.fetches
  · have course := sound.orderly.course number requesting
    have polledOnce := sound.orderly.poll_eq_of_lt requesting
    by_cases waiting : polled number ≤ loader.source.delay number
    · have last := sound.orderly.begun_eq_of_waiting requesting waiting
      by_cases early : polled number < loader.source.delay number
      · have notYet : ¬ loader.source.delay number < polled number + 1 := by omega
        have notBefore : ¬ loader.source.delay number < polled number := by omega
        simp [poll, polledOnce, Source.answer, early, held, last, Source.state, notYet, notBefore]
      · have enough : loader.source.delay number < polled number + 1 := by omega
        simp [poll, polledOnce, Source.answer, early, last, Source.state, course, waiting, enough]
    · have finished : loader.source.delay number < polled number := by omega
      have notEarly : ¬ polled number < loader.source.delay number := by omega
      rw [Source.state_update fun _ => finished, ← held]
      simp [poll, polledOnce, Source.answer, notEarly, course, waiting]
  · obtain ⟨shared, resolved, ended, polledOnce⟩ :=
      sound.orderly.poll_eq_of_le (by omega) inside
    rw [Source.state_update_of_resolved resolved, ← resolved, ← held]
    simp [poll, polledOnce, ended]

theorem poll (sound : loader.Sound polled) (inside : number < loader.items.length) :
    (loader.poll number).2.Sound (Function.update polled number (polled number + 1)) where
  orderly := sound.orderly.poll inside
  state_eq := by
    rw [sound.state_poll inside]
    simp

end Sound

end Loader

end DocBrowser
