import DocBrowser.Proofs.Navigation.Awaiting
import DocBrowser.Proofs.Navigation.Visit

/-!
Several navigations with one loader, polled in any order. Polling them in rounds is one such order.
Until the request that all of them wait for has ended, only the number of polls counts; after that
each of them ends at its own next poll.
-/

namespace DocBrowser

namespace Visit

/-- Polls the visit at one place of a list. -/
def pollAt (table : Table) (turn : Nat) (visits : List Visit) (loader : Loader) :
    List Visit × Loader :=
  match visits[turn]? with
  | none => (visits, loader)
  | some visit => (visits.set turn (visit.poll table loader).1, (visit.poll table loader).2)

/-- Polls the visits of a list in the order of their places in `order`. -/
def pollInOrder (table : Table) : List Nat → List Visit → Loader → List Visit × Loader
  | [], visits, loader => (visits, loader)
  | turn :: rest, visits, loader =>
    pollInOrder table rest (pollAt table turn visits loader).1 (pollAt table turn visits loader).2

variable {table : Table} {loader : Loader} {visits : List Visit} {visit : Visit}
  {order : List Nat} {turn place : Nat}

theorem pollInOrder_append (first rest : List Nat) :
    pollInOrder table (first ++ rest) visits loader =
      pollInOrder table rest (pollInOrder table first visits loader).1
        (pollInOrder table first visits loader).2 := by
  induction first generalizing visits loader with
  | nil => rfl
  | cons turn first ih =>
    rw [List.cons_append, pollInOrder, pollInOrder]
    exact ih

theorem pollAt_eq (there : visits[turn]? = some visit) :
    pollAt table turn visits loader =
      (visits.set turn (visit.poll table loader).1, (visit.poll table loader).2) := by
  simp [pollAt, there]

theorem getElem?_pollAt_of_ne (apart : turn ≠ place) :
    (pollAt table turn visits loader).1[place]? = visits[place]? := by
  unfold pollAt
  split
  · rfl
  · exact List.getElem?_set_ne apart

theorem getElem?_pollAt_self (there : visits[place]? = some visit) :
    (pollAt table place visits loader).1[place]? = some (visit.poll table loader).1 := by
  have inside := (List.getElem?_eq_some_iff.mp there).1
  rw [pollAt_eq there, List.getElem?_set_self inside]

/-! Rounds are one order of polling. -/

theorem pollAll_eq_pollInOrder (table : Table) (before visits : List Visit) (loader : Loader) :
    pollInOrder table (List.range' before.length visits.length) (before ++ visits) loader =
      (before ++ (pollAll table visits loader).1, (pollAll table visits loader).2) := by
  induction visits generalizing before loader with
  | nil => rfl
  | cons visit rest ih =>
    have there : (before ++ visit :: rest)[before.length]? = some visit := by simp
    have moved : (before ++ visit :: rest).set before.length (visit.poll table loader).1 =
        (before ++ [(visit.poll table loader).1]) ++ rest := by
      simp [List.set_append_right]
    have later := ih (before ++ [(visit.poll table loader).1]) (visit.poll table loader).2
    rw [List.length_append, List.length_singleton] at later
    rw [List.length_cons, List.range'_succ, pollInOrder, pollAt_eq there, moved]
    rw [later, pollAll]
    simp

theorem length_pollAll : (pollAll table visits loader).1.length = visits.length := by
  induction visits generalizing loader with
  | nil => rfl
  | cons visit rest ih => simp [pollAll, ih]

theorem rounds_eq_pollInOrder (table : Table) (count : Nat) (visits : List Visit)
    (loader : Loader) :
    rounds table count visits loader =
      pollInOrder table (List.replicate count (List.range visits.length)).flatten
        visits loader := by
  induction count generalizing visits loader with
  | zero => rfl
  | succ count ih =>
    have round := pollAll_eq_pollInOrder table [] visits loader
    simp only [List.length_nil, List.nil_append, ← List.range_eq_range'] at round
    rw [List.replicate_succ, List.flatten_cons, pollInOrder_append, round, rounds]
    simp only [ih, length_pollAll]

/-! A visit that would end at its next poll does so in its turn. -/

theorem getElem?_pollInOrder_of_done {result : Except NavigationError Navigation}
    (there : visits[place]? = some (.done result)) :
    (pollInOrder table order visits loader).1[place]? = some (.done result) := by
  induction order generalizing visits loader with
  | nil => exact there
  | cons turn rest ih =>
    rw [pollInOrder]
    apply ih
    by_cases own : turn = place
    · subst own
      exact getElem?_pollAt_self there
    · rw [getElem?_pollAt_of_ne own, there]

/-- If polls keep it so that the visit would end at its next poll, then it ends if it has a turn. -/
theorem getElem?_pollInOrder_of_ready (Ready : List Visit → Loader → Prop)
    {result : Except NavigationError Navigation}
    (kept : ∀ turn visits loader, Ready visits loader →
      Ready (pollAt table turn visits loader).1 (pollAt table turn visits loader).2)
    (ends : ∀ visits loader, Ready visits loader → (visit.poll table loader).1 = .done result)
    (ready : Ready visits loader) (there : visits[place]? = some visit) :
    (pollInOrder table order visits loader).1[place]? =
      some (if place ∈ order then .done result else visit) := by
  induction order generalizing visits loader with
  | nil => simpa [pollInOrder] using there
  | cons turn rest ih =>
    rw [pollInOrder]
    by_cases own : turn = place
    · subst own
      have ended := @getElem?_pollAt_self table loader visits visit turn there
      rw [ends visits loader ready] at ended
      rw [getElem?_pollInOrder_of_done ended, if_pos List.mem_cons_self]
    · have still := @getElem?_pollAt_of_ne table loader visits turn place own
      rw [there] at still
      have others : place ∈ turn :: rest ↔ place ∈ rest := by
        simp [Ne.symm own]
      simp only [ih (kept turn visits loader ready) still, others]

theorem snd_pollLoad (landing : Landing) (number : Nat) :
    (pollLoad landing number loader).2 = (loader.poll number).2 := by
  unfold pollLoad
  split <;> next answer => rw [answer]

/-- A load that has ended stays as it is, whatever navigations are polled. -/
theorem getElem?_poll_of_finished {number : Nat} {result : LoadResult}
    (finished : loader.items[number]? = some (.finished result)) :
    (visit.poll table loader).2.items[number]? = some (.finished result) := by
  cases visit with
  | done => exact finished
  | waiting landing other =>
    rw [poll_waiting, snd_pollLoad]
    exact Loader.getElem?_poll_of_finished finished other
  | begun path =>
    rw [poll]
    split
    · exact finished
    · exact finished
    · split
      · exact finished
      · rw [snd_pollLoad]
        exact Loader.getElem?_poll_of_finished (Loader.getElem?_load_of_finished finished) _

theorem getElem?_pollAt_of_finished {number : Nat} {result : LoadResult}
    (finished : loader.items[number]? = some (.finished result)) :
    (pollAt table turn visits loader).2.items[number]? = some (.finished result) := by
  unfold pollAt
  split
  · exact finished
  · exact getElem?_poll_of_finished finished

theorem getElem?_pollInOrder_of_finished {number : Nat} {result : LoadResult}
    (finished : loader.items[number]? = some (.finished result)) :
    (pollInOrder table order visits loader).2.items[number]? = some (.finished result) := by
  induction order generalizing visits loader with
  | nil => exact finished
  | cons turn rest ih => exact ih (getElem?_pollAt_of_finished finished)

/-- A visit that waits for a load that has ended. -/
theorem getElem?_pollInOrder_of_waiting {landing : Landing} {number : Nat} {result : LoadResult}
    (finished : loader.items[number]? = some (.finished result))
    (there : visits[place]? = some (.waiting landing number)) :
    (pollInOrder table order visits loader).1[place]? =
      some (if place ∈ order then .done (landing.conclude result) else .waiting landing number) :=
  getElem?_pollInOrder_of_ready (fun _ loader => loader.items[number]? = some (.finished result))
    (fun _ _ _ => getElem?_pollAt_of_finished)
    (fun _ _ finished => congrArg Prod.fst (poll_waiting_of_finished finished)) finished there

/-! What polls keep of visits that polls have brought about. -/

theorem Due.of_advances {after : Loader} (due : visit.Due table loader)
    (advances : loader.Advances after) : visit.Due table after := by
  cases due with
  | begun path => exact .begun path
  | waiting landsOn inside => exact .waiting landsOn (Nat.lt_of_lt_of_le inside advances.length_le)
  | failed error => exact .failed error
  | shown displays => exact .shown (displays.of_advances advances)

theorem due_pollAt (consistent : loader.Consistent) (due : ∀ visit ∈ visits, visit.Due table loader)
    (turn : Nat) :
    (∀ visit ∈ (pollAt table turn visits loader).1,
        visit.Due table (pollAt table turn visits loader).2) ∧
      loader.Advances (pollAt table turn visits loader).2 := by
  unfold pollAt
  split
  · exact ⟨due, .refl consistent⟩
  · next visit there =>
    obtain ⟨next, advances⟩ := (due visit (List.mem_of_getElem? there)).poll consistent
    refine ⟨?_, advances⟩
    intro other member
    rcases List.mem_or_eq_of_mem_set member with old | rfl
    · exact (due other old).of_advances advances
    · exact next

theorem due_pollInOrder (consistent : loader.Consistent)
    (due : ∀ visit ∈ visits, visit.Due table loader) (order : List Nat) :
    (∀ visit ∈ (pollInOrder table order visits loader).1,
        visit.Due table (pollInOrder table order visits loader).2) ∧
      loader.Advances (pollInOrder table order visits loader).2 := by
  induction order generalizing visits loader with
  | nil => exact ⟨due, .refl consistent⟩
  | cons turn rest ih =>
    obtain ⟨next, first⟩ := due_pollAt consistent due turn
    obtain ⟨last, advances⟩ := ih first.consistent next
    exact ⟨last, first.trans advances⟩

/-- A visit that begins when the index is there. -/
theorem getElem?_pollInOrder_of_resolved {path : Text} {landing : Landing} {shared : SharedIndex}
    (consistent : loader.Consistent) (due : ∀ visit ∈ visits, visit.Due table loader)
    (resolved : loader.state = .resolved shared) (needs : table.Needs path landing)
    (there : visits[place]? = some (.begun path)) :
    (pollInOrder table order visits loader).1[place]? =
      some (if place ∈ order then .done (landing.conclude (.ok shared)) else .begun path) := by
  refine getElem?_pollInOrder_of_ready (fun visits loader =>
    loader.Consistent ∧ (∀ visit ∈ visits, visit.Due table loader) ∧
      loader.state = .resolved shared) ?_ ?_ ⟨consistent, due, resolved⟩ there
  · rintro turn visits loader ⟨consistent, due, resolved⟩
    obtain ⟨next, advances⟩ := due_pollAt consistent due turn
    exact ⟨advances.consistent, next, (advances.settled shared resolved).1⟩
  · rintro visits loader ⟨_, _, resolved⟩
    exact poll_begun_of_resolved needs resolved

end Visit

/-- Navigating to several paths at once is polling them in one of the possible orders. -/
theorem exists_navigateAll_eq_pollInOrder (table : Table) (loader : Loader) (paths : List Text) :
    ∃ order, (∀ turn ∈ order, turn < paths.length) ∧
      navigateAll table loader paths =
        Visit.pollInOrder table order (paths.map .begun) loader := by
  have inRounds : ∃ count, navigateAll table loader paths =
      Visit.rounds table count (paths.map .begun) loader := ⟨_ + 1, rfl⟩
  obtain ⟨count, rounds⟩ := inRounds
  refine ⟨_, ?_, rounds.trans (Visit.rounds_eq_pollInOrder ..)⟩
  intro turn member
  obtain ⟨round, among, inside⟩ := List.mem_flatten.mp member
  obtain rfl := List.eq_of_mem_replicate among
  simpa using inside

end DocBrowser
