import DocBrowser.Proofs.Loader.Run

/-!
Single flight. At any time at most one load waits for the source, everyone who asks for the index
meanwhile is given that load, and the loads that were begun, that failed and that asked the source
can be told from one another. A loader that is gone asks no more.
-/

namespace DocBrowser

def Load.isFailure : Load → Bool
  | .finished (.error _) => true
  | _ => false

def Loads.failures (loads : Loads) : Nat := loads.items.countP Load.isFailure

/-- How many loads that asked or will ask the source have not failed. -/
def LoadStatus.unfailed : LoadStatus → Nat
  | .empty | .failed _ => 0
  | .pending | .resolved _ _ => 1

theorem countP_eq_of_split {α : Type} {p : α → Bool} {items : List α} {count : Nat}
    (below : ∀ index, index < count → ∃ item, items[index]? = some item ∧ p item = true)
    (above : ∀ index item, count ≤ index → items[index]? = some item → p item = false) :
    items.countP p = count := by
  induction count generalizing items with
  | zero =>
    rw [List.countP_eq_zero]
    intro item member
    obtain ⟨index, there⟩ := List.getElem?_of_mem member
    simp [above index item (Nat.zero_le _) there]
  | succ count ih =>
    obtain ⟨item, first, passes⟩ := below 0 (Nat.succ_pos count)
    cases items with
    | nil => simp at first
    | cons head rest =>
      obtain rfl : head = item := by simpa using first
      rw [List.countP_cons_of_pos passes, ih]
      · intro index inside
        simpa using below (index + 1) (by omega)
      · intro index other outside there
        exact above (index + 1) other (by omega) (by simpa using there)

theorem Source.isFailure_load {source : Source} {number polls : Nat} :
    (source.load number polls).isFailure = true ↔
      source.delay number < polls ∧ ∃ error, source.result number = .error error := by
  by_cases enough : source.delay number < polls
  · rw [load_of_delay_lt enough]
    cases ended : source.result number <;> simp [enough, Load.isFailure]
  · cases polls with
    | zero => simp [Source.load, Load.isFailure]
    | succ earlier =>
      have early : earlier < source.delay number := by omega
      simp [Source.load, early, enough, Load.isFailure]

namespace Loads.Orderly

variable {loads : Loads} {polled : Nat → Nat} {begun number : Nat}

theorem failures_eq {last : Nat} (orderly : loads.Orderly polled (last + 1)) :
    loads.failures =
      if (loads.source.load last (polled last)).isFailure = true then last + 1 else last := by
  apply countP_eq_of_split
  · intro number inside
    refine ⟨_, orderly.course number (by grind), ?_⟩
    by_cases earlier : number < last
    · exact Source.isFailure_load.mpr (orderly.failed number (by omega))
    · obtain rfl : number = last := by grind
      grind
  · intro number item outside there
    by_cases requesting : number < last + 1
    · rw [orderly.course number requesting, Option.some.injEq] at there
      obtain rfl : number = last := by grind
      grind
    · obtain ⟨shared, _, ready | finished⟩ := orderly.spare number item (by omega) there
      · simp [ready, Load.isFailure]
      · simp [finished, Load.isFailure]

theorem failures_eq_zero (orderly : loads.Orderly polled 0) : loads.failures = 0 := by
  have length := orderly.length_eq (by simp [Source.state])
  simp [Loads.failures, List.length_eq_zero_iff.mp length]

end Loads.Orderly

namespace Loader.Sound

variable {loader : Loader} {polled : Nat → Nat} {number : Nat}

theorem fetches_eq (sound : loader.Sound polled) :
    loader.fetches = loader.failures + loader.status.unfailed := by
  have held := sound.state_eq
  have orderly := sound.orderly
  cases begun : loader.fetches with
  | zero =>
    rw [begun] at held orderly
    simp [status, held, Source.state, orderly.failures_eq_zero, LoadStatus.unfailed]
  | succ last =>
    rw [begun] at held orderly
    have failure := @Source.isFailure_load loader.source last (polled last)
    rw [orderly.failures_eq]
    by_cases enough : loader.source.delay last < polled last
    · cases ended : loader.source.result last with
      | ok shared =>
        simp [status, held, Source.state, enough, ended, failure, keep, LoadStatus.unfailed]
      | error error =>
        simp [status, held, Source.state, enough, ended, failure, keep, LoadStatus.unfailed]
    · simp [status, held, Source.state, enough, failure, LoadStatus.unfailed]

theorem status_eq_pending_iff (sound : loader.Sound polled) :
    loader.status = .pending ↔ ∃ number, loader.Underway number := by
  simp only [sound.orderly.underway_iff, ← sound.state_eq]
  cases held : loader.state <;> simp [status, held]

/-- While a load is under way, every request for the index is answered with it. -/
theorem load_eq_of_underway (sound : loader.Sound polled) (underway : loader.Underway number) :
    loader.load = (number, loader) := by
  rw [sound.orderly.underway_iff, ← sound.state_eq] at underway
  exact load_of_pending underway

/-- A load that is under way after a request for the index is the one that answers it. -/
theorem eq_load_of_underway (sound : loader.Sound polled)
    (underway : loader.load.2.Underway number) : loader.load.1 = number := by
  rw [sound.load.orderly.underway_iff, ← sound.load.state_eq] at underway
  cases state : loader.state with
  | resolved shared => simp [load_of_resolved state, state] at underway
  | pending other => simpa [load_of_pending state, state] using underway
  | empty | failed error =>
    rw [load_of_idle (by simp [state]) (by simp [state])] at underway ⊢
    exact LoadState.pending.inj underway

end Loader.Sound

/-- What the loads of a loader in use, polled `polled` times each, have to do with its counts. -/
structure Loader.Accounted (polled : Nat → Nat) (loader : Loader) : Prop where
  pending_iff : loader.status = .pending ↔ ∃ number, loader.Underway number
  /-- All other loads have ended, or are for the index that is there. -/
  settled : ∀ number item, loader.items[number]? = some item → ¬ loader.Underway number →
    (∃ result, item = .finished result) ∨
      ∃ shared, item = .ready shared ∧ loader.cached = some shared
  fetches_eq : loader.fetches = loader.failures + loader.status.unfailed
  calls_eq : (∀ number, loader.Underway number → 0 < polled number) →
    loader.calls = loader.fetches
  calls_eq_of_unpolled : ∀ number, loader.Underway number → polled number = 0 →
    loader.calls + 1 = loader.fetches

/-- What single flight means for a desk whose loads were polled `polled` times each. -/
structure Desk.SingleFlight (polled : Nat → Nat) (desk : Desk) : Prop where
  /-- At most one load has still to end. -/
  unique : ∀ first second, desk.owner.loads.Underway first → desk.owner.loads.Underway second →
    first = second
  accounted : ∀ loader, desk.owner = .live loader → loader.Accounted polled
  /-- A handle is on the load that is under way once the handle is given out. -/
  joins : ∀ loader number, desk.owner = .live loader →
    (desk.step .load).2.owner.loads.Underway number →
      (desk.step .load).1 = .handle desk.handles.length ∧
        (desk.step .load).2.number? desk.handles.length = some number
  /-- If that load was under way before, a handle on it is all that is new. -/
  joins_only : ∀ loader number, desk.owner = .live loader →
    desk.owner.loads.Underway number →
      (desk.step .load).2 = ⟨desk.owner, desk.handles ++ [some number]⟩
  /-- Without the loader, the source is asked no more if it was asked for the load under way. -/
  calls_of_gone : ∀ later,
    (∀ number, desk.owner.loads.Underway number → 0 < polled number) →
      ((desk.step .dropLoader).2.run later).owner.loads.calls = desk.owner.loads.calls
  /-- If it was not, a first poll of that load asks it, and nothing else does. -/
  calls_of_gone_of_unpolled : ∀ later number,
    desk.owner.loads.Underway number → polled number = 0 →
      ((desk.step .dropLoader).2.run later).owner.loads.calls =
        desk.owner.loads.calls + min 1 ((desk.step .dropLoader).2.polls number later)

namespace Loads.Orderly

variable {loads : Loads} {polled : Nat → Nat} {begun number : Nat}

theorem polled_of_touched (orderly : loads.Orderly polled begun)
    (touched : ∀ number, loads.Underway number → 0 < polled number) :
    ∀ last, begun = last + 1 → 0 < polled last := by
  rintro last rfl
  by_contra unpolled
  have waiting : polled last ≤ loads.source.delay last := by omega
  exact unpolled <| touched last <| orderly.underway_iff.mpr <|
    Source.state_eq_pending_iff.mpr ⟨rfl, waiting⟩

theorem begun_eq_of_underway (orderly : loads.Orderly polled begun)
    (underway : loads.Underway number) : begun = number + 1 :=
  (Source.state_eq_pending_iff.mp (orderly.underway_iff.mp underway)).1

end Loads.Orderly

theorem Loader.Sound.accounted {loader : Loader} {polled : Nat → Nat}
    (sound : loader.Sound polled) : loader.Accounted polled where
  pending_iff := sound.status_eq_pending_iff
  settled := by
    intro number item there idle
    by_cases requesting : number < loader.fetches
    · have course := sound.orderly.course number requesting
      have ended : loader.source.delay number < polled number := by
        simpa [Loads.Underway, course] using idle
      rw [course, Source.load_of_delay_lt ended, Option.some.injEq] at there
      exact .inl ⟨_, there.symm⟩
    · obtain ⟨shared, resolved, ready | finished⟩ :=
        sound.orderly.spare number item (Nat.le_of_not_lt requesting) there
      · exact .inr ⟨shared, ready, by simp [cached, sound.state_eq, resolved]⟩
      · exact .inl ⟨_, finished⟩
  fetches_eq := sound.fetches_eq
  calls_eq touched := sound.orderly.calls_eq_of_polled (sound.orderly.polled_of_touched touched)
  calls_eq_of_unpolled := by
    intro number underway unpolled
    have begun := sound.orderly.begun_eq_of_underway underway
    have calls := (sound.orderly.calls_eq_of_unpolled (by omega) unpolled).1
    omega

namespace Desk

variable {desk : Desk} {polled : Nat → Nat} {begun : Nat}

theorem issued_of_gone (gone : desk.owner.loader? = none) (steps : List DeskStep) :
    desk.issued steps = [] := by
  induction steps generalizing desk with
  | nil => rfl
  | cons step rest ih =>
    have none : desk.issued? step = none := by
      obtain ⟨loads, owner⟩ := Owner.exists_eq_gone gone
      cases step <;> simp [issued?, owner]
    simp [issued, none, ih (loader?_step gone step)]

/-- What is left of a desk whose loader is dropped begins no loads. -/
theorem Sound.orderly_of_gone (sound : desk.Sound polled begun) (later : List DeskStep) :
    ((desk.step .dropLoader).2.run later).owner.loads.Orderly
      (fun number => polled number + (desk.step .dropLoader).2.polls number later) begun := by
  have left := ((sound.step .dropLoader).run later).owner.orderly
  simpa [issued_of_gone, issued?, polled?] using left

theorem Sound.singleFlight (sound : desk.Sound polled begun) : desk.SingleFlight polled where
  unique := by
    intro first second underway other
    rw [sound.owner.orderly.underway_iff] at underway other
    exact LoadState.pending.inj (underway.symm.trans other)
  accounted := by
    intro loader live
    exact (sound.of_live live).1.accounted
  joins := by
    intro loader number live underway
    rw [step_load live] at underway ⊢
    have answered := (sound.of_live live).1.eq_load_of_underway underway
    simp [number?, answered]
  joins_only := by
    intro loader number live underway
    rw [live] at underway
    rw [step_load live, (sound.of_live live).1.load_eq_of_underway underway, live]
  calls_of_gone := by
    intro later touched
    have polledLast := sound.owner.orderly.polled_of_touched touched
    rw [sound.owner.orderly.calls_eq_of_polled polledLast]
    apply (sound.orderly_of_gone later).calls_eq_of_polled
    intro last begun
    exact Nat.add_pos_left (polledLast last begun) _
  calls_of_gone_of_unpolled := by
    intro later number underway unpolled
    have newest := sound.owner.orderly.begun_eq_of_underway underway
    have inside : number < begun := by omega
    have before := (sound.owner.orderly.calls_eq_of_unpolled inside unpolled).1
    have left := sound.orderly_of_gone later
    rcases Nat.eq_zero_or_pos ((desk.step .dropLoader).2.polls number later) with never | some
    · have after := (left.calls_eq_of_unpolled inside (by simp [unpolled, never])).1
      omega
    · have after := left.calls_eq_of_polled <| by
        intro last same
        obtain rfl : last = number := by omega
        exact Nat.add_pos_right _ some
      omega

end Desk

/-- Every run of a loader keeps to single flight, and everything it does is accounted for. -/
theorem single_flight (source : Source) (steps : List DeskStep) :
    ((Desk.new source).run steps).SingleFlight fun number =>
      (Desk.new source).polls number steps :=
  (Desk.sound_run source steps).singleFlight

end DocBrowser
