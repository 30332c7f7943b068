import DocBrowser.Proofs.Loader.Run
import Mathlib.Logic.Function.Basic

/-!
Success is final. Once a load has succeeded, its index is the one that the loader keeps and that all
later loads give, and no later step asks the source. So there is at most one index in a run.
-/

namespace DocBrowser

/-- What holds of `desk` once a load has succeeded with `shared`, which led to `found`. -/
structure Desk.Settled (shared : SharedIndex) (found desk : Desk) : Prop where
  status_eq : ∀ loader, desk.owner = .live loader →
    loader.status = .resolved shared.index.size shared.index.typeCount
  cached_eq : ∀ loader, desk.owner = .live loader → loader.cached = some shared
  fetches_eq : ∀ loader, desk.owner = .live loader →
    ∃ earlier, found.owner = .live earlier ∧ loader.fetches = earlier.fetches
  calls_eq : desk.owner.loads.calls = found.owner.loads.calls
  /-- A request for the index is answered with a load that was not there before. -/
  load_new : ∀ loader, desk.owner = .live loader →
    (desk.step .load).1 = .handle desk.handles.length ∧
      ∃ number, (desk.step .load).2.number? desk.handles.length = some number ∧
        desk.owner.loads.items[number]? = none ∧ ∀ handle, desk.number? handle ≠ some number
  /-- Whenever that load is polled, it gives the same index. -/
  load_ready : ∀ loader, desk.owner = .live loader → ∀ later,
    ((desk.step .load).2.run later).number? desk.handles.length ≠ none →
      (((desk.step .load).2.run later).step (.poll desk.handles.length)).1 =
        .polled (.done (.ok shared))
  polled_eq : ∀ handle other,
    (desk.step (.poll handle)).1 = .polled (.done (.ok other)) → other = shared
  index_eq : ∀ handle other, desk.index? handle = some other → other = shared

namespace Desk

variable {desk found : Desk} {polled : Nat → Nat} {begun handle : Nat} {shared other : SharedIndex}

namespace Sound

theorem resolved_of_poll (sound : desk.Sound polled begun)
    (success : (desk.step (.poll handle)).1 = .polled (.done (.ok shared))) :
    desk.owner.loads.source.state
      (fun number => polled number + if desk.polled? (.poll handle) = some number then 1 else 0)
      begun = .resolved shared := by
  cases reached : desk.number? handle with
  | none => simp [Desk.step, reached] at success
  | some number =>
    have answer : (desk.owner.loads.poll number).1 = .done (.ok shared) := by
      simpa [step_poll reached] using success
    simp only [polled?, reached, counts_eq_update]
    exact sound.owner.orderly.resolved_of_poll (sound.handles handle number reached) answer

/-- Once the last request has succeeded, no new one is begun. -/
theorem issued_eq_nil (sound : desk.Sound polled begun)
    (resolved : desk.owner.loads.source.state polled begun = .resolved shared)
    (steps : List DeskStep) : desk.issued steps = [] := by
  induction steps generalizing desk polled begun with
  | nil => rfl
  | cons step rest ih =>
    have unissued : desk.issued? step = none := by
      cases step with
      | load =>
        cases live : desk.owner with
        | gone loads => simp [issued?, live]
        | live loader =>
          obtain ⟨kept, rfl⟩ := sound.of_live live
          rw [live] at resolved
          have state := kept.state_eq.trans resolved
          simp [issued?, live, Loader.load_of_resolved state]
      | poll | drop | dropLoader => rfl
    have next := sound.step step
    rw [unissued] at next
    have still := Source.state_mono resolved fun number => Nat.le_add_right _
      (if desk.polled? step = some number then 1 else 0)
    simpa [issued, unissued] using ih next (by simpa using still)

/-- Nor is the success of the last request lost. -/
theorem run_of_resolved (sound : desk.Sound polled begun)
    (resolved : desk.owner.loads.source.state polled begun = .resolved shared)
    (steps : List DeskStep) :
    (desk.run steps).Sound (fun number => polled number + desk.polls number steps) begun ∧
      (desk.run steps).owner.loads.source.state
        (fun number => polled number + desk.polls number steps) begun = .resolved shared := by
  constructor
  · simpa [sound.issued_eq_nil resolved steps] using sound.run steps
  · rw [source_run]
    exact Source.state_mono resolved fun number => Nat.le_add_right _ _

theorem state_of_resolved {loader : Loader} (sound : desk.Sound polled begun)
    (resolved : desk.owner.loads.source.state polled begun = .resolved shared)
    (live : desk.owner = .live loader) :
    loader.Sound polled ∧ loader.fetches = begun ∧ loader.state = .resolved shared := by
  obtain ⟨kept, rfl⟩ := sound.of_live live
  rw [live] at resolved
  exact ⟨kept, rfl, kept.state_eq.trans resolved⟩

theorem poll_of_spare (sound : desk.Sound polled begun)
    (resolved : desk.owner.loads.source.state polled begun = .resolved shared) {number : Nat}
    (reached : desk.number? handle = some number) (above : begun ≤ number) :
    (desk.step (.poll handle)).1 = .polled (.done (.ok shared)) := by
  obtain ⟨kept, same, _, polledOnce⟩ :=
    sound.owner.orderly.poll_eq_of_le above (sound.handles handle number reached)
  rw [resolved] at same
  obtain rfl := LoadState.resolved.inj same
  simp [step_poll reached, polledOnce]

theorem load_of_resolved (sound : desk.Sound polled begun)
    (resolved : desk.owner.loads.source.state polled begun = .resolved shared) :
    (desk.step .load).2.Sound polled begun := by
  have unissued : desk.issued? .load = none := by
    simpa [issued] using sound.issued_eq_nil resolved [.load]
  simpa [unissued, polled?] using sound.step .load

theorem settled (sound : found.Sound polled begun)
    (resolved : found.owner.loads.source.state polled begun = .resolved shared)
    (steps : List DeskStep) : found.Settled shared (found.run steps) := by
  obtain ⟨later, still⟩ := sound.run_of_resolved resolved steps
  generalize (fun number => polled number + found.polls number steps) = counts at later still
  constructor
  case status_eq =>
    intro loader live
    obtain ⟨_, _, state⟩ := later.state_of_resolved still live
    simp [Loader.status, state]
  case cached_eq =>
    intro loader live
    obtain ⟨_, _, state⟩ := later.state_of_resolved still live
    simp [Loader.cached, state]
  case fetches_eq =>
    intro loader live
    obtain ⟨_, fetches, _⟩ := later.state_of_resolved still live
    cases before : found.owner with
    | live earlier =>
      obtain ⟨_, earlierFetches, _⟩ := sound.state_of_resolved resolved before
      exact ⟨earlier, rfl, fetches.trans earlierFetches.symm⟩
    | gone loads =>
      have gone : (found.run steps).owner.loader? = none :=
        loader?_run (by simp [before, Owner.loader?]) steps
      simp [live, Owner.loader?] at gone
  case calls_eq =>
    rw [later.owner.orderly.calls_eq_of_resolved still,
      sound.owner.orderly.calls_eq_of_resolved resolved]
  case load_new =>
    intro loader live
    obtain ⟨_, _, state⟩ := later.state_of_resolved still live
    rw [step_load live, Loader.load_of_resolved state, live]
    refine ⟨rfl, loader.items.length, ?_, ?_, ?_⟩
    · simp [number?]
    · simp [Owner.loads]
    · intro handle reached
      have inside := later.handles handle _ reached
      simp [live, Owner.loads] at inside
  case load_ready =>
    intro loader live more held
    obtain ⟨owner, fetches, state⟩ := later.state_of_resolved still live
    have opened := later.load_of_resolved still
    have openedState : ((found.run steps).step .load).2.owner.loads.source.state counts begun =
        .resolved shared := by rw [source_step, still]
    obtain ⟨latest, latestState⟩ := opened.run_of_resolved openedState more
    obtain ⟨number, reached⟩ := Option.ne_none_iff_exists'.mp held
    have given : ((found.run steps).step .load).2.number? (found.run steps).handles.length =
        some number := number?_of_run (by simp [step_load live]) reached
    rw [step_load live, Loader.load_of_resolved state] at given
    obtain rfl : loader.items.length = number := by simpa [number?] using given
    have bound := owner.orderly.begun_le_length
    exact latest.poll_of_spare latestState reached (by omega)
  case polled_eq =>
    intro handle other success
    have next := Source.state_mono still fun number => Nat.le_add_right _
      (if (found.run steps).polled? (.poll handle) = some number then 1 else 0)
    rw [later.resolved_of_poll success] at next
    exact LoadState.resolved.inj next
  case index_eq =>
    intro handle other there
    simp only [index?, Option.bind_eq_bind, Option.bind_eq_some_iff] at there
    obtain ⟨number, _, result, success, ended⟩ := there
    cases result with
    | error error => simp [Except.toOption] at ended
    | ok kept =>
      obtain rfl : kept = other := by simpa [Except.toOption] using ended
      exact later.owner.orderly.eq_of_result? still success

end Sound

end Desk

/-- Once a load has succeeded, the loader keeps its index, all later loads give it, and the source
is asked no more. So all loads of a run that succeed give one index. -/
theorem success_is_final (source : Source) (before after : List DeskStep) (handle : Nat)
    (shared : SharedIndex)
    (success : (((Desk.new source).run before).step (.poll handle)).1 =
      .polled (.done (.ok shared))) :
    (((Desk.new source).run before).step (.poll handle)).2.Settled shared
      ((((Desk.new source).run before).step (.poll handle)).2.run after) := by
  have sound := Desk.sound_run source before
  have found := sound.step (.poll handle)
  apply found.settled
  rw [Desk.source_step]
  exact sound.resolved_of_poll success

theorem unsteady_is_final :
    (((Desk.new .unsteady).run [.load, .poll 0, .load, .load, .poll 1]).step (.poll 2)).1 =
        .polled (.done (.ok ⟨1, .ofList []⟩)) ∧
      (((Desk.new .unsteady).run [.load, .poll 0, .load, .load, .poll 1]).step (.poll 2)).2.Settled
        ⟨1, .ofList []⟩
        ((((Desk.new .unsteady).run [.load, .poll 0, .load, .load, .poll 1]).step (.poll 2)).2.run
          [.drop 1, .load, .poll 3]) := by
  have success :
      (((Desk.new .unsteady).run [.load, .poll 0, .load, .load, .poll 1]).step (.poll 2)).1 =
        .polled (.done (.ok ⟨1, .ofList []⟩)) := by rfl
  exact ⟨success, success_is_final .unsteady _ _ 2 ⟨1, .ofList []⟩ success⟩

end DocBrowser
