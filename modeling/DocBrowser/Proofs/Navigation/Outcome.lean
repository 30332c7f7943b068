import DocBrowser.Proofs.Loader.Prospect
import DocBrowser.Proofs.Navigation.Awaiting
import DocBrowser.Proofs.Navigation.Redirects
import DocBrowser.Proofs.Navigation.Visit

/-!
How a navigation ends. With a page, if there are not too many redirects on the way, and if the index
can be had where the page needs it.
-/

namespace DocBrowser

variable {table : Table} {loader later : Loader} {landing : Landing} {path : Text}
  {number limit : Nat} {result : LoadResult}

/-- A navigation that waits gets what polling its load gives. -/
theorem Visit.pollUpTo_waiting
    (ends : Loader.pollUntil number limit loader = (.done result, later)) :
    (Visit.waiting landing number).pollUpTo table limit loader =
      (.done (landing.conclude result), later) := by
  induction limit generalizing loader with
  | zero => cases ends
  | succ limit ih =>
    rw [Loader.pollUntil] at ends
    rw [pollUpTo, poll_waiting]
    · split at ends
      · next next answer =>
        rw [pollLoad_of_pending answer]
        exact ih ends
      · rw [pollLoad_of_done ends]
        cases limit <;> rfl
    · simp

/-- A navigation that needs the index gets what waiting for it gives. -/
theorem navigate_of_await (consistent : loader.Consistent) (needs : table.Needs path landing)
    (ends : loader.await = (.done result, later)) :
    navigate table loader path = (.done (landing.conclude result), later) := by
  rw [Loader.await_eq] at ends
  rw [navigate, Visit.poll_begun needs]
  cases needed : loader.load.2.pollsLeft loader.load.1 with
  | zero =>
    rw [needed] at ends
    cases ends
  | succ limit =>
    rw [needed, Loader.pollUntil] at ends
    split at ends
    · next next answer =>
      have answered : loader.load.2.toLoads.poll loader.load.1 = (.pending, next.toLoads) :=
        congrArg (fun polled => (polled.1, polled.2.toLoads)) answer
      have left := Loads.pollsLeft_of_pending answered consistent.load_lt
      rw [needed] at left
      rw [Visit.pollLoad_of_pending answer]
      simp only [Visit.pollsLeft]
      rw [← Nat.succ.inj left]
      exact Visit.pollUpTo_waiting ends
    · rw [Visit.pollLoad_of_done ends]
      rfl

/-- A navigation that needs the index ends with what waiting for it will bring, which the loader
keeps. -/
theorem exists_navigate (consistent : loader.Consistent) (needs : table.Needs path landing) :
    ∃ later, navigate table loader path = (.done (landing.conclude loader.prospect), later) ∧
      later.state = Loader.keep loader.prospect ∧ later.fetches = loader.load.2.fetches := by
  obtain ⟨later, ends, kept⟩ := consistent.exists_await
  refine ⟨later, navigate_of_await consistent needs ends, kept, ?_⟩
  have same := congrArg (fun polled => polled.2.fetches) ends
  rw [Loader.await_eq] at same
  simpa using same.symm

theorem fst_navigate (consistent : loader.Consistent) (needs : table.Needs path landing) :
    (navigate table loader path).1 = .done (landing.conclude loader.prospect) := by
  obtain ⟨later, ends, _⟩ := exists_navigate consistent needs
  rw [ends]

theorem navigate_of_requires_none (lands : table.chain path = .lands landing)
    (free : landing.requires = none) :
    navigate table loader path =
      (.done (.ok (landing.navigation (loader.cached.map (·.index)))), loader) := by
  apply navigate_of_poll
  simp [Visit.poll, lands, free]

theorem navigate_of_loops (loops : table.chain path = .loops) :
    navigate table loader path = (.done (.error (.redirectLoop (normalize path))), loader) := by
  simp [navigate, Visit.poll, loops, Visit.pollsLeft, Visit.pollUpTo]

theorem navigate_of_lost {last : Text} (lost : table.chain path = .lost last) :
    navigate table loader path = (.done (.error (.noRoute last)), loader) := by
  simp [navigate, Visit.poll, lost, Visit.pollsLeft, Visit.pollUpTo]

variable {shared : SharedIndex}

/-- Every landing is shown at once if the index is there already. -/
theorem fst_navigate_of_resolved (lands : table.chain path = .lands landing)
    (resolved : loader.state = .resolved shared) :
    (navigate table loader path).1 = .done (.ok (landing.navigation (some shared.index))) := by
  cases requires : landing.requires with
  | none => simp [navigate_of_requires_none lands requires, Loader.cached, resolved]
  | some needed =>
    have shown := Visit.poll_begun_of_resolved ⟨lands, requires⟩ resolved
    have polled : (Visit.begun path).poll table loader =
        (.done (.ok (landing.navigation (some shared.index))), _) := Prod.ext shown rfl
    rw [navigate_of_poll polled]

/-- With the index there, a navigation shows a page exactly if the redirects land on one. -/
theorem fst_navigate_eq_ok_iff {nav : Navigation} (resolved : loader.state = .resolved shared) :
    (navigate table loader path).1 = .done (.ok nav) ↔
      ∃ landing, table.chain path = .lands landing ∧
        nav = landing.navigation (some shared.index) := by
  constructor
  · intro shown
    cases chain : table.chain path with
    | lands landing =>
      rw [fst_navigate_of_resolved chain resolved] at shown
      cases shown
      exact ⟨landing, rfl, rfl⟩
    | loops =>
      rw [navigate_of_loops chain] at shown
      cases shown
    | lost last =>
      rw [navigate_of_lost chain] at shown
      cases shown
  · rintro ⟨landing, lands, rfl⟩
    exact fst_navigate_of_resolved lands resolved

/-- The page where a path leads to is shown, if there are few redirects on the way and the index can
be had. -/
theorem Table.Reaches.navigate_of_le (reaches : table.Reaches path landing)
    (few : landing.redirects.length ≤ maxRedirects) (consistent : loader.Consistent)
    (there : loader.prospect = .ok shared) :
    ∃ packages, (navigate table loader path).1 = .done (.ok (landing.navigation packages)) ∧
      (landing.requires = some .packages → packages = some shared.index) := by
  have lands := reaches.chain_of_le few
  cases requires : landing.requires with
  | none =>
    refine ⟨loader.cached.map (·.index), ?_, by simp⟩
    rw [navigate_of_requires_none lands requires]
  | some needed =>
    refine ⟨some shared.index, ?_, fun _ => rfl⟩
    rw [fst_navigate consistent ⟨lands, requires⟩, there, Landing.conclude]

end DocBrowser
