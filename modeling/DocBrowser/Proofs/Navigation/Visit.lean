import DocBrowser.Proofs.Loader.Progress
import DocBrowser.Proofs.Navigation.Chain

/-!
What a navigation does. It takes the loader no further than requests and polls do, and the path it
ends on is displayed from then on: navigating there again shows it without a redirect, and costs
nothing.
-/

namespace DocBrowser

/-- The path is that of a page, and what the page needs is there. -/
def Table.Displays (table : Table) (loader : Loader) (path : Text) : Prop :=
  ∃ landing, table.LandsOn landing ∧ landing.path = path ∧
    (landing.requires = some .packages → ∃ shared, loader.state = .resolved shared)

/-- A visit that polls have brought about. -/
inductive Visit.Due (table : Table) (loader : Loader) : Visit → Prop
  | begun (path : Text) : Due table loader (.begun path)
  | waiting {landing : Landing} {number : Nat} : table.LandsOn landing →
      number < loader.items.length → Due table loader (.waiting landing number)
  | failed (error : NavigationError) : Due table loader (.done (.error error))
  | shown {nav : Navigation} : table.Displays loader nav.path → Due table loader (.done (.ok nav))

variable {table : Table} {loader : Loader} {landing : Landing} {visit : Visit}

theorem Table.Displays.of_advances {before after : Loader} {path : Text}
    (displays : table.Displays before path) (advances : before.Advances after) :
    table.Displays after path := by
  obtain ⟨landing, landsOn, same, there⟩ := displays
  refine ⟨landing, landsOn, same, ?_⟩
  intro requires
  obtain ⟨shared, resolved⟩ := there requires
  exact ⟨shared, (advances.settled shared resolved).1⟩

namespace Visit

theorem due_pollLoad (consistent : loader.Consistent) (landsOn : table.LandsOn landing)
    {number : Nat} (inside : number < loader.items.length) :
    (pollLoad landing number loader).1.Due table (pollLoad landing number loader).2 ∧
      loader.Advances (pollLoad landing number loader).2 := by
  have advances := consistent.poll inside
  rw [pollLoad]
  split
  · next again answer =>
    rw [answer] at advances
    exact ⟨.waiting landsOn (Nat.lt_of_lt_of_le inside advances.length_le), advances⟩
  · next shared ended answer =>
    have resolved := consistent.state_of_poll inside (congrArg Prod.fst answer)
    rw [answer] at advances resolved
    exact ⟨.shown ⟨landing, landsOn, rfl, fun _ => ⟨shared, resolved⟩⟩, advances⟩
  · next error ended answer =>
    rw [answer] at advances
    exact ⟨.failed _, advances⟩

theorem Due.poll (consistent : loader.Consistent) (due : visit.Due table loader) :
    (visit.poll table loader).1.Due table (visit.poll table loader).2 ∧
      loader.Advances (visit.poll table loader).2 := by
  cases due with
  | begun path =>
    rw [Visit.poll]
    split
    · exact ⟨.failed _, .refl consistent⟩
    · exact ⟨.failed _, .refl consistent⟩
    · next landing lands =>
      have landsOn := Table.landsOn_of_chain lands
      split
      · next free =>
        refine ⟨.shown ⟨landing, landsOn, rfl, ?_⟩, .refl consistent⟩
        simp [free]
      · have begun := consistent.load
        obtain ⟨due, advances⟩ := due_pollLoad begun.consistent landsOn consistent.load_lt
        exact ⟨due, begun.trans advances⟩
  | waiting landsOn inside => exact due_pollLoad consistent landsOn inside
  | failed error => exact ⟨.failed error, .refl consistent⟩
  | shown displays => exact ⟨.shown displays, .refl consistent⟩

theorem Due.pollUpTo (consistent : loader.Consistent) (due : visit.Due table loader)
    (limit : Nat) :
    (visit.pollUpTo table limit loader).1.Due table (visit.pollUpTo table limit loader).2 ∧
      loader.Advances (visit.pollUpTo table limit loader).2 := by
  fun_induction Visit.pollUpTo table limit visit loader with
  | case1 loader visit => exact ⟨due, .refl consistent⟩
  | case2 loader limit result => exact ⟨due, .refl consistent⟩
  | case3 loader limit visit unfinished next later polled ih =>
    obtain ⟨nextDue, advances⟩ := due.poll consistent
    rw [polled] at nextDue advances
    obtain ⟨lastDue, rest⟩ := ih advances.consistent nextDue
    exact ⟨lastDue, advances.trans rest⟩

end Visit

/-- A navigation ends on a displayed path, or not on a page. -/
theorem due_navigate (consistent : loader.Consistent) (path : Text) :
    (navigate table loader path).1.Due table (navigate table loader path).2 ∧
      loader.Advances (navigate table loader path).2 := by
  have begun : Visit.Due table loader (.begun path) := .begun path
  obtain ⟨due, first⟩ := begun.poll consistent
  obtain ⟨lastDue, rest⟩ := due.pollUpTo first.consistent _
  exact ⟨lastDue, first.trans rest⟩

theorem navigate_of_poll {path : Text} {nav : Navigation} {later : Loader}
    (shown : (Visit.begun path).poll table loader = (.done (.ok nav), later)) :
    navigate table loader path = (.done (.ok nav), later) := by
  simp [navigate, shown, Visit.pollsLeft, Visit.pollUpTo]

/-- Navigating to a displayed path shows it again. The source is not asked for that. -/
theorem navigate_of_displays (consistent : loader.Consistent) {path : Text}
    (displays : table.Displays loader path) :
    ∃ nav later, navigate table loader path = (.done (.ok nav), later) ∧
      nav.path = path ∧ nav.redirects = [] ∧
      later.fetches = loader.fetches ∧ later.calls = loader.calls := by
  obtain ⟨landing, landsOn, rfl, there⟩ := displays
  have chain := landsOn.chain_eq
  cases requires : landing.requires with
  | none =>
    have shown : (Visit.begun landing.path).poll table loader =
        (.done (.ok (Landing.navigation { landing with redirects := [] }
          (loader.cached.map (·.index)))), loader) := by
      simp [Visit.poll, chain, requires]
    exact ⟨_, loader, navigate_of_poll shown, rfl, rfl, rfl, rfl⟩
  | some needed =>
    obtain ⟨shared, resolved⟩ := there requires
    have begun := consistent.load
    have advances := begun.trans (begun.consistent.poll consistent.load_lt)
    have answer := Loader.poll_load_of_resolved resolved
    generalize polled : loader.load.2.poll loader.load.1 = brought at advances answer
    obtain ⟨first, later⟩ := brought
    simp only at answer advances
    subst answer
    have shown : (Visit.begun landing.path).poll table loader =
        (.done (.ok (Landing.navigation { landing with redirects := [] } (some shared.index))),
          later) := by
      simp [Visit.poll, Visit.pollLoad, chain, requires, polled]
    obtain ⟨_, fetches, calls⟩ := advances.settled shared resolved
    exact ⟨_, later, navigate_of_poll shown, rfl, rfl, fetches, calls⟩

end DocBrowser
