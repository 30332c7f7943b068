import DocBrowser.Proofs.Loader.Run
import DocBrowser.Proofs.Navigation.Trail
import DocBrowser.Proofs.Route.Standard

/-!
What a navigation does to the loader. Only a page that needs the index takes it any further, and
then the loader ends with the index of that page, or with the error that is reported in its place.
-/

namespace DocBrowser

/-- Whether a request for the index has to ask the source anew. -/
def LoadState.asksAnew : LoadState → Bool
  | .empty | .failed _ => true
  | .pending _ | .resolved _ => false

/-- How a navigation ends, from one state of the loader in another. -/
inductive Table.Affects (table : Table) (before : Loader) :
    Except NavigationError Navigation → Loader → Prop
  | lost (path : Text) : Affects table before (.error (.noRoute path)) before
  | looped (start : Text) : Affects table before (.error (.redirectLoop start)) before
  /-- A page that can do without the index has it exactly if it was there. -/
  | free {nav : Navigation} {kind : ViewKind} :
      table.resolve nav.path = some (.view kind none nav.params) →
      (∀ index, nav.view.packages = some index ↔
        ∃ shared, before.state = .resolved shared ∧ shared.index = index) →
      Affects table before (.ok nav) before
  /-- A page that needs the index has the one that the loader has from then on. -/
  | loaded {nav : Navigation} {kind : ViewKind} {after : Loader} {shared : SharedIndex} :
      table.resolve nav.path = some (.view kind (some .packages) nav.params) →
      after.state = .resolved shared → nav.view.packages = some shared.index →
      after.fetches = before.fetches + (if before.state.asksAnew then 1 else 0) →
      Affects table before (.ok nav) after
  | failed {error : LoadError} {after : Loader} :
      after.state = .failed error → after.cached = none →
      after.fetches = before.fetches + (if before.state.asksAnew then 1 else 0) →
      Affects table before (.error (.loadFailed error)) after

variable {table : Table} {loader later : Loader} {landing : Landing} {path : Text}

theorem Loader.fetches_load_eq (loader : Loader) :
    loader.load.2.fetches = loader.fetches + if loader.state.asksAnew then 1 else 0 := by
  cases state : loader.state with
  | resolved shared => simp [load_of_resolved state, LoadState.asksAnew]
  | pending number => simp [load_of_pending state, LoadState.asksAnew]
  | empty | failed error =>
    rw [load_of_idle (by simp [state]) (by simp [state])]
    simp [LoadState.asksAnew]

theorem Loader.cached_eq_some_iff {shared : SharedIndex} :
    loader.cached = some shared ↔ loader.state = .resolved shared := by
  rw [cached]
  split <;> simp_all

namespace Table

theorem LandsOn.affects_of_free (landsOn : table.LandsOn landing) (free : landing.requires = none) :
    table.Affects loader (.ok (landing.navigation (loader.cached.map (·.index)))) loader := by
  have resolves := landsOn.resolves
  rw [free] at resolves
  apply Affects.free resolves
  intro index
  simp [Landing.navigation, Loader.cached_eq_some_iff]

theorem LandsOn.affects_of_needs {result : LoadResult} (landsOn : table.LandsOn landing)
    (needs : landing.requires = some .packages) (kept : later.state = Loader.keep result)
    (fetches : later.fetches = loader.load.2.fetches) :
    table.Affects loader (landing.conclude result) later := by
  have resolves := landsOn.resolves
  rw [needs] at resolves
  rw [loader.fetches_load_eq] at fetches
  cases result with
  | ok shared => exact .loaded resolves kept (by simp [Landing.navigation]) fetches
  | error error =>
    have state : later.state = .failed error := kept
    exact .failed state (by simp [Loader.cached, state]) fetches

theorem exists_affects (table : Table) (consistent : loader.Consistent) (path : Text) :
    ∃ result later, navigate table loader path = (.done result, later) ∧
      table.Affects loader result later := by
  cases chain : table.chain path with
  | loops => exact ⟨_, _, navigate_of_loops chain, .looped _⟩
  | lost last => exact ⟨_, _, navigate_of_lost chain, .lost last⟩
  | lands landing =>
    have landsOn := landsOn_of_chain chain
    cases requires : landing.requires with
    | none =>
      exact ⟨_, _, navigate_of_requires_none chain requires, landsOn.affects_of_free requires⟩
    | some needed =>
      obtain ⟨later, ends, kept, fetches⟩ := exists_navigate consistent ⟨chain, requires⟩
      exact ⟨_, later, ends, landsOn.affects_of_needs requires kept fetches⟩

end Table

theorem Desk.consistent_of_run {source : Source} {steps : List DeskStep}
    (live : ((Desk.new source).run steps).owner = .live loader) : loader.Consistent :=
  ⟨_, ((Desk.sound_run source steps).of_live live).1⟩

/-- A navigation from any state that a loader can come to ends. It touches the loader only if its
page needs the index, and takes at most one request then. -/
theorem navigations_load_only_what_pages_need (table : Table) (source : Source)
    (steps : List DeskStep) (loader : Loader)
    (reached : ((Desk.new source).run steps).owner = .live loader) (path : Text) :
    ∃ result later, navigate table loader path = (.done result, later) ∧
      table.Affects loader result later :=
  table.exists_affects (Desk.consistent_of_run reached) path

/-- After a failed load the page of a package asks the source once more. -/
theorem failed_loader_is_asked_anew :
    ∃ loader, ((Desk.new .unsteady).run [.load, .poll 0]).owner = .live loader ∧
      loader.state.asksAnew ∧ ∃ result later,
        navigate .browser loader "/docs/a/" = (.done result, later) ∧
          Table.Affects .browser loader result later ∧ later.fetches = loader.fetches + 1 ∧
          later.state = .resolved ⟨1, .ofList []⟩ := by
  let loader := (Loader.new .unsteady).await.2
  have reached : ((Desk.new .unsteady).run [.load, .poll 0]).owner = .live loader := by rfl
  obtain ⟨result, later, ends, affects⟩ :=
    navigations_load_only_what_pages_need .browser .unsteady [.load, .poll 0] loader reached
      "/docs/a/"
  have left : (navigate .browser loader "/docs/a/").2 = later := by rw [ends]
  refine ⟨loader, reached, by rfl, result, later, ends, affects, ?_, ?_⟩
  · rw [← left]
    rfl
  · rw [← left]
    rfl

end DocBrowser
