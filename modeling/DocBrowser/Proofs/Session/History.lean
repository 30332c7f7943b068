import DocBrowser.Proofs.Navigation.Visit
import DocBrowser.Session.Basic
import Mathlib.Data.List.Chain

/-!
The history of a session. Every path in it is displayed for as long as the session lasts, so going
back shows the page before the current one, asks the source for nothing and takes exactly one path
from the history.
-/

namespace DocBrowser

namespace History

variable {history : History} {path : Text}

theorem isChain_visit (distinct : history.paths.IsChain (· ≠ ·)) (path : Text) :
    (history.visit path).paths.IsChain (· ≠ ·) := by
  rw [visit]
  split
  · exact distinct
  · next moved =>
    refine List.isChain_cons.mpr ⟨?_, distinct⟩
    intro latest member same
    exact moved (same ▸ member)

theorem mem_visit {other : Text} (member : other ∈ (history.visit path).paths) :
    other = path ∨ other ∈ history.paths := by
  rw [visit] at member
  split at member
  · exact .inr member
  · exact List.mem_cons.mp member

theorem isChain_goBack (distinct : history.paths.IsChain (· ≠ ·)) (path : Text) :
    (history.goBack path).paths.IsChain (· ≠ ·) :=
  isChain_visit distinct.tail path

theorem mem_goBack {other : Text} (member : other ∈ (history.goBack path).paths) :
    other = path ∨ other ∈ history.paths :=
  (mem_visit member).imp_right List.mem_of_mem_tail

/-- Going back to the path before the current one takes the current one away. -/
theorem goBack_eq {current previous : Text} {rest : List Text} :
    (⟨current :: previous :: rest⟩ : History).goBack previous = ⟨previous :: rest⟩ := by
  simp [goBack, visit]

end History

/-- A session whose history holds displayed paths, no two neighbours the same. -/
structure Session.Sound (table : Table) (session : Session) : Prop where
  consistent : session.loader.Consistent
  distinct : session.history.paths.IsChain (· ≠ ·)
  displayed : ∀ path ∈ session.history.paths, table.Displays session.loader path

namespace Session

variable {around : Surroundings} {session : Session} {path : Text} {loader : Loader}

/-- A page is shown if the navigation succeeds, and its path is displayed from then on. -/
theorem goTo_advances (consistent : loader.Consistent) (path : Text) :
    loader.Advances (goTo around path loader).2.2 ∧
      ∀ shown, (goTo around path loader).2.1 = some shown →
        around.table.Displays (goTo around path loader).2.2 shown := by
  have reached := @due_navigate around.table loader consistent path
  rw [goTo]
  generalize navigate around.table loader path = outcome at reached
  obtain ⟨visit, later⟩ := outcome
  obtain ⟨due, advances⟩ := reached
  cases due with
  | begun | waiting | failed => exact ⟨advances, by simp [Visit.result?]⟩
  | shown displays =>
    refine ⟨advances, ?_⟩
    rintro shown ⟨⟩
    exact displays

theorem goTo_of_failure
    (failed : ∀ nav, (navigate around.table loader path).1 ≠ .done (.ok nav)) :
    (goTo around path loader).2.1 = none := by
  rw [goTo]
  generalize navigate around.table loader path = outcome at failed
  obtain ⟨visit, later⟩ := outcome
  cases visit with
  | begun | waiting => rfl
  | done result =>
    cases result with
    | error error => rfl
    | ok nav => exact absurd rfl (failed nav)

theorem goTo_of_displays (consistent : loader.Consistent)
    (displays : around.table.Displays loader path) :
    ∃ nav later, navigate around.table loader path = (.done (.ok nav), later) ∧
      goTo around path loader = (Page.navigation around.options nav, some path, later) ∧
      later.fetches = loader.fetches ∧ later.calls = loader.calls := by
  obtain ⟨nav, later, shown, rfl, _, fetches, calls⟩ := navigate_of_displays consistent displays
  exact ⟨nav, later, shown, by simp [goTo, shown, Visit.result?], fetches, calls⟩

namespace Sound

theorem advance (sound : session.Sound around.table) (advances : session.loader.Advances loader)
    {history : History} (distinct : history.paths.IsChain (· ≠ ·))
    (known : ∀ path ∈ history.paths,
      around.table.Displays loader path ∨ path ∈ session.history.paths) :
    Session.Sound around.table ⟨loader, history⟩ := by
  refine ⟨advances.consistent, distinct, ?_⟩
  intro path member
  rcases known path member with displays | before
  · exact displays
  · exact (sound.displayed path before).of_advances advances

theorem visit (sound : session.Sound around.table) (path : Text) :
    (session.visit around path).2.Sound around.table := by
  obtain ⟨advances, displays⟩ := @goTo_advances around _ sound.consistent path
  rw [Session.visit]
  split
  · next page shown later reached =>
    rw [reached] at advances displays
    refine sound.advance advances (History.isChain_visit sound.distinct shown) ?_
    intro other member
    rcases History.mem_visit member with rfl | before
    · exact .inl (displays _ rfl)
    · exact .inr before
  · next page later reached =>
    rw [reached] at advances
    exact sound.advance advances sound.distinct fun _ => .inr

theorem back (sound : session.Sound around.table) :
    (session.back around).2.Sound around.table := by
  rw [Session.back]
  split
  · exact sound
  · next path previous =>
    obtain ⟨advances, displays⟩ := @goTo_advances around _ sound.consistent path
    split
    · next page shown later reached =>
      rw [reached] at advances displays
      refine sound.advance advances (History.isChain_goBack sound.distinct shown) ?_
      intro other member
      rcases History.mem_goBack member with rfl | before
      · exact .inl (displays _ rfl)
      · exact .inr before
    · next page later reached =>
      rw [reached] at advances
      exact sound.advance advances sound.distinct fun _ => .inr

theorem list (sound : session.Sound around.table) (listing : Index → Styled) :
    (session.list listing).2.Sound around.table := by
  have advances := sound.consistent.await
  rw [Session.list]
  split <;>
    · next answered =>
      rw [answered] at advances
      exact sound.advance advances sound.distinct fun _ => .inr

theorem obey (sound : session.Sound around.table) (command : Command) :
    (session.obey around command).2.Sound around.table := by
  cases command with
  | nothing | status | help | quit | unknown => exact sound
  | visit path => exact sound.visit path
  | back => exact sound.back
  | packages => exact sound.list _
  | search query =>
    rw [Session.obey]
    split
    · exact sound
    · exact sound.list _

theorem start (around : Surroundings) (source : Source) (path : Option Text) :
    (Session.start around (.new source) path).2.Sound around.table := by
  have fresh : Session.Sound around.table { loader := .new source } :=
    ⟨Loader.consistent_new source, .nil, by simp⟩
  exact fresh.visit _

theorem hold (sound : session.Sound around.table) (lines : List Bytes) :
    (session.hold around lines).session.Sound around.table := by
  induction lines generalizing session with
  | nil => exact sound
  | cons line rest ih =>
    rw [Session.hold, Session.reply]
    cases Utf8.decode line with
    | error fault => exact sound
    | ok text =>
      have obeyed := sound.obey (Command.ofLine text)
      by_cases quits : Command.ofLine text = .quit
      · simpa [quits] using obeyed
      · simpa [quits] using ih obeyed

end Sound

/-- A session whose steps can be retraced. -/
structure Retraceable (around : Surroundings) (session : Session) : Prop where
  distinct : session.history.paths.IsChain (· ≠ ·)
  /-- Every path in the history is shown under its own name. -/
  fixed : ∀ path ∈ session.history.paths, ∃ nav,
    (navigate around.table session.loader path).1 = .done (.ok nav) ∧
      nav.path = path ∧ nav.redirects = []
  /-- Going back shows the previous page without a request, and takes away the current path. -/
  popped : ∀ current previous rest, session.history.paths = current :: previous :: rest →
    ∃ nav later, navigate around.table session.loader previous = (.done (.ok nav), later) ∧
      later.fetches = session.loader.fetches ∧ later.calls = session.loader.calls ∧
      session.obey around .back =
        (Page.navigation around.options nav, ⟨later, ⟨previous :: rest⟩⟩)
  kept_of_failure : ∀ path,
    (∀ nav, (navigate around.table session.loader path).1 ≠ .done (.ok nav)) →
      (session.obey around (.visit path)).2.history = session.history
  kept_of_command : ∀ command, command ≠ .back → (∀ path, command ≠ .visit path) →
    (session.obey around command).2.history = session.history

theorem history_list (listing : Index → Styled) :
    (session.list listing).2.history = session.history := by
  rw [list]
  split <;> rfl

theorem visit_of_failure
    (failed : ∀ nav, (navigate around.table session.loader path).1 ≠ .done (.ok nav)) :
    (session.visit around path).2.history = session.history := by
  have unshown := goTo_of_failure failed
  rw [visit]
  split
  · next reached =>
    rw [reached] at unshown
    cases unshown
  · rfl

theorem back_of_displays (consistent : session.loader.Consistent) {current previous : Text}
    {rest : List Text} (paths : session.history.paths = current :: previous :: rest)
    (displays : around.table.Displays session.loader previous) :
    ∃ nav later, navigate around.table session.loader previous = (.done (.ok nav), later) ∧
      later.fetches = session.loader.fetches ∧ later.calls = session.loader.calls ∧
      session.back around =
        (Page.navigation around.options nav, ⟨later, ⟨previous :: rest⟩⟩) := by
  obtain ⟨nav, later, shown, reached, fetches, calls⟩ := goTo_of_displays consistent displays
  have before : session.history.previous? = some previous := by
    simp [History.previous?, paths]
  have history : session.history = ⟨current :: previous :: rest⟩ := congrArg History.mk paths
  refine ⟨nav, later, shown, fetches, calls, ?_⟩
  simp only [back, before, reached]
  rw [history, History.goBack_eq]

theorem Sound.retraceable (sound : session.Sound around.table) : session.Retraceable around where
  distinct := sound.distinct
  fixed := by
    intro path member
    obtain ⟨nav, later, shown, same, straight, _⟩ :=
      navigate_of_displays sound.consistent (sound.displayed path member)
    exact ⟨nav, congrArg Prod.fst shown, same, straight⟩
  popped := by
    intro current previous rest paths
    exact back_of_displays sound.consistent paths (sound.displayed previous (by simp [paths]))
  kept_of_failure := fun _ => visit_of_failure
  kept_of_command := by
    intro command notBack notVisit
    cases command with
    | nothing | status | help | quit | unknown => rfl
    | visit path => exact absurd rfl (notVisit path)
    | back => exact absurd rfl notBack
    | packages => exact history_list _
    | search query =>
      rw [Session.obey]
      split
      · rfl
      · exact history_list _

end Session

/-- Wherever a session begins and whatever lines it is held on, its steps can be retraced. A first
page that fails leaves the history empty. -/
theorem steps_are_retraceable (around : Surroundings) (source : Source) (start : Option Text)
    (lines : List Bytes) :
    ((Session.start around (.new source) start).2.hold around lines).session.Retraceable around ∧
      ((∀ nav, (navigate around.table (.new source) (start.getD ['/'])).1 ≠ .done (.ok nav)) →
        (Session.start around (.new source) start).2.history = {}) := by
  have begun := Session.Sound.start around source start
  have unshown := @Session.visit_of_failure around { loader := .new source } (start.getD ['/'])
  exact ⟨(begun.hold lines).retraceable, unshown⟩

example (source : Source) (options : Page.Options) :
    let front : Route := ⟨.ofText "/", .view .front none⟩
    let other : Route := ⟨.ofText "/a", .view .front none⟩
    let around : Surroundings := ⟨{ routes := [front, other] }, options⟩
    let session := ((Session.start around (.new source) none).2.hold around [[0x2F, 0x61]]).session
    session.history.paths = [['/', 'a'], ['/']] ∧
      (session.obey around .back).2.history.paths = [['/']] :=
  ⟨rfl, rfl⟩

end DocBrowser
