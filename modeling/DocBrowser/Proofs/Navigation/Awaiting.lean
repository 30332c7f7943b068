import DocBrowser.Navigation
import DocBrowser.Proofs.Loader.Flight

/-!
A navigation to a page that needs the index, poll by poll. It takes up the next request wherever
others have left it, and ends with what that request brings.
-/

namespace DocBrowser

/-- The path leads to a landing whose page needs the index. -/
def Table.Needs (table : Table) (path : Text) (landing : Landing) : Prop :=
  table.chain path = .lands landing ∧ landing.requires = some .packages

/-- What the end of a load makes of a navigation that waits for it. -/
def Landing.conclude (landing : Landing) : LoadResult → Except NavigationError Navigation
  | .ok shared => .ok (landing.navigation (some shared.index))
  | .error error => .error (.loadFailed error)

/-- The index that a page was made with. -/
def View.packages : View → Option Index
  | .front packages => packages
  | .package view => view.packages
  | .type view => view.packages

@[simp]
theorem View.packages_ofRoute (kind : ViewKind) (index : Option Index) (params : Params) :
    (View.ofRoute kind index params).packages = index := by
  cases kind <;> rfl

variable {table : Table} {loader : Loader} {landing : Landing} {path : Text} {number polls : Nat}
  {result : LoadResult} {shared : SharedIndex}

namespace Visit

theorem pollLoad_of_pending {later : Loader} (answer : loader.poll number = (.pending, later)) :
    pollLoad landing number loader = (.waiting landing number, later) := by
  simp [pollLoad, answer]

theorem pollLoad_of_done {later : Loader} (answer : loader.poll number = (.done result, later)) :
    pollLoad landing number loader = (.done (landing.conclude result), later) := by
  cases result <;> simp [pollLoad, answer, Landing.conclude]

theorem poll_begun (needs : table.Needs path landing) :
    (begun path).poll table loader = pollLoad landing loader.load.1 loader.load.2 := by
  obtain ⟨lands, requires⟩ := needs
  simp [poll, lands, requires]

theorem poll_waiting :
    (waiting landing number).poll table loader = pollLoad landing number loader := rfl

theorem poll_waiting_of_finished (finished : loader.items[number]? = some (.finished result)) :
    (waiting landing number).poll table loader = (.done (landing.conclude result), loader) :=
  pollLoad_of_done (Loader.poll_eq_of_finished finished)

theorem poll_begun_of_resolved (needs : table.Needs path landing)
    (resolved : loader.state = .resolved shared) :
    ((begun path).poll table loader).1 = .done (landing.conclude (.ok shared)) := by
  have answer := Loader.poll_load_of_resolved resolved
  generalize polled : loader.load.2.poll loader.load.1 = brought at answer
  obtain ⟨first, later⟩ := brought
  simp only at answer
  subst answer
  rw [poll_begun needs, pollLoad_of_done polled]

/-- What a visit is after a poll, when the next request has been polled so often. -/
def afterPolls (loader : Loader) (landing : Landing) (polls : Nat) : Visit :=
  if polls ≤ loader.delay then .waiting landing loader.calls
  else .done (landing.conclude loader.outcome)

theorem pollLoad_of_answer {before later : Loader}
    (answer : before.poll loader.calls = (loader.source.answer loader.calls polls, later)) :
    pollLoad landing loader.calls before = (afterPolls loader landing (polls + 1), later) := by
  by_cases early : polls < loader.delay
  · have notYet : before.poll loader.calls = (.pending, later) := by
      rw [answer, Loader.answer_of_lt early]
    rw [pollLoad_of_pending notYet, afterPolls, if_pos (Nat.succ_le_of_lt early)]
  · have last : before.poll loader.calls = (.done loader.outcome, later) := by
      rw [answer, Loader.answer_of_le (Nat.le_of_not_lt early)]
    rw [pollLoad_of_done last, afterPolls, if_neg (by omega)]

theorem poll_begun_flight (idle : loader.Idle) (needs : table.Needs path landing)
    (unanswered : polls ≤ loader.delay) :
    (begun path).poll table (loader.flight polls) =
      (afterPolls loader landing (polls + 1), loader.flight (polls + 1)) := by
  rw [poll_begun needs]
  cases polls with
  | zero =>
    obtain ⟨number, first⟩ := idle.poll_load
    rw [Loader.flight, number]
    exact pollLoad_of_answer first
  | succ earlier =>
    rw [Loader.load_flight (Nat.lt_of_succ_le unanswered)]
    exact pollLoad_of_answer (idle.poll_flight (Nat.lt_of_succ_le unanswered))

theorem poll_waiting_flight (idle : loader.Idle) (underway : polls < loader.delay) :
    (waiting landing loader.calls).poll table (loader.flight (polls + 1)) =
      (afterPolls loader landing (polls + 2), loader.flight (polls + 2)) :=
  pollLoad_of_answer (idle.poll_flight underway)

/-- Polling on brings the request as much further as there are polls, until it ends. -/
theorem pollUpTo_flight (idle : loader.Idle) (limit : Nat) :
    (afterPolls loader landing (polls + 1)).pollUpTo table limit (loader.flight (polls + 1)) =
      (afterPolls loader landing (polls + 1 + limit), loader.flight (polls + 1 + limit)) := by
  induction limit generalizing polls with
  | zero => rfl
  | succ limit ih =>
    by_cases underway : polls < loader.delay
    · have waits : afterPolls loader landing (polls + 1) = .waiting landing loader.calls :=
        if_pos (Nat.succ_le_of_lt underway)
      rw [waits, pollUpTo, poll_waiting_flight idle underway]
      · have rest := @ih (polls + 1)
        have sum : polls + 1 + 1 + limit = polls + 1 + (limit + 1) := by omega
        rwa [sum] at rest
      · simp
    · have ended : ∀ more, afterPolls loader landing (polls + 1 + more) =
          .done (landing.conclude loader.outcome) := fun more => if_neg (by omega)
      have still : loader.flight (polls + 1 + (limit + 1)) = loader.flight (polls + 1) := by
        have past : loader.delay < polls + 1 := by omega
        rw [Loader.flight_of_lt past, Loader.flight_of_lt (Nat.lt_add_right _ past)]
      have now := ended 0
      rw [Nat.add_zero] at now
      rw [ended, still, now, pollUpTo]

theorem pollUpTo_begun_flight (idle : loader.Idle) (needs : table.Needs path landing)
    (unanswered : polls ≤ loader.delay) (limit : Nat) :
    (begun path).pollUpTo table (limit + 1) (loader.flight polls) =
      (afterPolls loader landing (polls + 1 + limit), loader.flight (polls + 1 + limit)) := by
  rw [pollUpTo, poll_begun_flight idle needs unanswered]
  · exact pollUpTo_flight idle limit
  · simp

end Visit

/-- A navigation ends with what the request brings, and leaves the loader as the request does,
however far the request has come before. -/
theorem navigate_flight (idle : loader.Idle) (needs : table.Needs path landing)
    (unanswered : polls ≤ loader.delay) :
    navigate table (loader.flight polls) path =
      (.done (landing.conclude loader.outcome), loader.flight (loader.delay + 1)) := by
  rw [navigate, Visit.poll_begun_flight idle needs unanswered]
  simp only
  rw [Visit.pollUpTo_flight idle]
  by_cases underway : polls < loader.delay
  · have waits : Visit.afterPolls loader landing (polls + 1) = .waiting landing loader.calls :=
      if_pos (Nat.succ_le_of_lt underway)
    have left := idle.pollsLeft_flight underway
    have total : polls + 1 + (loader.delay - polls) = loader.delay + 1 := by omega
    rw [waits, Visit.pollsLeft, left, total, Visit.afterPolls, if_neg (by omega)]
  · have ended : ∀ more, Visit.afterPolls loader landing (polls + 1 + more) =
        .done (landing.conclude loader.outcome) := fun more => if_neg (by omega)
    rw [ended, Loader.flight_of_lt (by omega)]

theorem navigate_of_idle (idle : loader.Idle) (needs : table.Needs path landing) :
    navigate table loader path =
      (.done (landing.conclude loader.outcome), loader.flight (loader.delay + 1)) :=
  navigate_flight idle needs (Nat.zero_le _)

end DocBrowser
