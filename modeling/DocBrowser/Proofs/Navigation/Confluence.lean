import DocBrowser.Proofs.Navigation.Turns
import Mathlib.Data.List.Induction

/-!
Navigations at the same time. If each leads to a page that needs the index, it does not matter in
which order they are polled: each ends as it would alone, and the source is asked once for all.
-/

namespace DocBrowser

namespace Visit

/-- How navigations to `paths` stand that were polled in `order`, as long as the request that they
wait for is not answered. -/
def OnWay (table : Table) (loader : Loader) (paths : List Text) (order : List Nat)
    (visits : List Visit) : Prop :=
  ∀ place path landing, paths[place]? = some path → table.Needs path landing →
    visits[place]? = some (if place ∈ order then .waiting landing loader.calls else .begun path)

variable {table : Table} {loader : Loader} {paths : List Text} {visits : List Visit}
  {order first rest : List Nat} {turn place : Nat} {path : Text} {landing : Landing}
  {shared : SharedIndex}

theorem onWay_begun : OnWay table loader paths [] (paths.map .begun) := by
  intro place path landing found needs
  simp [found]

/-- Whoever has the turn brings the request one poll further. -/
theorem OnWay.pollAt_eq (onWay : OnWay table loader paths order visits) (idle : loader.Idle)
    (unanswered : order.length ≤ loader.delay) (found : paths[turn]? = some path)
    (needs : table.Needs path landing) :
    pollAt table turn visits (loader.flight order.length) =
      (visits.set turn (afterPolls loader landing (order.length + 1)),
        loader.flight (order.length + 1)) := by
  have there := onWay turn path landing found needs
  rw [Visit.pollAt_eq there]
  by_cases polled : turn ∈ order
  · obtain ⟨earlier, length⟩ : ∃ earlier, order.length = earlier + 1 :=
      Nat.exists_eq_succ_of_ne_zero (List.length_pos_of_mem polled).ne'
    rw [if_pos polled, length, poll_waiting_flight idle (by omega)]
  · rw [if_neg polled, poll_begun_flight idle needs unanswered]

theorem onWay_pollInOrder (idle : loader.Idle)
    (needy : ∀ path ∈ paths, ∃ landing, table.Needs path landing)
    (valid : ∀ turn ∈ order, turn < paths.length) (unanswered : order.length ≤ loader.delay) :
    OnWay table loader paths order (pollInOrder table order (paths.map .begun) loader).1 ∧
      (pollInOrder table order (paths.map .begun) loader).2 = loader.flight order.length := by
  -- On the last turn, because it is the polls before a turn that decide what it brings.
  induction order using List.reverseRecOn with
  | nil => exact ⟨onWay_begun, rfl⟩
  | append_singleton first turn ih =>
    rw [List.length_append, List.length_singleton] at unanswered
    obtain ⟨onWay, flight⟩ := ih (fun turn member => valid turn (List.mem_append_left _ member))
      (by omega)
    have inside : turn < paths.length := valid turn (by simp)
    obtain ⟨landing, needs⟩ := needy _ (List.getElem_mem inside)
    have found := List.getElem?_eq_getElem inside
    have polled := onWay.pollAt_eq idle (by omega) found needs
    rw [pollInOrder_append, flight, pollInOrder, polled, List.length_append]
    refine ⟨?_, rfl⟩
    intro place path other there needed
    have stood := onWay place path other there needed
    simp only [pollInOrder]
    by_cases own : turn = place
    · subst own
      obtain rfl : paths[turn] = path := Option.some.inj (found.symm.trans there)
      obtain rfl : landing = other := Chain.lands.inj (needs.1.symm.trans needed.1)
      have within := (List.getElem?_eq_some_iff.mp stood).1
      rw [List.getElem?_set_self within, afterPolls, if_pos unanswered, if_pos (by simp)]
    · have others : place ∈ first ++ [turn] ↔ place ∈ first := by simp [Ne.symm own]
      rw [List.getElem?_set_ne own, stood]
      simp only [others]

theorem exists_split {count : Nat} (inside : count < order.length) :
    ∃ first turn rest, order = (first ++ [turn]) ++ rest ∧ first.length = count :=
  ⟨order.take count, order[count], order.drop (count + 1), by simp,
    List.length_take_of_le inside.le⟩

theorem due_of_begun (table : Table) (loader : Loader) (paths : List Text) :
    ∀ visit ∈ paths.map Visit.begun, visit.Due table loader := by
  intro visit member
  obtain ⟨path, _, rfl⟩ := List.mem_map.mp member
  exact .begun path

/-! From the poll on that brings the answer. -/

section Answered

variable (idle : loader.Idle) (needy : ∀ path ∈ paths, ∃ landing, table.Needs path landing)
  (valid : ∀ place ∈ first ++ [turn], place < paths.length) (full : first.length = loader.delay)
include idle needy valid full

/-- The poll that brings the answer ends the navigation whose turn it is, and no other one. -/
theorem pollInOrder_answered :
    ∃ onWay path landing, OnWay table loader paths first onWay ∧ paths[turn]? = some path ∧
      table.Needs path landing ∧
      pollInOrder table (first ++ [turn]) (paths.map .begun) loader =
        (onWay.set turn (.done (landing.conclude loader.outcome)),
          loader.flight (loader.delay + 1)) := by
  obtain ⟨onWay, flight⟩ := onWay_pollInOrder idle needy
    (fun place member => valid place (List.mem_append_left _ member)) full.le
  have inside : turn < paths.length := valid turn (by simp)
  obtain ⟨landing, needs⟩ := needy _ (List.getElem_mem inside)
  have found := List.getElem?_eq_getElem inside
  have polled := onWay.pollAt_eq idle full.le found needs
  have ended : afterPolls loader landing (loader.delay + 1) =
      .done (landing.conclude loader.outcome) := if_neg (by omega)
  refine ⟨_, _, landing, onWay, found, needs, ?_⟩
  rw [pollInOrder_append, flight, pollInOrder, polled, full, ended]
  rfl

theorem flight_of_answered :
    (pollInOrder table (first ++ [turn]) (paths.map .begun) loader).2 =
      loader.flight (loader.delay + 1) := by
  obtain ⟨_, _, _, _, _, _, answered⟩ := pollInOrder_answered idle needy valid full
  rw [answered]

theorem finished_of_answered (rest : List Nat) :
    (pollInOrder table ((first ++ [turn]) ++ rest)
      (paths.map .begun) loader).2.items[loader.calls]? = some (.finished loader.outcome) := by
  rw [pollInOrder_append, flight_of_answered idle needy valid full]
  exact getElem?_pollInOrder_of_finished (idle.getElem?_flight_of_le (Nat.le_refl _))

/-- A navigation that has waited for the request ends with it, at its next poll. -/
theorem getElem?_of_answered (rest : List Nat) (found : paths[place]? = some path)
    (needs : table.Needs path landing) (waited : place ∈ first ++ [turn]) :
    (pollInOrder table ((first ++ [turn]) ++ rest) (paths.map .begun) loader).1[place]? =
      some (if place ∈ turn :: rest then .done (landing.conclude loader.outcome)
        else .waiting landing loader.calls) := by
  obtain ⟨onWay, path', landing', stands, found', needs', answered⟩ :=
    pollInOrder_answered idle needy valid full
  have stood := stands place path landing found needs
  rw [pollInOrder_append, answered]
  by_cases own : turn = place
  · subst own
    obtain rfl : path = path' := Option.some.inj (found.symm.trans found')
    obtain rfl : landing = landing' := Chain.lands.inj (needs.1.symm.trans needs'.1)
    rw [if_pos List.mem_cons_self]
    apply getElem?_pollInOrder_of_done
    exact List.getElem?_set_self (List.getElem?_eq_some_iff.mp stood).1
  · have before : place ∈ first := by simpa [Ne.symm own] using waited
    have others : place ∈ turn :: rest ↔ place ∈ rest := by simp [Ne.symm own]
    rw [if_pos before] at stood
    simp only [others]
    apply getElem?_pollInOrder_of_waiting
    · exact idle.getElem?_flight_of_le (Nat.le_refl _)
    · rw [List.getElem?_set_ne own, stood]

variable (success : loader.outcome = .ok shared)
include success

theorem resolved_of_answered :
    (pollInOrder table (first ++ [turn]) (paths.map .begun) loader).2.state = .resolved shared := by
  rw [flight_of_answered idle needy valid full]
  simp [Loader.flight, success, Loader.keep]

variable (consistent : loader.Consistent)
include consistent

theorem counts_of_answered (rest : List Nat) :
    (pollInOrder table ((first ++ [turn]) ++ rest) (paths.map .begun) loader).2.fetches =
        loader.fetches + 1 ∧
      (pollInOrder table ((first ++ [turn]) ++ rest) (paths.map .begun) loader).2.calls =
        loader.calls + 1 := by
  obtain ⟨due, advances⟩ := due_pollInOrder consistent (due_of_begun table loader paths)
    (first ++ [turn])
  have later := (due_pollInOrder advances.consistent due rest).2
  have resolved := resolved_of_answered idle needy valid full success
  obtain ⟨_, fetches, calls⟩ := later.settled shared resolved
  rw [pollInOrder_append, fetches, calls, flight_of_answered idle needy valid full]
  exact ⟨rfl, rfl⟩

/-- If the request succeeds, a navigation that begins later ends at its first poll. -/
theorem getElem?_of_answered_of_late (rest : List Nat) (found : paths[place]? = some path)
    (needs : table.Needs path landing) (late : place ∉ first ++ [turn]) :
    (pollInOrder table ((first ++ [turn]) ++ rest) (paths.map .begun) loader).1[place]? =
      some (if place ∈ rest then .done (landing.conclude (.ok shared)) else .begun path) := by
  obtain ⟨due, advances⟩ := due_pollInOrder consistent (due_of_begun table loader paths)
    (first ++ [turn])
  rw [pollInOrder_append]
  apply getElem?_pollInOrder_of_resolved advances.consistent due
  · exact resolved_of_answered idle needy valid full success
  · exact needs
  · obtain ⟨onWay, _, _, stands, _, _, answered⟩ := pollInOrder_answered idle needy valid full
    have stood := stands place path landing found needs
    have notFirst : place ∉ first := fun member => late (List.mem_append_left _ member)
    have notTurn : turn ≠ place := by
      rintro rfl
      exact late (by simp)
    rw [answered, List.getElem?_set_ne notTurn, stood, if_neg notFirst]

end Answered

end Visit

/-- What navigations to `paths` come to, and the loader with them, when they are polled in `order`
and the source is asked for the first time. -/
structure Table.Confluent (table : Table) (source : Source) (paths : List Text) (order : List Nat)
    (visits : List Visit) (loader : Loader) : Prop where
  /-- The first load ends at the poll after those without answer, whoever has that poll. -/
  ended : loader.result? 0 =
    if order.length ≤ (source.respond 0).delay then none else some (source.result 0)
  /-- If it succeeds, each navigation ends as it would alone, at its first poll from there on. -/
  shown : ∀ index, (source.respond 0).outcome.bind Index.ofBytes = .ok index →
    ∀ place path, paths[place]? = some path → ∃ visit nav, visits[place]? = some visit ∧
      (navigate table (.new source) path).1 = .done (.ok nav) ∧ nav.view.packages = some index ∧
      visit.result? =
        if place ∈ order.drop (source.respond 0).delay then some (.ok nav) else none
  /-- The source is asked once for all of them. -/
  asked_once : ∀ index, (source.respond 0).outcome.bind Index.ofBytes = .ok index →
    order ≠ [] → loader.fetches = 1 ∧ loader.calls = 1
  /-- If it fails, all that were polled until then end with its error, at their next poll. -/
  failed : ∀ error, (source.respond 0).outcome.bind Index.ofBytes = .error error →
    ∀ place ∈ order.take ((source.respond 0).delay + 1), ∃ visit, visits[place]? = some visit ∧
      visit.result? =
        if place ∈ order.drop (source.respond 0).delay then some (.error (.loadFailed error))
        else none

section Confluence

variable {table : Table} {source : Source} {paths : List Text} {order : List Nat}

theorem navigate_of_new {path : Text} {landing : Landing} (needs : table.Needs path landing) :
    (navigate table (.new source) path).1 = .done (landing.conclude (source.result 0)) := by
  rw [navigate_of_idle (Loader.idle_new source) needs]
  rfl

/-- As long as no poll has brought an answer, no navigation has ended. -/
theorem confluent_of_length_le (needy : ∀ path ∈ paths, ∃ landing, table.Needs path landing)
    (valid : ∀ turn ∈ order, turn < paths.length)
    (unanswered : order.length ≤ (source.respond 0).delay) :
    table.Confluent source paths order
      (Visit.pollInOrder table order (paths.map .begun) (.new source)).1
      (Visit.pollInOrder table order (paths.map .begun) (.new source)).2 := by
  have idle := Loader.idle_new source
  obtain ⟨onWay, flight⟩ := Visit.onWay_pollInOrder idle needy valid unanswered
  have nobody : order.drop (source.respond 0).delay = [] := List.drop_eq_nil_of_le unanswered
  have stands : ∀ (place : Nat) (path : Text), paths[place]? = some path → ∃ visit : Visit,
      (Visit.pollInOrder table order (paths.map .begun) (.new source)).1[place]? = some visit ∧
        visit.result? = none := by
    intro place path found
    obtain ⟨landing, needs⟩ := needy path (List.mem_of_getElem? found)
    refine ⟨_, onWay place path landing found needs, ?_⟩
    split <;> rfl
  rw [flight] at *
  constructor
  case ended =>
    rw [if_pos unanswered]
    cases polls : order.length with
    | zero => rfl
    | succ earlier =>
      have early : earlier < source.delay 0 := by
        rw [polls] at unanswered
        exact unanswered
      have there := idle.getElem?_flight earlier
      simp only [Loader.new, Source.load, early, if_true] at there
      simp only [Loads.result?, Loader.new, there]
  case shown =>
    intro index success place path found
    obtain ⟨landing, needs⟩ := needy path (List.mem_of_getElem? found)
    obtain ⟨visit, there, unfinished⟩ := stands place path found
    have alone := @navigate_of_new table source path landing needs
    rw [Source.result_eq_ok success] at alone
    refine ⟨visit, _, there, alone, ?_, ?_⟩
    · simp [Landing.navigation]
    · simp [nobody, unfinished]
  case asked_once =>
    intro index success some
    cases polls : order.length with
    | zero => exact absurd (List.length_eq_zero_iff.mp polls) some
    | succ earlier => exact ⟨rfl, rfl⟩
  case failed =>
    intro error failure place waited
    have inside := valid place (List.mem_of_mem_take waited)
    obtain ⟨visit, there, unfinished⟩ := stands place _ (List.getElem?_eq_getElem inside)
    refine ⟨visit, there, ?_⟩
    simp [nobody, unfinished]

/-- From the poll on that brings the answer, each navigation ends at its next poll. -/
theorem confluent_of_lt_length (needy : ∀ path ∈ paths, ∃ landing, table.Needs path landing)
    (valid : ∀ turn ∈ order, turn < paths.length)
    (answered : (source.respond 0).delay < order.length) :
    table.Confluent source paths order
      (Visit.pollInOrder table order (paths.map .begun) (.new source)).1
      (Visit.pollInOrder table order (paths.map .begun) (.new source)).2 := by
  have idle := Loader.idle_new source
  have consistent := Loader.consistent_new source
  obtain ⟨first, turn, rest, rfl, full⟩ := Visit.exists_split answered
  have begun : ∀ place ∈ first ++ [turn], place < paths.length :=
    fun place member => valid place (List.mem_append_left _ member)
  have later : ((first ++ [turn]) ++ rest).drop (source.respond 0).delay = turn :: rest := by
    simp [← full]
  have upTo : ((first ++ [turn]) ++ rest).take ((source.respond 0).delay + 1) =
      first ++ [turn] := List.take_left' (by simp [full])
  constructor
  case ended =>
    have finished := Visit.finished_of_answered idle needy begun full rest
    simp only [Loader.new] at finished
    rw [if_neg (by omega)]
    simp only [Loads.result?, Loader.new, finished]
    rfl
  case shown =>
    intro index success place path found
    obtain ⟨landing, needs⟩ := needy path (List.mem_of_getElem? found)
    have result := Source.result_eq_ok success
    have alone := @navigate_of_new table source path landing needs
    rw [result] at alone
    by_cases waited : place ∈ first ++ [turn]
    · have there := Visit.getElem?_of_answered idle needy begun full rest found needs waited
      refine ⟨_, _, there, alone, by simp [Landing.navigation], ?_⟩
      rw [later, apply_ite Visit.result?]
      simp only [Visit.result?, Loader.outcome, Loader.new, result]
      rfl
    · have there := Visit.getElem?_of_answered_of_late idle needy begun full result consistent rest
        found needs waited
      have others : place ∈ turn :: rest ↔ place ∈ rest := by
        simp only [List.mem_append, List.mem_singleton, not_or] at waited
        simp [waited.2]
      refine ⟨_, _, there, alone, by simp [Landing.navigation], ?_⟩
      simp only [later, others]
      rw [apply_ite Visit.result?]
      rfl
  case asked_once =>
    intro index success _
    exact Visit.counts_of_answered idle needy begun full (Source.result_eq_ok success) consistent
      rest
  case failed =>
    intro error failure place waited
    rw [upTo] at waited
    have found := List.getElem?_eq_getElem (begun place waited)
    obtain ⟨landing, needs⟩ := needy _ (List.mem_of_getElem? found)
    have there := Visit.getElem?_of_answered idle needy begun full rest found needs waited
    have result := Source.result_eq_error failure
    refine ⟨_, there, ?_⟩
    rw [later, apply_ite Visit.result?]
    simp only [Visit.result?, Loader.outcome, Loader.new, result]
    rfl

/-- Whatever the order is in which navigations are polled that need the index, each ends as it would
alone, and the source is asked once. If that fails, all that have waited for it are told. -/
theorem navigations_are_confluent (table : Table) (source : Source) (paths : List Text)
    (order : List Nat) (needy : ∀ path ∈ paths, ∃ landing, table.Needs path landing)
    (valid : ∀ turn ∈ order, turn < paths.length) :
    table.Confluent source paths order
      (Visit.pollInOrder table order (paths.map .begun) (.new source)).1
      (Visit.pollInOrder table order (paths.map .begun) (.new source)).2 := by
  rcases Nat.lt_or_ge (source.respond 0).delay order.length with answered | unanswered
  · exact confluent_of_lt_length needy valid answered
  · exact confluent_of_length_le needy valid unanswered

end Confluence

/-- A front page that needs the index, and a path that is redirected to it. -/
def Table.demanding : Table where
  routes := [⟨.ofText "/a", .view .front (some .packages)⟩, ⟨.ofText "/b", .redirect "/a"⟩]

/-- The first of two navigations begins the request, the second ends it, and both end. -/
theorem demanding_is_confluent :
    let source := Source.scripted "slow" [{ delay := 1, outcome := .ok [0x7B, 0x7D] }]
    let paths : List Text := ["/b", "/a"]
    (∀ path ∈ paths, ∃ landing, Table.demanding.Needs path landing) ∧
      (∀ turn ∈ [0, 1, 0], turn < paths.length) ∧
      Table.demanding.Confluent source paths [0, 1, 0]
        (Visit.pollInOrder .demanding [0, 1, 0] (paths.map .begun) (.new source)).1
        (Visit.pollInOrder .demanding [0, 1, 0] (paths.map .begun) (.new source)).2 := by
  intro source paths
  have needy : ∀ path ∈ paths, ∃ landing, Table.demanding.Needs path landing := by
    intro path member
    simp only [paths, List.mem_cons, List.not_mem_nil, or_false] at member
    rcases member with rfl | rfl
    · exact ⟨⟨"/a", ["/b"], .front, some .packages, []⟩, by rfl, rfl⟩
    · exact ⟨⟨"/a", [], .front, some .packages, []⟩, by rfl, rfl⟩
  have valid : ∀ turn ∈ [0, 1, 0], turn < paths.length := by decide
  exact ⟨needy, valid, navigations_are_confluent .demanding source paths [0, 1, 0] needy valid⟩

end DocBrowser
