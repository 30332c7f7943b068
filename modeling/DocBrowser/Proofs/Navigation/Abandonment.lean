import DocBrowser.Proofs.Loader.Run
import DocBrowser.Proofs.Navigation.Confluence
import Mathlib.Algebra.BigOperators.Group.Finset.Basic
import Mathlib.Algebra.GroupWithZero.Nat

/-!
Navigations that are left alone before they have ended. The polls they had are not lost: the next
navigation goes on where they stopped, and nothing else tells that there were any.
-/

namespace DocBrowser

namespace Visit

variable {table : Table} {loader : Loader} {paths : List Text} {order : List Nat} {path : Text}
  {landing : Landing} {polls : Nat}

/-- Navigations of which none has ended have not had the poll that brings the answer. -/
theorem length_le_delay_of_unfinished (idle : loader.Idle)
    (needy : ∀ path ∈ paths, ∃ landing, table.Needs path landing)
    (valid : ∀ turn ∈ order, turn < paths.length)
    (unfinished : ∀ visit ∈ (pollInOrder table order (paths.map .begun) loader).1,
      visit.result? = none) : order.length ≤ loader.delay := by
  by_contra answered
  obtain ⟨first, turn, rest, rfl, full⟩ := exists_split (Nat.lt_of_not_le answered)
  have begun : ∀ place ∈ first ++ [turn], place < paths.length :=
    fun place member => valid place (List.mem_append_left _ member)
  have found := List.getElem?_eq_getElem (begun turn (by simp))
  obtain ⟨landing, needs⟩ := needy _ (List.mem_of_getElem? found)
  have there := getElem?_of_answered idle needy begun full rest found needs (by simp)
  rw [if_pos List.mem_cons_self] at there
  have ended := unfinished _ (List.mem_of_getElem? there)
  simp [result?] at ended

/-- The polls that a navigation needs are those that are left of the request. -/
theorem result?_pollUpTo_flight (idle : loader.Idle) (needs : table.Needs path landing)
    (unanswered : polls ≤ loader.delay) (limit : Nat) :
    ((begun path).pollUpTo table limit (loader.flight polls)).1.result? ≠ none ↔
      loader.delay + 1 - polls ≤ limit := by
  cases limit with
  | zero =>
    simp only [pollUpTo, result?, ne_eq, not_true_eq_false, false_iff]
    omega
  | succ limit =>
    rw [pollUpTo_begun_flight idle needs unanswered, afterPolls]
    by_cases early : polls + 1 + limit ≤ loader.delay
    · simp only [if_pos early, result?, ne_eq, not_true_eq_false, false_iff]
      omega
    · simp only [if_neg early, result?, ne_eq, reduceCtorEq, not_false_eq_true, true_iff]
      omega

end Visit

/-- An order in which each of several things has a number of turns is as long as they are together. -/
theorem length_eq_sum_of_count {α : Type} {given : List (α × Nat)} {order : List Nat}
    (valid : ∀ turn ∈ order, turn < given.length)
    (counted : ∀ place item count, given[place]? = some (item, count) →
      order.count place = count) :
    order.length = (given.map Prod.snd).sum := by
  have counts : given.map Prod.snd = (List.range given.length).map order.count := by
    apply List.ext_getElem
    · simp
    · intro place inside _
      rw [List.length_map] at inside
      have there := List.getElem?_eq_getElem inside
      simpa using (counted place _ _ there).symm
  have total := Multiset.sum_count_eq_card (s := Finset.range given.length)
    (m := (order : Multiset Nat)) (by simpa using valid)
  calc order.length
    _ = ∑ place ∈ Finset.range given.length, order.count place := by simpa using total.symm
    _ = (given.map Prod.snd).sum := by
      rw [counts]
      rfl

/-- Navigations that are polled in any order and left before they have ended, each at its own number
of polls, leave no trace but their polls. -/
theorem abandoned_navigations_leave_no_trace (table : Table) (loader : Loader)
    (consistent : loader.Consistent)
    (status : loader.status = .empty ∨ ∃ error, loader.status = .failed error)
    (abandoned : List (Text × Nat)) (order : List Nat)
    (valid : ∀ turn ∈ order, turn < abandoned.length)
    (counted : ∀ place path count, abandoned[place]? = some (path, count) →
      order.count place = count)
    (needy : ∀ path ∈ abandoned.map Prod.fst, ∃ landing, table.Needs path landing)
    (unfinished : ∀ visit ∈ (Visit.pollInOrder table order
      ((abandoned.map Prod.fst).map .begun) loader).1, visit.result? = none)
    (path : Text) (landing : Landing) (needs : table.Needs path landing) :
    let left := (Visit.pollInOrder table order ((abandoned.map Prod.fst).map .begun) loader).2
    let delay := (loader.source.respond loader.calls).delay
    let polls := (abandoned.map Prod.snd).sum
    (∃ result later, navigate table left path = (.done result, later) ∧
      navigate table loader path = (.done result, later)) ∧
    polls ≤ delay ∧
    ∀ limit, ((Visit.begun path).pollUpTo table limit left).1.result? ≠ none ↔
      delay + 1 - polls ≤ limit := by
  intro left delay polls
  have idle := consistent.idle status
  have length : order.length = polls := length_eq_sum_of_count valid counted
  have within : ∀ turn ∈ order, turn < (abandoned.map Prod.fst).length := by
    simpa using valid
  have unanswered := Visit.length_le_delay_of_unfinished idle needy within unfinished
  have flight : left = loader.flight polls := by
    rw [← length]
    exact (Visit.onWay_pollInOrder idle needy within unanswered).2
  rw [length] at unanswered
  rw [flight]
  refine ⟨⟨_, _, navigate_flight idle needs unanswered, navigate_of_idle idle needs⟩,
    unanswered, ?_⟩
  exact Visit.result?_pollUpTo_flight idle needs unanswered

/-- After a failure, one navigation is left before its first poll and one after it. The next one
needs a poll less than the two that the request needs. -/
theorem unsteady_leaves_no_trace :
    let loader := (Loader.new .unsteady).await.2
    let abandoned : List (Text × Nat) := [("/a", 0), ("/b", 1)]
    let order := [1]
    loader.Consistent ∧ (∃ error, loader.status = .failed error) ∧
      (∀ turn ∈ order, turn < abandoned.length) ∧
      (∀ place path count, abandoned[place]? = some (path, count) → order.count place = count) ∧
      (∀ path ∈ abandoned.map Prod.fst, ∃ landing, Table.demanding.Needs path landing) ∧
      (∀ visit ∈ (Visit.pollInOrder .demanding order
        ((abandoned.map Prod.fst).map .begun) loader).1, visit.result? = none) ∧
      ∀ limit, ((Visit.begun "/b").pollUpTo .demanding limit
        (Visit.pollInOrder .demanding order
          ((abandoned.map Prod.fst).map .begun) loader).2).1.result? ≠ none ↔ 1 ≤ limit := by
  intro loader abandoned order
  have consistent : loader.Consistent := (Loader.consistent_new .unsteady).await.consistent
  have failed : loader.status = .failed (.status "unsteady" 503) := by rfl
  have valid : ∀ turn ∈ order, turn < abandoned.length := by decide
  have counted : ∀ (place : Nat) (path : Text) count, abandoned[place]? = some (path, count) →
      order.count place = count := by
    rintro (_ | _ | place) path count there
    · cases there
      rfl
    · cases there
      rfl
    · cases there
  have front : Table.demanding.Needs "/a" ⟨"/a", [], .front, some .packages, []⟩ := ⟨by rfl, rfl⟩
  have other : Table.demanding.Needs "/b" ⟨"/a", ["/b"], .front, some .packages, []⟩ :=
    ⟨by rfl, rfl⟩
  have needy : ∀ path ∈ abandoned.map Prod.fst, ∃ landing, Table.demanding.Needs path landing := by
    intro path member
    simp only [abandoned, List.map_cons, List.map_nil, List.mem_cons, List.not_mem_nil,
      or_false] at member
    rcases member with rfl | rfl
    · exact ⟨_, front⟩
    · exact ⟨_, other⟩
  have unfinished : ∀ visit ∈ (Visit.pollInOrder .demanding order
      ((abandoned.map Prod.fst).map .begun) loader).1, visit.result? = none := by
    have stand : (Visit.pollInOrder .demanding order
        ((abandoned.map Prod.fst).map .begun) loader).1 =
          [.begun "/a", .waiting ⟨"/a", ["/b"], .front, some .packages, []⟩ 1] := by rfl
    intro visit member
    rw [stand] at member
    simp only [List.mem_cons, List.not_mem_nil, or_false] at member
    rcases member with rfl | rfl <;> rfl
  exact ⟨consistent, ⟨_, failed⟩, valid, counted, needy, unfinished,
    (abandoned_navigations_leave_no_trace .demanding loader consistent (.inr ⟨_, failed⟩) abandoned
      order valid counted needy unfinished "/b" _ other).2.2⟩

end DocBrowser
