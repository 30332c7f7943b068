import DocBrowser.Proofs.Loader.Invariant

/-!
What requests and polls can make of a loader in use: it stays consistent, its loads stay where they
are, and an index that it has is kept at no further cost.
-/

namespace DocBrowser.Loader

/-- A loader as requests and polls can have made it. -/
def Consistent (loader : Loader) : Prop := ∃ polled, loader.Sound polled

structure Advances (before after : Loader) : Prop where
  consistent : after.Consistent
  length_le : before.items.length ≤ after.items.length
  settled : ∀ shared, before.state = .resolved shared →
    after.state = .resolved shared ∧ after.fetches = before.fetches ∧ after.calls = before.calls

variable {loader before middle after : Loader} {number : Nat} {shared : SharedIndex}

theorem consistent_new (source : Source) : (new source).Consistent := ⟨_, .new source⟩

theorem Advances.refl (consistent : loader.Consistent) : loader.Advances loader :=
  ⟨consistent, Nat.le_refl _, fun _ resolved => ⟨resolved, rfl, rfl⟩⟩

theorem Advances.trans (first : before.Advances middle) (rest : middle.Advances after) :
    before.Advances after where
  consistent := rest.consistent
  length_le := Nat.le_trans first.length_le rest.length_le
  settled := by
    intro shared resolved
    obtain ⟨still, fetches, calls⟩ := first.settled shared resolved
    obtain ⟨last, lastFetches, lastCalls⟩ := rest.settled shared still
    exact ⟨last, lastFetches.trans fetches, lastCalls.trans calls⟩

/-- Of a loader that has the index, a request gets it at the first poll. -/
theorem poll_load_of_resolved (resolved : loader.state = .resolved shared) :
    (loader.load.2.poll loader.load.1).1 = .done (.ok shared) := by
  rw [load_of_resolved resolved, fst_poll, Loads.poll_eq_of_spare (.inl ?_)]
  simp

namespace Consistent

theorem load_lt (consistent : loader.Consistent) : loader.load.1 < loader.load.2.items.length := by
  obtain ⟨_, sound⟩ := consistent
  exact sound.load_lt

theorem load (consistent : loader.Consistent) : loader.Advances loader.load.2 := by
  obtain ⟨polled, sound⟩ := consistent
  refine ⟨⟨polled, sound.load⟩, length_le_load, ?_⟩
  intro shared resolved
  simp [load_of_resolved resolved, resolved]

theorem state_of_poll (consistent : loader.Consistent) (inside : number < loader.items.length)
    (success : (loader.poll number).1 = .done (.ok shared)) :
    (loader.poll number).2.state = .resolved shared := by
  obtain ⟨polled, sound⟩ := consistent
  rw [sound.state_poll inside]
  exact sound.orderly.resolved_of_poll inside success

theorem poll (consistent : loader.Consistent) (inside : number < loader.items.length) :
    loader.Advances (loader.poll number).2 := by
  obtain ⟨polled, sound⟩ := consistent
  have next := sound.poll inside
  refine ⟨⟨_, next⟩, by simp, ?_⟩
  intro shared resolved
  have state := sound.state_eq.symm.trans resolved
  have still : (loader.poll number).2.state = .resolved shared := by
    rw [sound.state_poll inside, Source.state_update_of_resolved state]
  refine ⟨still, rfl, ?_⟩
  rw [next.orderly.calls_eq_of_resolved (next.state_eq.symm.trans still),
    sound.orderly.calls_eq_of_resolved state, fetches_poll]

theorem pollUntil (consistent : loader.Consistent) (inside : number < loader.items.length)
    (limit : Nat) : loader.Advances (Loader.pollUntil number limit loader).2 := by
  induction limit generalizing loader with
  | zero => exact .refl consistent
  | succ limit ih =>
    have first := consistent.poll inside
    rw [Loader.pollUntil]
    split
    · next again answer =>
      rw [answer] at first
      exact first.trans (ih first.consistent (Nat.lt_of_lt_of_le inside first.length_le))
    · exact first

theorem await (consistent : loader.Consistent) : loader.Advances loader.await.2 := by
  have begun := consistent.load
  exact begun.trans (begun.consistent.pollUntil consistent.load_lt _)

end Consistent

end DocBrowser.Loader
