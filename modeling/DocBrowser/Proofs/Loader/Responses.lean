import DocBrowser.Proofs.Loader.Run

/-!
Responses and loads. The loads that the loader counts as fetches take the responses of the source in
turn. Each ends at the poll after those that its response leaves without answer, whoever polls it,
and its end is seen alike through all its handles, whether or not the loader is still there.
-/

namespace DocBrowser

def LoadStatus.ofResult : LoadResult → LoadStatus
  | .ok shared => .resolved shared.index.size shared.index.typeCount
  | .error error => .failed error

/-- A load that was polled `polled` times, and ends with `result` after `delay` polls without
answer. -/
structure Desk.Delivers (delay : Nat) (result : LoadResult) (polled number : Nat) (desk : Desk) :
    Prop where
  result?_eq : desk.owner.loads.result? number = if polled ≤ delay then none else some result
  answer_eq : ∀ handle, desk.number? handle = some number →
    (desk.step (.poll handle)).1 =
      .polled (if polled < delay then .pending else .done result)
  /-- The loader keeps the end of the load at the poll that brings it. -/
  kept : ∀ handle loader, desk.number? handle = some number → polled = delay →
    (desk.step (.poll handle)).2.owner = .live loader →
      loader.status = .ofResult result ∧ loader.cached = result.toOption

/-- What a gone loader has left behind, beside a desk that may have gone on in the meantime. -/
structure Desk.Outlives (left kept : Desk) : Prop where
  gone : left.owner.loader? = none
  loads : ∃ later, kept.owner.loads =
    { left.owner.loads with items := left.owner.loads.items ++ later }
  handles : ∃ later, kept.handles = left.handles ++ later
  inside : ∀ handle number, left.number? handle = some number →
    number < left.owner.loads.items.length

theorem Loader.status_of_keep {loader : Loader} {result : LoadResult}
    (kept : loader.state = keep result) :
    loader.status = .ofResult result ∧ loader.cached = result.toOption := by
  cases result with
  | ok shared => exact ⟨by simp [status, kept, keep, LoadStatus.ofResult],
      by simp [cached, kept, keep, Except.toOption]⟩
  | error error => exact ⟨by simp [status, kept, keep, LoadStatus.ofResult],
      by simp [cached, kept, keep, Except.toOption]⟩

namespace Loads

variable {loads : Loads} {number : Nat}

theorem poll_append (inside : number < loads.items.length) (later : List Load) :
    poll { loads with items := loads.items ++ later } number =
      ((loads.poll number).1,
        { (loads.poll number).2 with items := (loads.poll number).2.items ++ later }) := by
  have there : (loads.items ++ later)[number]? = loads.items[number]? :=
    List.getElem?_append_left inside
  cases found : loads.items[number]? with
  | none => simp [poll, there, found]
  | some item =>
    cases item with
    | finished result => simp [poll, there, found]
    | ready shared => simp [poll, there, found, List.set_append_left _ _ inside]
    | unpolled =>
      simp only [poll, there, found]
      cases (loads.source.respond loads.calls).delay <;>
        simp [wait, List.set_append_left _ _ inside]
    | waiting more outcome =>
      simp only [poll, there, found]
      cases more <;> simp [wait, List.set_append_left _ _ inside]

end Loads

namespace Desk

variable {left kept : Desk} {handle : Nat}

theorem step_load_of_gone (gone : left.owner.loader? = none) : (left.step .load).2 = left := by
  obtain ⟨loads, owner⟩ := Owner.exists_eq_gone gone
  simp [Desk.step, owner]

theorem step_dropLoader_of_gone (gone : left.owner.loader? = none) :
    (left.step .dropLoader).2 = left := by
  obtain ⟨loads, owner⟩ := Owner.exists_eq_gone gone
  simp [Desk.step, owner]

namespace Outlives

theorem number?_eq (outlives : left.Outlives kept) (before : handle < left.handles.length) :
    kept.number? handle = left.number? handle := by
  obtain ⟨later, handles⟩ := outlives.handles
  simp [number?, handles, List.getElem?_append_left before]

theorem answer_eq (outlives : left.Outlives kept) (before : handle < left.handles.length) :
    (left.step (.poll handle)).1 = (kept.step (.poll handle)).1 := by
  have same := outlives.number?_eq before
  cases reached : left.number? handle with
  | none => simp [Desk.step, reached, same]
  | some number =>
    obtain ⟨later, loads⟩ := outlives.loads
    rw [step_poll reached, step_poll (same.trans reached), loads,
      Loads.poll_append (outlives.inside handle number reached)]

/-- What happens to a desk while only old handles are polled does not concern a gone loader. -/
theorem step (outlives : left.Outlives kept) (step : DeskStep)
    (old : ∀ handle, step = .poll handle → handle < left.handles.length) :
    (left.step step).2.Outlives (kept.step step).2 ∧
      left.polled? step = kept.polled? step ∧
      (left.step step).2.handles.length = left.handles.length := by
  have ⟨gone, ⟨later, loads⟩, ⟨more, handles⟩, inside⟩ := outlives
  cases step with
  | load =>
    rw [step_load_of_gone gone]
    refine ⟨?_, rfl, rfl⟩
    cases owner : kept.owner with
    | gone rest => rwa [step_load_of_gone (by simp [owner, Owner.loader?])]
    | live loader =>
      obtain ⟨newest, appended⟩ := loader.load_appends
      rw [owner] at loads
      rw [step_load owner]
      refine ⟨gone, ⟨later ++ newest, ?_⟩, ⟨more ++ [some loader.load.1], ?_⟩, inside⟩
      · simp only [Owner.loads] at loads ⊢
        simp [appended, loads]
      · simp [handles]
  | poll handle =>
    have before := old handle rfl
    have same := outlives.number?_eq before
    refine ⟨?_, by simp [polled?, same], ?_⟩
    · cases reached : left.number? handle with
      | none => simpa [Desk.step, reached, same] using outlives
      | some number =>
        have within := inside handle number reached
        rw [step_poll reached, step_poll (same.trans reached)]
        refine ⟨?_, ⟨later, ?_⟩, ⟨more, handles⟩, ?_⟩
        · simpa [step_poll reached] using loader?_step gone (.poll handle)
        · simp [loads, Loads.poll_append within]
        · intro other found there
          simpa using inside other found there
    · cases reached : left.number? handle <;> simp [Desk.step, reached]
  | drop handle =>
    refine ⟨?_, rfl, ?_⟩
    · by_cases before : handle < left.handles.length
      · have same := outlives.number?_eq before
        cases reached : left.number? handle with
        | none => simpa [Desk.step, reached, same] using outlives
        | some number =>
          simp only [Desk.step, reached, same]
          refine ⟨gone, ⟨later, loads⟩, ⟨more, ?_⟩, ?_⟩
          · simp [handles, List.set_append_left _ _ before]
          · intro other found there
            exact inside other found (number?_eq_some_of_set there)
      · have missing : left.number? handle = none := by
          simp [number?, List.getElem?_eq_none (Nat.le_of_not_lt before)]
        cases reached : kept.number? handle with
        | none => simpa [Desk.step, reached, missing] using outlives
        | some number =>
          simp only [Desk.step, reached, missing]
          refine ⟨gone, ⟨later, loads⟩, ⟨more.set (handle - left.handles.length) none, ?_⟩, inside⟩
          simp [handles, List.set_append_right _ _ (Nat.le_of_not_lt before)]
    · cases reached : left.number? handle <;> simp [Desk.step, reached]
  | dropLoader =>
    rw [step_dropLoader_of_gone gone]
    refine ⟨⟨gone, ⟨later, ?_⟩, ⟨more, ?_⟩, inside⟩, rfl, rfl⟩
    · rw [loads_dropLoader, loads]
    · rw [handles_dropLoader, handles]

theorem run (outlives : left.Outlives kept) {steps : List DeskStep}
    (old : ∀ handle, .poll handle ∈ steps → handle < left.handles.length) :
    (left.run steps).Outlives (kept.run steps) ∧
      (∀ number, left.polls number steps = kept.polls number steps) ∧
      (left.run steps).handles.length = left.handles.length := by
  induction steps generalizing left kept with
  | nil => exact ⟨outlives, fun _ => rfl, rfl⟩
  | cons step rest ih =>
    obtain ⟨next, polled, length⟩ := outlives.step step fun handle same =>
      old handle (by simp [same])
    obtain ⟨last, polls, lengths⟩ := ih next fun handle member => by
      rw [length]
      exact old handle (by simp [member])
    refine ⟨last, ?_, lengths.trans length⟩
    intro number
    simp [Desk.polls, polled, polls]

end Outlives

namespace Sound

variable {desk : Desk} {polled : Nat → Nat} {begun number : Nat}

theorem outlives (sound : desk.Sound polled begun) : (desk.step .dropLoader).2.Outlives desk where
  gone := loader?_dropLoader
  loads := ⟨[], by simp⟩
  handles := ⟨[], by simp⟩
  inside := by
    intro handle number reached
    have before : desk.number? handle = some number := by simpa [number?] using reached
    simpa using sound.handles handle number before

/-- A load that makes a request delivers its response, however it is polled. -/
theorem delivers (sound : desk.Sound polled begun) (requesting : number < begun) :
    desk.Delivers (desk.owner.loads.source.delay number) (desk.owner.loads.source.result number)
      (polled number) number where
  result?_eq := by
    have course := sound.owner.orderly.course number requesting
    by_cases waiting : polled number ≤ desk.owner.loads.source.delay number
    · cases polls : polled number with
      | zero => simp [Loads.result?, course, polls, Source.load]
      | succ earlier =>
        rw [polls] at waiting course
        simp [Loads.result?, course, Source.load, waiting, Nat.lt_of_succ_le waiting]
    · have ended := Nat.lt_of_not_le waiting
      simp [Loads.result?, course, Source.load_of_delay_lt ended, waiting]
  answer_eq := by
    intro handle reached
    rw [step_poll reached, sound.owner.orderly.poll_eq_of_lt requesting, Source.answer]
  kept := by
    intro handle loader reached enough live
    have waiting : polled number ≤ desk.owner.loads.source.delay number := by omega
    have last := sound.owner.orderly.begun_eq_of_waiting requesting waiting
    obtain ⟨next, fetches⟩ := (sound.step (.poll handle)).of_live live
    have source : (desk.step (.poll handle)).2.owner.loads.source = desk.owner.loads.source :=
      source_step _
    rw [live] at source
    change loader.source = desk.owner.loads.source at source
    apply Loader.status_of_keep
    have ended : desk.owner.loads.source.delay number < polled number + 1 := by omega
    rw [next.state_eq, fetches, source]
    simp [issued?, polled?, reached, last, Source.state, ended]

end Sound

end Desk

/-- The loads that are counted as fetches take the responses of the source in turn. Each is ended by
the poll after those without answer, its end is the same at all its handles, and the loader keeps it
from that poll on. Dropping the loader changes nothing that is seen through handles given out. -/
theorem responses_in_turn (location : Text) (responses : List Response) :
    let start := Desk.new (.scripted location responses)
    (∀ attempt : Nat,
      let response : Response := (responses[attempt]?).getD
        { outcome := .error (.fetch location "no more responses") }
      ∃ result : LoadResult, result.map (·.index) = response.outcome.bind Index.ofBytes ∧
        ∀ steps number, (start.issued steps)[attempt]? = some number →
          (start.run steps).Delivers response.delay result (start.polls number steps) number) ∧
    ∀ before after,
      let kept := start.run before
      let left := (kept.step .dropLoader).2
      (∀ handle, .poll handle ∈ after → handle < kept.handles.length) →
        (left.run after).owner.loads.calls = (kept.run after).owner.loads.calls ∧
        (∀ number, left.polls number after = kept.polls number after) ∧
        ∀ handle, handle < kept.handles.length →
          ((left.run after).step (.poll handle)).1 = ((kept.run after).step (.poll handle)).1 := by
  intro start
  constructor
  · intro attempt response
    refine ⟨Loads.complete attempt response.outcome, ?_, ?_⟩
    · cases read : response.outcome.bind Index.ofBytes <;>
        simp [Loads.complete, read, Except.map]
    · intro steps number issued
      have sound := Desk.sound_run (.scripted location responses) steps
      rw [Desk.issued_eq_range] at issued
      have inside := (List.getElem?_eq_some_iff.mp issued).1
      obtain rfl : attempt = number := by simpa using (List.getElem?_eq_some_iff.mp issued).2
      have delivers := sound.delivers (by simpa using inside)
      rw [Desk.source_run] at delivers
      exact delivers
  · intro before after kept left old
    have sound := Desk.sound_run (.scripted location responses) before
    have length : left.handles.length = kept.handles.length := by simp [left]
    have parted : left.Outlives kept := sound.outlives
    obtain ⟨last, polls, lengths⟩ := parted.run fun handle member => length ▸ old handle member
    refine ⟨?_, polls, ?_⟩
    · obtain ⟨later, loads⟩ := last.loads
      simp [loads]
    · intro handle before
      exact last.answer_eq (by omega)

/-- The second load of a run takes the second response, which needs two polls. -/
theorem unsteady_in_turn :
    ∃ result : LoadResult, result.map (·.index) = Index.ofBytes [0x7B, 0x7D] ∧
      ((Desk.new .unsteady).run [.load, .poll 0, .load, .load, .poll 1]).Delivers 1 result 1 1 := by
  obtain ⟨result, read, delivers⟩ := (responses_in_turn "unsteady"
    [{ outcome := .error (.status "unsteady" 503) },
      { delay := 1, outcome := .ok [0x7B, 0x7D] }]).1 1
  exact ⟨result, read, delivers [.load, .poll 0, .load, .load, .poll 1] 1 (by decide)⟩

end DocBrowser
