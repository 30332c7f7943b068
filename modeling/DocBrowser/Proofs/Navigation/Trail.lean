import DocBrowser.Proofs.Navigation.Outcome

/-!
The trail of a path: the paths that redirects lead to one after another, however many there are. A
navigation goes along it to the first path that is not redirected, if that is among those it looks
up, and whatever it ends with reports paths of the trail.
-/

namespace DocBrowser

/-- A path as routes look at it: it begins with a slash, and has neither query nor fragment. -/
def IsRooted (path : Text) : Prop := path.head? = some '/' ∧ '?' ∉ path ∧ '#' ∉ path

/-- The paths that the end of a navigation reports. -/
def reportedPaths : Except NavigationError Navigation → List Text
  | .ok nav => nav.redirects ++ [nav.path]
  | .error (.noRoute path) => [path]
  | .error (.redirectLoop start) => [start]
  | .error (.loadFailed _) => []

/-- The page of a landing is made, or the index that it waits for cannot be had. -/
inductive Landing.Ends (landing : Landing) : Except NavigationError Navigation → Prop
  | shown (packages : Option Index) : Ends landing (.ok (landing.navigation packages))
  | unloaded (error : LoadError) : Ends landing (.error (.loadFailed error))

/-- A visit that has come to a landing. -/
inductive Visit.HasLanded (landing : Landing) : Visit → Prop
  | waiting (number : Nat) : HasLanded landing (.waiting landing number)
  | done {result : Except NavigationError Navigation} : landing.Ends result →
      HasLanded landing (.done result)

namespace Table

def Redirects (table : Table) (path : Text) : Prop :=
  ∃ target, table.resolve path = some (.redirect target)

/-- Where a path is redirected to. A path without a redirect stays. -/
def onward (table : Table) (path : Text) : Text :=
  match table.resolve path with
  | some (.redirect target) => normalize target
  | _ => path

/-- The path after so many redirects. -/
def trail (table : Table) (path : Text) : Nat → Text
  | 0 => normalize path
  | count + 1 => table.onward (table.trail path count)

/-- Following redirects, and noting the paths that are looked up in the routes. -/
def followNoting (table : Table) : Nat → Text → List Text → Chain × List Text
  | left, path, redirects =>
    match table.resolve path with
    | some (.view kind requires params) =>
      (.lands { path, redirects, kind, requires, params }, [path])
    | some (.redirect target) =>
      match left with
      | 0 => (.loops, [path])
      | left + 1 =>
        let (chain, noted) := followNoting table left (normalize target) (redirects ++ [path])
        (chain, path :: noted)
    | none => (.lost path, [path])

variable {table : Table} {path target last : Text} {left : List Text} {landing : Landing}
  {count : Nat}

theorem isRooted_of_normal (normal : normalize path = path) : IsRooted path := by
  have whole : ∀ c ∈ path, endsPath c = false := fun c there =>
    endsPath_of_mem_normalize (normal.symm ▸ there)
  refine ⟨normal ▸ head?_normalize, ?_, ?_⟩
  · intro there
    cases whole _ there
  · intro there
    cases whole _ there

theorem onward_of_redirect (resolves : table.resolve path = some (.redirect target)) :
    table.onward path = normalize target := by
  rw [onward, resolves]

theorem normalize_trail (count : Nat) :
    normalize (table.trail path count) = table.trail path count := by
  induction count with
  | zero => exact normalize_normalize
  | succ count ih =>
    rw [trail, onward]
    split
    · exact normalize_normalize
    · exact ih

/-! From one path of the trail to the next. -/

theorem Leads.append_last (leads : table.Leads path left last)
    (resolves : table.resolve last = some (.redirect target)) :
    table.Leads path (left ++ [last]) (normalize target) := by
  induction leads with
  | here path => exact .redirect resolves (.here _)
  | redirect first _ ih => exact .redirect first (ih resolves)

theorem leads_trail (redirected : ∀ i < count, table.Redirects (table.trail path i)) :
    table.Leads (normalize path) ((List.range count).map (table.trail path))
      (table.trail path count) := by
  induction count with
  | zero => exact .here _
  | succ count ih =>
    obtain ⟨target, resolves⟩ := redirected count (Nat.lt_succ_self count)
    have before := ih fun i earlier => redirected i (Nat.lt_succ_of_lt earlier)
    rw [List.range_succ, List.map_append, trail, onward_of_redirect resolves]
    exact before.append_last resolves

/-- Either redirects go on beyond the limit, or there is a first path without one. -/
theorem trail_cases (table : Table) (path : Text) (limit : Nat) :
    (∀ i ≤ limit, table.Redirects (table.trail path i)) ∨
      ∃ count ≤ limit, (∀ i < count, table.Redirects (table.trail path i)) ∧
        ¬ table.Redirects (table.trail path count) := by
  induction limit with
  | zero =>
    by_cases redirected : table.Redirects (table.trail path 0)
    · left
      intro i first
      obtain rfl := Nat.le_zero.mp first
      exact redirected
    · exact .inr ⟨0, Nat.le_refl 0, by simp, redirected⟩
  | succ limit ih =>
    rcases ih with all | ⟨count, within, redirected, stopped⟩
    · by_cases last : table.Redirects (table.trail path (limit + 1))
      · left
        intro i within
        rcases Nat.le_succ_iff.mp within with earlier | rfl
        · exact all i earlier
        · exact last
      · exact .inr ⟨limit + 1, Nat.le_refl _, fun i earlier => all i (Nat.le_of_lt_succ earlier),
          last⟩
    · exact .inr ⟨count, Nat.le_succ_of_le within, redirected, stopped⟩

/-! Where following redirects ends. -/

theorem chain_of_view {kind : ViewKind} {requires : Option Prerequisite} {params : Params}
    (few : count ≤ maxRedirects) (redirected : ∀ i < count, table.Redirects (table.trail path i))
    (resolves : table.resolve (table.trail path count) = some (.view kind requires params)) :
    table.chain path = .lands
      ⟨table.trail path count, (List.range count).map (table.trail path), kind, requires,
        params⟩ := by
  have leads := leads_trail redirected
  rw [chain, leads.follow_of_le (by simpa using few), follow, resolves]
  rfl

theorem chain_of_none (few : count ≤ maxRedirects)
    (redirected : ∀ i < count, table.Redirects (table.trail path i))
    (resolves : table.resolve (table.trail path count) = none) :
    table.chain path = .lost (table.trail path count) := by
  have leads := leads_trail redirected
  rw [chain, leads.follow_of_le (by simpa using few), follow, resolves]

theorem chain_of_redirects
    (redirected : ∀ i ≤ maxRedirects, table.Redirects (table.trail path i)) :
    table.chain path = .loops := by
  have leads := @leads_trail table path (maxRedirects + 1) fun i earlier =>
    redirected i (Nat.le_of_lt_succ earlier)
  exact leads.follow_of_lt (by simp) []

theorem chain_cases (table : Table) (path : Text) :
    (table.chain path = .loops ∧ ∀ i ≤ maxRedirects, table.Redirects (table.trail path i)) ∨
      ∃ count ≤ maxRedirects, (∀ i < count, table.Redirects (table.trail path i)) ∧
        ((table.resolve (table.trail path count) = none ∧
            table.chain path = .lost (table.trail path count)) ∨
          ∃ kind requires params,
            table.resolve (table.trail path count) = some (.view kind requires params) ∧
            table.chain path = .lands ⟨table.trail path count,
              (List.range count).map (table.trail path), kind, requires, params⟩) := by
  rcases trail_cases table path maxRedirects with all | ⟨count, few, redirected, stopped⟩
  · exact .inl ⟨chain_of_redirects all, all⟩
  · right
    refine ⟨count, few, redirected, ?_⟩
    cases resolves : table.resolve (table.trail path count) with
    | none => exact .inl ⟨rfl, chain_of_none few redirected resolves⟩
    | some found =>
      cases found with
      | view kind requires params =>
        exact .inr ⟨kind, requires, params, rfl, chain_of_view few redirected resolves⟩
      | redirect target => exact absurd ⟨target, resolves⟩ stopped

theorem chain_eq_lands_iff :
    table.chain path = .lands landing ↔
      ∃ count ≤ maxRedirects, (∀ i < count, table.Redirects (table.trail path i)) ∧
        table.resolve (table.trail path count) =
          some (.view landing.kind landing.requires landing.params) ∧
        landing.path = table.trail path count ∧
        landing.redirects = (List.range count).map (table.trail path) := by
  constructor
  · intro lands
    rcases chain_cases table path with ⟨loops, _⟩ | ⟨count, few, redirected, lost | view⟩
    · rw [lands] at loops
      cases loops
    · rw [lands] at lost
      cases lost.2
    · obtain ⟨kind, requires, params, resolves, there⟩ := view
      rw [lands] at there
      cases there
      exact ⟨count, few, redirected, resolves, rfl, rfl⟩
  · rintro ⟨count, few, redirected, resolves, last, redirects⟩
    rw [chain_of_view few redirected resolves, ← last, ← redirects]

theorem chain_eq_lost_iff :
    table.chain path = .lost last ↔
      ∃ count ≤ maxRedirects, (∀ i < count, table.Redirects (table.trail path i)) ∧
        table.resolve (table.trail path count) = none ∧ last = table.trail path count := by
  constructor
  · intro lost
    rcases chain_cases table path with ⟨loops, _⟩ | ⟨count, few, redirected, ends | view⟩
    · rw [lost] at loops
      cases loops
    · obtain ⟨resolves, there⟩ := ends
      rw [lost] at there
      cases there
      exact ⟨count, few, redirected, resolves, rfl⟩
    · obtain ⟨_, _, _, _, lands⟩ := view
      rw [lost] at lands
      cases lands
  · rintro ⟨count, few, redirected, resolves, rfl⟩
    exact chain_of_none few redirected resolves

theorem chain_eq_loops_iff :
    table.chain path = .loops ↔ ∀ i ≤ maxRedirects, table.Redirects (table.trail path i) := by
  constructor
  · intro loops
    rcases chain_cases table path with ⟨_, all⟩ | ⟨_, _, _, lost | view⟩
    · exact all
    · rw [loops] at lost
      cases lost.2
    · obtain ⟨_, _, _, _, lands⟩ := view
      rw [loops] at lands
      cases lands
  · exact chain_of_redirects

/-! Which paths are looked up. -/

theorem fst_followNoting (table : Table) (limit : Nat) (path : Text) (before : List Text) :
    (table.followNoting limit path before).1 = table.follow limit path before := by
  fun_induction table.follow limit path before with
  | case1 limit path before kind requires params resolves => rw [followNoting, resolves]
  | case2 path before target resolves => rw [followNoting, resolves]
  | case3 path before target resolves limit ih =>
    rw [followNoting, resolves]
    exact ih
  | case4 limit path before resolves => rw [followNoting, resolves]

theorem exists_snd_followNoting (start limit : Nat) (before : List Text) :
    ∃ count ≤ limit + 1, (table.followNoting limit (table.trail path start) before).2 =
      (List.range' start count).map (table.trail path) := by
  induction limit generalizing start before with
  | zero =>
    refine ⟨1, Nat.le_refl 1, ?_⟩
    rw [followNoting]
    split <;> rfl
  | succ limit ih =>
    rw [followNoting]
    split
    · exact ⟨1, Nat.le_add_left _ _, rfl⟩
    · next target resolves =>
      obtain ⟨count, few, noted⟩ := ih (start + 1) (before ++ [table.trail path start])
      rw [trail, onward_of_redirect resolves] at noted
      refine ⟨count + 1, Nat.succ_le_succ few, ?_⟩
      rw [List.range'_succ, List.map_cons, ← noted]
    · exact ⟨1, Nat.le_add_left _ _, rfl⟩

end Table

/-! What a navigation ends with. -/

variable {table : Table} {loader : Loader} {landing : Landing} {visit : Visit} {path : Text}
  {result : Except NavigationError Navigation}

namespace Visit

theorem hasLanded_pollLoad (landing : Landing) (number : Nat) (loader : Loader) :
    (pollLoad landing number loader).1.HasLanded landing := by
  rw [pollLoad]
  split
  · exact .waiting number
  · exact .done (.shown _)
  · exact .done (.unloaded _)

theorem HasLanded.poll (landed : visit.HasLanded landing) (table : Table) (loader : Loader) :
    (visit.poll table loader).1.HasLanded landing := by
  cases landed with
  | waiting number => exact hasLanded_pollLoad landing number loader
  | done ends => exact .done ends

theorem HasLanded.pollUpTo (landed : visit.HasLanded landing) (table : Table) (limit : Nat)
    (loader : Loader) : (visit.pollUpTo table limit loader).1.HasLanded landing := by
  fun_induction Visit.pollUpTo table limit visit loader with
  | case1 => exact landed
  | case2 => exact landed
  | case3 loader limit visit unfinished next later polled ih =>
    have once := landed.poll table loader
    rw [polled] at once
    exact ih once

theorem hasLanded_poll_begun (lands : table.chain path = .lands landing) (loader : Loader) :
    ((begun path).poll table loader).1.HasLanded landing := by
  cases requires : landing.requires with
  | none =>
    simp only [poll, lands, requires]
    exact .done (.shown _)
  | some needed =>
    rw [poll_begun ⟨lands, requires⟩]
    exact hasLanded_pollLoad _ _ _

end Visit

theorem ends_of_navigate (lands : table.chain path = .lands landing)
    (done : (navigate table loader path).1 = .done result) : landing.Ends result := by
  have landed := (Visit.hasLanded_poll_begun lands loader).pollUpTo table
    (((Visit.begun path).poll table loader).1.pollsLeft ((Visit.begun path).poll table loader).2)
    ((Visit.begun path).poll table loader).2
  rw [navigate] at done
  rw [done] at landed
  cases landed with
  | done ends => exact ends

/-- How a navigation goes along the trail of its path. -/
structure Table.FollowsTrail (table : Table) (loader : Loader) (path : Text) : Prop where
  /-- The first path that is not redirected is that of a page, ten redirects away at most. -/
  lands : ∀ landing, table.chain path = .lands landing ↔
    ∃ count ≤ 10, (∀ i < count, table.Redirects (table.trail path i)) ∧
      table.resolve (table.trail path count) =
        some (.view landing.kind landing.requires landing.params) ∧
      landing.path = table.trail path count ∧
      landing.redirects = (List.range count).map (table.trail path)
  /-- A navigation that has landed ends with the page, or for want of the index. -/
  ends : ∀ landing, table.chain path = .lands landing →
    ((Visit.begun path).poll table loader).1.HasLanded landing ∧
      ∀ result, (navigate table loader path).1 = .done result → landing.Ends result
  shown : ∀ nav, (navigate table loader path).1 = .done (.ok nav) →
    ∃ landing packages, table.chain path = .lands landing ∧ nav = landing.navigation packages
  lost : ∀ last, (navigate table loader path).1 = .done (.error (.noRoute last)) ↔
    ∃ count ≤ 10, (∀ i < count, table.Redirects (table.trail path i)) ∧
      table.resolve (table.trail path count) = none ∧ last = table.trail path count
  loops : ∀ start, (navigate table loader path).1 = .done (.error (.redirectLoop start)) ↔
    start = table.trail path 0 ∧ ∀ i ≤ 10, table.Redirects (table.trail path i)
  /-- Eleven paths are looked up at most, the first ones of the trail. -/
  noted : (table.followNoting 10 (normalize path) []).1 = table.chain path ∧
    ∃ count ≤ 11, (table.followNoting 10 (normalize path) []).2 =
      (List.range count).map (table.trail path)
  reported : ∀ result, (navigate table loader path).1 = .done result →
    ∀ reported ∈ reportedPaths result, IsRooted reported

theorem navigate_cases (table : Table) (loader : Loader) (path : Text) :
    (table.chain path = .loops ∧
        navigate table loader path = (.done (.error (.redirectLoop (normalize path))), loader)) ∨
      (∃ last, table.chain path = .lost last ∧
        navigate table loader path = (.done (.error (.noRoute last)), loader)) ∨
      ∃ landing, table.chain path = .lands landing ∧
        ∀ result, (navigate table loader path).1 = .done result → landing.Ends result := by
  cases chain : table.chain path with
  | loops => exact .inl ⟨rfl, navigate_of_loops chain⟩
  | lost last => exact .inr (.inl ⟨last, rfl, navigate_of_lost chain⟩)
  | lands landing => exact .inr (.inr ⟨landing, rfl, fun _ => ends_of_navigate chain⟩)

theorem exists_of_navigate_eq_ok {nav : Navigation}
    (shown : (navigate table loader path).1 = .done (.ok nav)) :
    ∃ landing packages, table.chain path = .lands landing ∧ nav = landing.navigation packages := by
  rcases navigate_cases table loader path with ⟨_, ends⟩ | ⟨_, _, ends⟩ | ⟨landing, lands, ends⟩
  · rw [ends] at shown
    cases shown
  · rw [ends] at shown
    cases shown
  · cases ends _ shown with
    | shown packages => exact ⟨landing, packages, lands, rfl⟩

theorem navigate_eq_noRoute_iff {last : Text} :
    (navigate table loader path).1 = .done (.error (.noRoute last)) ↔
      table.chain path = .lost last := by
  constructor
  · intro failed
    rcases navigate_cases table loader path with ⟨_, ends⟩ | ⟨_, lost, ends⟩ | ⟨_, _, ends⟩
    · rw [ends] at failed
      cases failed
    · rw [ends] at failed
      cases failed
      exact lost
    · cases ends _ failed
  · intro lost
    rw [navigate_of_lost lost]

theorem navigate_eq_redirectLoop_iff {start : Text} :
    (navigate table loader path).1 = .done (.error (.redirectLoop start)) ↔
      start = normalize path ∧ table.chain path = .loops := by
  constructor
  · intro failed
    rcases navigate_cases table loader path with ⟨loops, ends⟩ | ⟨_, _, ends⟩ | ⟨_, _, ends⟩
    · rw [ends] at failed
      cases failed
      exact ⟨rfl, loops⟩
    · rw [ends] at failed
      cases failed
    · cases ends _ failed
  · rintro ⟨rfl, loops⟩
    rw [navigate_of_loops loops]

/-- All that is reported stands on the trail. -/
theorem exists_trail_of_reported {reported : Text}
    (done : (navigate table loader path).1 = .done result)
    (there : reported ∈ reportedPaths result) :
    ∃ count, reported = table.trail path count := by
  cases result with
  | ok nav =>
    obtain ⟨landing, packages, lands, rfl⟩ := exists_of_navigate_eq_ok done
    obtain ⟨count, _, _, _, last, redirects⟩ := Table.chain_eq_lands_iff.mp lands
    rcases List.mem_append.mp there with left | shown
    · rw [Landing.navigation, redirects] at left
      obtain ⟨earlier, _, rfl⟩ := List.mem_map.mp left
      exact ⟨earlier, rfl⟩
    · exact ⟨count, (List.mem_singleton.mp shown).trans last⟩
  | error error =>
    cases error with
    | loadFailed error => cases there
    | redirectLoop start =>
      obtain ⟨rfl, _⟩ := navigate_eq_redirectLoop_iff.mp done
      exact ⟨0, List.mem_singleton.mp there⟩
    | noRoute last =>
      obtain ⟨count, _, _, _, rfl⟩ := Table.chain_eq_lost_iff.mp (navigate_eq_noRoute_iff.mp done)
      exact ⟨count, List.mem_singleton.mp there⟩

/-- Navigations go along the trail of their path, whatever the routes and the state of the
loader. -/
theorem navigations_follow_their_trail (table : Table) (loader : Loader) (path : Text) :
    table.FollowsTrail loader path := by
  constructor
  case lands => exact fun _ => Table.chain_eq_lands_iff
  case ends =>
    intro landing lands
    exact ⟨Visit.hasLanded_poll_begun lands loader, fun _ => ends_of_navigate lands⟩
  case shown => exact fun _ => exists_of_navigate_eq_ok
  case lost => exact fun _ => navigate_eq_noRoute_iff.trans Table.chain_eq_lost_iff
  case loops =>
    intro start
    rw [navigate_eq_redirectLoop_iff, Table.chain_eq_loops_iff]
    rfl
  case noted =>
    refine ⟨Table.fst_followNoting table _ _ _, ?_⟩
    obtain ⟨count, few, noted⟩ := @Table.exists_snd_followNoting table path 0 10 []
    rw [← List.range_eq_range'] at noted
    exact ⟨count, few, noted⟩
  case reported =>
    intro result done reported there
    obtain ⟨count, rfl⟩ := exists_trail_of_reported done there
    exact Table.isRooted_of_normal (Table.normalize_trail count)

end DocBrowser
