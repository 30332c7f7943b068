import DocBrowser.Proofs.Navigation.Outcome
import DocBrowser.Proofs.Route.Standard

/-!
Every path leads to a page of the browser. A redirect is built from decoded parameters, which may
divide the path anew and lead to another redirect, but each such step costs a percent sign.
-/

namespace DocBrowser

open Percent (decode dividers)

variable {path target : Text}

theorem count_normalize_le (path : Text) : (normalize path).count '%' ≤ path.count '%' := by
  have kept := (List.takeWhile_sublist (l := path) (!endsPath ·)).count_le '%'
  rw [normalize]
  split
  · exact kept
  · simpa using kept

namespace Table

/-- After a redirect comes a page, or there are fewer percent signs. -/
theorem view_or_count_lt (resolves : browser.resolve path = some (.redirect target)) :
    (∃ kind requires params, browser.resolve target = some (.view kind requires params)) ∨
      (normalize target).count '%' < (normalize path).count '%' := by
  have joined := ofSegments_segments (normalize path)
  have undivided := fun part => @undivided_of_mem_segments path part
  have shorter := count_normalize_le target
  rw [resolve_browser, Option.some.injEq] at resolves
  rcases eq_of_decision resolves with rfl | ⟨rest, parts, redirected⟩
  · exact .inl ⟨.front, none, [], by rfl⟩
  rw [parts] at joined undivided
  rw [← joined]
  rcases eq_of_documented redirected with
    rfl | ⟨package, some, rfl, rfl⟩ | ⟨package, type, somePackage, someType, rfl, rfl⟩
  · exact .inl ⟨.front, none, [], by rfl⟩
  -- A target whose parameters are whole is the path of their page. One that is divided anew has
  -- lost the percent sign of the divider.
  · rcases Percent.undivided_or_count_decode_lt (undivided package (by simp)) with whole | fewer
    · exact .inl ⟨_, _, _, resolve_package (Percent.decode_ne_nil some) whole⟩
    · right
      apply Nat.lt_of_le_of_lt shorter
      simpa using fewer
  · have packageLe := Percent.count_decode_le package
    have typeLe := Percent.count_decode_le type
    have total : ∀ package type : Text, (ofSegments [[], "docs", package, type]).count '%' =
        package.count '%' + type.count '%' := by
      simp
    have before : (ofSegments [[], "docs", package, type, []]).count '%' =
        package.count '%' + type.count '%' := by
      simp
    rw [total] at shorter
    rw [before]
    rcases Percent.undivided_or_count_decode_lt (undivided package (by simp)) with whole | fewer
    · rcases Percent.undivided_or_count_decode_lt (undivided type (by simp)) with wholeType | fewer
      · exact .inl ⟨_, _, _, resolve_type (Percent.decode_ne_nil somePackage)
          (Percent.decode_ne_nil someType) whole wholeType⟩
      · exact .inr (by omega)
    · exact .inr (by omega)

/-- Every path leads to a page, over one redirect more than it has percent signs at most. -/
theorem exists_reaches (path : Text) :
    ∃ landing, browser.Reaches path landing ∧
      landing.redirects.length ≤ (normalize path).count '%' + 1 := by
  induction signs : (normalize path).count '%' using Nat.strong_induction_on generalizing path with
  | _ signs ih =>
    cases resolves : browser.resolve path with
    | none => simp [resolve_browser] at resolves
    | some found =>
      cases found with
      | view kind requires params => exact ⟨_, .of_view resolves, Nat.zero_le _⟩
      | redirect target =>
        rcases view_or_count_lt resolves with ⟨kind, requires, params, shown⟩ | fewer
        · exact ⟨_, .of_redirect resolves (.of_view shown), Nat.le_add_left _ _⟩
        · obtain ⟨landing, reaches, bound⟩ := ih _ (signs ▸ fewer) target rfl
          refine ⟨_, .of_redirect resolves reaches, ?_⟩
          simp only [List.length_cons]
          omega

end Table

/-! Each percent sign can cost a redirect. -/

/-- What follows the percent sign of a slash that is escaped over and over. -/
def rung : Nat → Text
  | 0 => "2F"
  | again + 1 => '2' :: '5' :: rung again

/-- Slashes that are escaped once, twice and so on, the most often escaped one first. -/
def ladder : Nat → Text
  | 0 => []
  | rungs + 1 => '%' :: rung rungs ++ ladder rungs

theorem unreserved_of_mem_rung (again : Nat) : ∀ c ∈ rung again, c ∉ '%' :: dividers := by
  induction again with
  | zero => simp [rung, dividers]
  | succ again ih =>
    intro c there
    rcases List.mem_cons.mp there with rfl | there
    · decide
    rcases List.mem_cons.mp there with rfl | there
    · decide
    · exact ih c there

theorem count_ladder (rungs : Nat) : (ladder rungs).count '%' = rungs := by
  induction rungs with
  | zero => rfl
  | succ rungs ih =>
    have none : (rung rungs).count '%' = 0 := by
      rw [List.count_eq_zero]
      intro sign
      exact unreserved_of_mem_rung rungs '%' sign List.mem_cons_self
    simp [ladder, ih, none]

theorem writes_ladder (rungs : Nat) :
    Percent.Writes (ladder rungs ++ ['/']) (ladder (rungs + 1)) := by
  induction rungs with
  | zero => exact .escaped (.cons (h := 2) (l := 15) rfl rfl rfl .nil) .nil
  | succ rungs ih =>
    have rest := ih.keep (unreserved_of_mem_rung rungs)
    have sign : Percent.Escapes (Utf8.encodeChar '%') "%25" :=
      .cons (h := 2) (l := 5) rfl rfl rfl .nil
    have all := Percent.Writes.escaped sign rest
    simpa [ladder, rung] using all

theorem whole_ladder (rungs : Nat) : ∀ c ∈ 'b' :: ladder rungs, c ∉ dividers := by
  intro c there
  rcases List.mem_cons.mp there with rfl | there
  · decide
  · cases rungs with
    | zero => cases there
    | succ rungs => exact (writes_ladder rungs).not_mem c there

/-- The path of a type whose name ends in escaped slashes, with a slash after it. -/
def climb (rungs : Nat) : Text := ofSegments [[], "docs", "a", 'b' :: ladder rungs, []]

/-- The redirect from such a path decodes each slash once, and the last one to a slash. -/
theorem resolve_climb (rungs : Nat) :
    Table.browser.resolve (climb (rungs + 1)) = some (.redirect (climb rungs)) := by
  have written : Percent.Writes ('b' :: (ladder rungs ++ ['/'])) ('b' :: ladder (rungs + 1)) :=
    .kept (by decide) (writes_ladder rungs)
  have package : decode "a" = "a" := by rfl
  have whole : ∀ c ∈ ("a" : Text), c ∉ dividers := by simp [dividers]
  rw [climb, Table.resolve_type_slash (by decide) (List.cons_ne_nil _ _) whole (whole_ladder _),
    written.decode_eq, package]
  simp [climb]

theorem normalize_climb (rungs : Nat) : normalize (climb rungs) = climb rungs := by
  apply Table.normalize_ofSegments
  intro part there
  simp only [List.mem_cons, List.not_mem_nil, or_false] at there
  rcases there with rfl | rfl | rfl | rfl | rfl
  · simp
  · simp [dividers]
  · simp [dividers]
  · exact whole_ladder rungs
  · simp

theorem exists_leads_climb (rungs : Nat) :
    ∃ left, left.length = rungs + 1 ∧ Table.browser.Leads (climb rungs) left "/docs/a/b" := by
  induction rungs with
  | zero =>
    have last : Table.browser.resolve (climb 0) = some (.redirect "/docs/a/b") := by rfl
    exact ⟨[climb 0], rfl, .redirect last (.here _)⟩
  | succ rungs ih =>
    obtain ⟨left, length, leads⟩ := ih
    rw [← normalize_climb] at leads
    exact ⟨climb (rungs + 1) :: left, by simp [length], .redirect (resolve_climb rungs) leads⟩

theorem count_climb (rungs : Nat) : (climb rungs).count '%' = rungs := by
  simp [climb, count_ladder]

/-- For each number of percent signs there is a path with as many redirects as it can have. -/
theorem exists_reaches_climb (rungs : Nat) :
    ∃ landing, Table.browser.Reaches (climb rungs) landing ∧
      landing.redirects.length = (climb rungs).count '%' + 1 := by
  obtain ⟨left, length, leads⟩ := exists_leads_climb rungs
  rw [count_climb]
  refine ⟨⟨"/docs/a/b", left, .type, some .packages, [("package", "a"), ("type", "b")]⟩, ?_, length⟩
  constructor
  case leads => rwa [normalize_climb]
  case landsOn => exact ⟨by rfl, by rfl⟩

/-- Every path leads to a page of the browser, over one redirect more than it has percent signs at
most. The page is shown if there are no more redirects than are followed, and else that is the error;
whether the index is loaded already makes no difference. -/
theorem every_path_leads_to_a_page :
    ∃ table, Table.standard = .ok table ∧
      ∀ path, ∃ landing, table.Reaches path landing ∧
        landing.redirects.length ≤ path.count '%' + 1 ∧
        ∀ (loader : Loader) (shared : SharedIndex),
          loader.Consistent → loader.prospect = .ok shared →
          (landing.redirects.length ≤ maxRedirects →
            ∃ packages,
              (navigate table loader path).1 = .done (.ok (landing.navigation packages)) ∧
                (landing.requires = some .packages → packages = some shared.index)) ∧
          (maxRedirects < landing.redirects.length →
            navigate table loader path =
              (.done (.error (.redirectLoop (normalize path))), loader)) := by
  refine ⟨.browser, Table.standard_eq, ?_⟩
  intro path
  obtain ⟨landing, reaches, bound⟩ := Table.exists_reaches path
  have signs := count_normalize_le path
  refine ⟨landing, reaches, by omega, ?_⟩
  intro loader shared consistent there
  constructor
  · intro few
    exact reaches.navigate_of_le few consistent there
  · intro many
    exact navigate_of_loops (reaches.chain_of_lt many)

/-- A page one redirect away is shown. -/
theorem documented_page_is_shown :
    let loader := Loader.new (.constant "index" (.ok [0x7B, 0x7D]))
    loader.Consistent ∧ (∃ shared, loader.prospect = .ok shared) ∧
      ∃ table, Table.standard = .ok table ∧ ∃ landing packages,
        table.Reaches "/docs/a" landing ∧
        (navigate table loader "/docs/a").1 = .done (.ok (landing.navigation packages)) := by
  intro loader
  have consistent : loader.Consistent := Loader.consistent_new _
  obtain ⟨shared, there⟩ : ∃ shared, loader.prospect = .ok shared := ⟨_, rfl⟩
  obtain ⟨table, standard, pages⟩ := every_path_leads_to_a_page
  obtain ⟨landing, reaches, bound, ends⟩ := pages "/docs/a"
  have few : landing.redirects.length ≤ maxRedirects := Nat.le_trans bound (by decide)
  obtain ⟨packages, shown, _⟩ := (ends loader shared consistent there).1 few
  exact ⟨consistent, ⟨shared, there⟩, table, standard, landing, packages, reaches, shown⟩

/-- The path takes eleven redirects, one more than are followed. -/
theorem eleven_redirects_loop :
    let loader := Loader.new (.constant "index" (.ok [0x7B, 0x7D]))
    let path : Text := "/docs/a/b%2525252525252525252F%25252525252525252F%252525252525252F" ++
      "%2525252525252F%25252525252F%252525252F%2525252F%25252F%252F%2F/"
    (∃ shared, loader.prospect = .ok shared) ∧
      ∃ table, Table.standard = .ok table ∧
        navigate table loader path = (.done (.error (.redirectLoop path)), loader) := by
  intro loader path
  have climbs : path = climb 10 := by rfl
  refine ⟨⟨_, rfl⟩, .browser, Table.standard_eq, ?_⟩
  obtain ⟨landing, reaches, length⟩ := exists_reaches_climb 10
  have many : maxRedirects < landing.redirects.length := by
    rw [length, count_climb]
    decide
  rw [climbs, navigate_of_loops (reaches.chain_of_lt many), normalize_climb]

end DocBrowser
