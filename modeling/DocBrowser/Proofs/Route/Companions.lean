import DocBrowser.Proofs.Navigation.Redirects
import DocBrowser.Proofs.Route.Matching
import DocBrowser.Proofs.Route.Registration

/-!
Where companions lead. A companion stands after the view it is a redirect to, whatever is registered
in between, and that view takes the path it redirects to. So the route that takes the path after a
redirect stands before the redirect, and a chain of redirects ends in a view.
-/

namespace DocBrowser

open Pattern (toggleSlash ofText)

def Target.isRedirect : Target → Bool
  | .view _ _ => false
  | .redirect _ => true

/-- Of a path that the companion of a view takes, the view takes the path with the other choice of
slash. -/
theorem Pattern.exists_matches?_of_toggleSlash {text path : Text} {params : Params}
    (nonempty : text ≠ []) (normal : normalize path = path)
    (found : (ofText (toggleSlash text)).matches? path = some params) :
    ∃ other, normalize other = other ∧ (ofText text).matches? other = some params ∧
      (text = toggleSlash text ++ ['/'] ∧ other = path ++ ['/'] ∨
        toggleSlash text = text ++ ['/'] ∧ path = other ++ ['/']) := by
  have rooted : path.head? = some '/' := normal ▸ head?_normalize
  have whole : ∀ c ∈ path, endsPath c = false := fun c there =>
    endsPath_of_mem_normalize (normal.symm ▸ there)
  rcases toggleSlash_cases text with longer | longer
  · refine ⟨path ++ ['/'], normalize_eq_self ?_ ?_, ?_, .inl ⟨longer, rfl⟩⟩
    · simp [rooted]
    · intro c there
      rcases List.mem_append.mp there with inside | last
      · exact whole c inside
      · obtain rfl := List.mem_singleton.mp last
        rfl
    · rw [longer]
      exact matches?_append_slash found
  · rw [longer] at found
    obtain ⟨shorter, rfl, matched⟩ := exists_of_matches?_append_slash found
    refine ⟨shorter, normalize_eq_self ?_ ?_, matched, .inr ⟨longer, rfl⟩⟩
    · cases shorter with
      | nil => exact absurd (eq_nil_of_matches?_nil matched) nonempty
      | cons c rest => simpa using rooted
    · exact fun c there => whole c (List.mem_append_left _ there)

/-- The view takes the path with the other choice of slash, which has its companion filled in. -/
theorem Pattern.matches?_interpolate {text path : Text} {params : Params} (nonempty : text ≠ [])
    (parsed : parse text = .ok (ofText text)) (plain : '%' ∉ path) (normal : normalize path = path)
    (found : (ofText (toggleSlash text)).matches? path = some params) :
    (ofText text).matches? (interpolate text params) = some params ∧
      normalize (interpolate text params) = interpolate text params ∧
      '%' ∉ interpolate text params := by
  have distinct := (parse_eq_ok_iff.mp parsed).2.2
  obtain ⟨other, still, matched, slash⟩ := exists_matches?_of_toggleSlash nonempty normal found
  have plain : '%' ∉ other := by
    rcases slash with ⟨_, rfl⟩ | ⟨_, rfl⟩
    · simpa using plain
    · exact fun there => plain (List.mem_append_left _ there)
  rw [interpolate_of_matches? distinct plain matched]
  exact ⟨matched, still, plain⟩

namespace Table

/-- Routes that were added one after another, views and companions of views that stood there. -/
inductive Grounded : List Route → Prop
  | nil : Grounded []
  | view {routes : List Route} (pattern : Pattern) (kind : ViewKind)
      (requires : Option Prerequisite) : Grounded routes →
      Grounded (routes ++ [⟨pattern, .view kind requires⟩])
  | companion {routes : List Route} {text : Text} {kind : ViewKind}
      {requires : Option Prerequisite} : Grounded routes → text ≠ [] →
      Pattern.parse text = .ok (ofText text) → ⟨ofText text, .view kind requires⟩ ∈ routes →
      Grounded (routes ++ [⟨ofText (toggleSlash text), .redirect text⟩])

variable {table : Table} {routes first rest : List Route} {route : Route} {pattern : Pattern}
  {target : Target} {text path : Text} {kind : ViewKind} {requires : Option Prerequisite}
  {registrations : List Registration}

/-! Registering views. -/

theorem insertRoute_append (pattern : Pattern) (target : Target) (first rest : List Route) :
    insertRoute pattern target (first ++ rest) =
      if pattern ∈ first.map Route.pattern then insertRoute pattern target first ++ rest
      else first ++ insertRoute pattern target rest := by
  induction first with
  | nil => rfl
  | cons route first ih =>
    by_cases here : route.pattern = pattern
    · simp [insertRoute, here]
    · simp only [List.cons_append, insertRoute, here, if_false, ih, List.map_cons, List.mem_cons,
        Ne.symm here, false_or]
      split <;> rfl

theorem insertRoute_of_not_mem (absent : pattern ∉ routes.map Route.pattern) (target : Target) :
    insertRoute pattern target routes = routes ++ [⟨pattern, target⟩] := by
  have added := insertRoute_append pattern target routes []
  rwa [List.append_nil, if_neg absent] at added

theorem mem_insertRoute (pattern : Pattern) (target : Target) (routes : List Route) :
    ⟨pattern, target⟩ ∈ insertRoute pattern target routes := by
  induction routes with
  | nil => exact List.mem_singleton_self _
  | cons route rest ih =>
    rw [insertRoute]
    split
    · exact List.mem_cons_self
    · exact .tail _ ih

/-- What is registered later either leaves a route or gives its pattern a new target. -/
theorem mem_insertRoute_of_mem (there : route ∈ routes) (pattern : Pattern) (target : Target) :
    route ∈ insertRoute pattern target routes ∨
      route.pattern = pattern ∧ ⟨route.pattern, target⟩ ∈ insertRoute pattern target routes := by
  by_cases same : route.pattern = pattern
  · exact .inr ⟨same, same ▸ mem_insertRoute _ _ _⟩
  · left
    induction routes with
    | nil => cases there
    | cons first rest ih =>
      rw [insertRoute]
      rcases List.mem_cons.mp there with rfl | later
      · rw [if_neg same]
        exact List.mem_cons_self
      · split
        · exact .tail _ later
        · exact .tail _ (ih later)

namespace Grounded

theorem insertRoute (grounded : Grounded routes) (pattern : Pattern) (kind : ViewKind)
    (requires : Option Prerequisite) :
    Grounded (insertRoute pattern (.view kind requires) routes) := by
  -- A new pattern comes last, after routes that are as they were.
  have last : ∀ {routes route}, Grounded routes → Grounded (routes ++ [route]) →
      Grounded (routes ++ Table.insertRoute pattern (.view kind requires) [route]) := by
    intro routes route before whole
    rw [Table.insertRoute]
    split
    · exact .view _ _ _ before
    · have added := Grounded.view pattern kind requires whole
      rwa [List.append_assoc] at added
  induction grounded with
  | nil => exact .view pattern kind requires .nil
  | view other kind requires grounded ih =>
    rw [insertRoute_append]
    split
    · exact .view _ _ _ ih
    · exact last grounded (.view _ _ _ grounded)
  | @companion routes text kind requires grounded nonempty parsed there ih =>
    rw [insertRoute_append]
    split
    · rcases mem_insertRoute_of_mem there pattern (.view _ _) with still | ⟨_, again⟩
      · exact .companion ih nonempty parsed still
      · exact .companion ih nonempty parsed again
    · exact last grounded (.companion grounded nonempty parsed there)

theorem withCompanion (grounded : Grounded table.routes) (nonempty : text ≠ [])
    (parsed : Pattern.parse text = .ok (ofText text))
    (there : ⟨ofText text, .view kind requires⟩ ∈ table.routes) :
    Grounded (table.withCompanion text).routes := by
  rw [Table.withCompanion]
  split
  · exact grounded
  · next new =>
    have absent : ofText (toggleSlash text) ∉ table.routes.map Route.pattern := by
      intro held
      obtain ⟨route, there, same⟩ := List.mem_map.mp held
      exact new (.inr (List.any_eq_true.mpr ⟨route, there, by simpa using same⟩))
    rw [Table.insert, insertRoute_of_not_mem absent]
    exact .companion grounded nonempty parsed there

theorem registerAll (grounded : Grounded table.routes)
    (views : ∀ registration ∈ registrations, ∃ text kind requires,
      registration = .view text kind requires ∧ text ≠ []) :
    Grounded (table.registerAll registrations).routes := by
  induction registrations generalizing table with
  | nil => exact grounded
  | cons registration rest ih =>
    have ⟨first, later⟩ := List.forall_mem_cons.mp views
    obtain ⟨text, kind, requires, rfl, nonempty⟩ := first
    rw [Table.registerAll, Table.register]
    cases parsed : Pattern.parse text with
    | error error =>
      rw [addView_eq_error parsed]
      exact ih grounded later
    | ok pattern =>
      obtain ⟨rfl, _⟩ := Pattern.parse_eq_ok_iff.mp parsed
      rw [addView_eq parsed]
      have own := grounded.insertRoute (ofText text) kind requires
      exact ih (own.withCompanion nonempty parsed (mem_insertRoute _ _ _)) later

end Grounded

/-! Following companions. -/

/-- Of a match among some routes and one more, either it is among them or the last one decides. -/
theorem resolve_of_last (split : table.routes = first ++ [route] ++ rest)
    (found : firstMatch? (normalize path) (first ++ [route]) ≠ none) :
    firstMatch? (normalize path) first ≠ none ∨
      ∃ params, route.pattern.matches? (normalize path) = some params ∧
        table.resolve path = some (resolution params route.target) := by
  cases earlier : firstMatch? (normalize path) first with
  | some resolution => exact .inl (by simp)
  | none =>
    right
    rw [firstMatch?_append, earlier, Option.none_or, firstMatch?] at found
    cases matched : route.pattern.matches? (normalize path) with
    | none =>
      rw [matched] at found
      exact absurd rfl found
    | some params =>
      refine ⟨params, rfl, ?_⟩
      rw [List.append_assoc] at split
      rw [resolve, split, List.singleton_append,
        firstMatch?_of_split (firstMatch?_eq_none_iff.mp earlier) matched]

/-- Each redirect on the way is one of the routes before the first match, or the match itself. -/
theorem Grounded.exists_reaches (grounded : Grounded first) (split : table.routes = first ++ rest)
    (plain : '%' ∉ path) (found : firstMatch? (normalize path) first ≠ none) :
    ∃ landing, table.Reaches path landing ∧
      landing.redirects.length ≤ first.countP (·.target.isRedirect) := by
  induction grounded generalizing path rest with
  | nil => exact absurd rfl found
  | @view routes pattern kind requires grounded ih =>
    rw [List.countP_append]
    rcases resolve_of_last split found with earlier | ⟨params, matched, resolves⟩
    · rw [List.append_assoc] at split
      obtain ⟨landing, reaches, few⟩ := ih split plain earlier
      exact ⟨landing, reaches, Nat.le_add_right_of_le few⟩
    · exact ⟨_, .of_view resolves, Nat.zero_le _⟩
  | @companion routes text kind requires grounded nonempty parsed there ih =>
    rw [List.countP_append]
    rcases resolve_of_last split found with earlier | ⟨params, matched, resolves⟩
    · rw [List.append_assoc] at split
      obtain ⟨landing, reaches, few⟩ := ih split plain earlier
      exact ⟨landing, reaches, Nat.le_add_right_of_le few⟩
    · have still : '%' ∉ normalize path := by
        intro sign
        rcases eq_slash_or_mem_of_mem_normalize sign with slash | inside
        · cases slash
        · exact plain inside
      obtain ⟨taken, normal, whole⟩ :=
        Pattern.matches?_interpolate nonempty parsed still normalize_normalize matched
      have earlier : firstMatch? (normalize (Pattern.interpolate text params)) routes ≠ none := by
        intro unmatched
        have missed := firstMatch?_eq_none_iff.mp unmatched _ there
        rw [normal, taken] at missed
        cases missed
      rw [List.append_assoc] at split
      obtain ⟨landing, reaches, few⟩ := ih split whole earlier
      exact ⟨_, .of_redirect resolves reaches, Nat.succ_le_succ few⟩

/-- In a table of views, a redirect leads to a view, over no more redirects than the table has and
over no path twice. -/
theorem companions_lead_to_views
    (views : ∀ registration ∈ registrations, ∃ text kind requires,
      registration = .view text kind requires ∧ text ≠ [])
    (plain : '%' ∉ path) {first : Text}
    (resolves : (({} : Table).registerAll registrations).resolve path = some (.redirect first)) :
    ∃ landing, (({} : Table).registerAll registrations).Reaches first landing ∧
      (normalize path :: landing.redirects).length ≤
        (({} : Table).registerAll registrations).routes.countP (·.target.isRedirect) ∧
      (normalize path :: landing.redirects ++ [landing.path]).Nodup := by
  generalize made : ({} : Table).registerAll registrations = table at resolves ⊢
  have grounded : Grounded table.routes := by
    rw [← made]
    exact Grounded.nil.registerAll views
  have closed : table.otherwise = none := by
    rw [← made, (records_nil.registerAll registrations).otherwise_eq,
      Registration.lastOtherwise?, List.findSome?_eq_none_iff]
    intro registration there
    have among := List.mem_reverse.mp there
    rw [List.nil_append] at among
    obtain ⟨_, _, _, rfl, _⟩ := views registration (List.mem_filter.mp among).1
    rfl
  have found : firstMatch? (normalize path) table.routes ≠ none := by
    intro unmatched
    rw [resolve, unmatched, closed] at resolves
    cases resolves
  obtain ⟨landing, reaches, few⟩ := grounded.exists_reaches (List.append_nil _).symm plain found
  obtain ⟨later, redirects, onward⟩ := reaches.exists_of_redirect resolves
  have once := reaches.nodup
  rw [redirects] at few once
  exact ⟨_, onward, few, once⟩

/-- Two views whose companions lead from `/a` over two redirects. -/
theorem overlapping_companions_lead_to_view :
    let views : List Registration := [.view "/a//" .front none, .view "/:x/" .package none]
    let table := ({} : Table).registerAll views
    (∀ registration ∈ views, ∃ text kind requires,
      registration = .view text kind requires ∧ text ≠ []) ∧
    '%' ∉ ("/a" : Text) ∧ table.resolve "/a" = some (.redirect "/a/") ∧
    ∃ landing, table.Reaches "/a/" landing ∧
      (normalize "/a" :: landing.redirects).length ≤
        table.routes.countP (·.target.isRedirect) ∧
      (normalize "/a" :: landing.redirects ++ [landing.path]).Nodup := by
  intro views table
  have given : ∀ registration ∈ views, ∃ text kind requires,
      registration = .view text kind requires ∧ text ≠ [] := by
    simp [views]
  have plain : '%' ∉ ("/a" : Text) := by decide
  have resolves : table.resolve "/a" = some (.redirect "/a/") := by rfl
  exact ⟨given, plain, resolves, companions_lead_to_views given plain resolves⟩

end Table

end DocBrowser
