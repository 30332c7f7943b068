import DocBrowser.Proofs.Route.Matching
import DocBrowser.Proofs.Route.Registration
import DocBrowser.Proofs.Route.Standard
import Mathlib.Data.List.Nodup

/-!
When the order of registrations does not matter: a table resolves every path in the same way if its
registrations are made in another order, as long as they mention different patterns and no path is
matched by two routes. Both are decided on the patterns alone, and both hold of the routes of the
browser. What those make of a path is said by `Table.Addresses`.
-/

namespace DocBrowser

open Pattern (toggleSlash)

/-- Where at most one item gives a result, the first result does not hang on the order. -/
theorem findSome?_eq_of_perm {α β : Type} {f : α → Option β} {xs ys : List α}
    (rearranged : xs.Perm ys) (alone : xs.Pairwise fun x y => f x = none ∨ f y = none) :
    xs.findSome? f = ys.findSome? f := by
  induction rearranged with
  | nil => rfl
  | cons x _ ih =>
    rw [List.findSome?_cons, List.findSome?_cons, ih (List.pairwise_cons.mp alone).2]
  | swap x y rest =>
    have one := (List.pairwise_cons.mp alone).1 x List.mem_cons_self
    simp only [List.findSome?_cons]
    rcases one with none | none
    · rw [none]
    · rw [none]
  | trans first _ ih ih' =>
    -- That at most one item gives a result is symmetric, so it holds in every order.
    have still := (first.pairwise_iff fun {_ _} => Or.symm).mp alone
    rw [ih alone, ih' still]

/-! Patterns that match a path in common. -/

namespace Segment

/-- The segments of a path that a segment of a pattern matches. -/
def Takes (part : Text) : Segment → Prop
  | .literal text => part = text
  | .param _ => part ≠ []

/-- Whether two segments of patterns match a segment of a path in common. -/
def overlaps : Segment → Segment → Bool
  | .literal text, .literal other => text = other
  | .literal text, .param _ => text ≠ []
  | .param _, .literal text => text ≠ []
  | .param _, .param _ => true

theorem overlaps_iff {segment other : Segment} :
    segment.overlaps other = true ↔ ∃ part, segment.Takes part ∧ other.Takes part := by
  cases segment with
  | literal text => cases other <;> simp [overlaps, Takes]
  | param name =>
    cases other with
    | literal text => simp [overlaps, Takes]
    | param other => simpa [overlaps, Takes] using ⟨['x'], List.cons_ne_nil _ _⟩

end Segment

namespace Pattern

/-- Whether two patterns match the segments of a path in common. -/
def overlaps : List Segment → List Segment → Bool
  | [], [] => true
  | segment :: rest, other :: others => segment.overlaps other && overlaps rest others
  | _, _ => false

variable {segment : Segment} {parts rest others : List Segment} {given : List Text}

theorem matchSegments_cons_ne_none_iff :
    matchSegments (segment :: rest) given ≠ none ↔
      ∃ part later, given = part :: later ∧ segment.Takes part ∧
        matchSegments rest later ≠ none := by
  simp only [Option.ne_none_iff_exists']
  cases segment with
  | literal text =>
    simp only [matchSegments_literal_iff]
    constructor
    · rintro ⟨params, later, rfl, found⟩
      exact ⟨text, later, rfl, rfl, params, found⟩
    · rintro ⟨_, later, rfl, rfl, params, found⟩
      exact ⟨params, later, rfl, found⟩
  | param name =>
    simp only [matchSegments_param_iff]
    constructor
    · rintro ⟨_, part, later, params, rfl, nonempty, found, rfl⟩
      exact ⟨part, later, rfl, nonempty, params, found⟩
    · rintro ⟨part, later, rfl, nonempty, params, found⟩
      exact ⟨_, part, later, params, rfl, nonempty, found, rfl⟩

theorem overlaps_iff :
    overlaps parts others = true ↔
      ∃ given, matchSegments parts given ≠ none ∧ matchSegments others given ≠ none := by
  induction parts generalizing others with
  | nil =>
    cases others with
    | nil => simpa [overlaps] using ⟨[], by simp [matchSegments]⟩
    | cons other others =>
      simp only [overlaps, Bool.false_eq_true, matchSegments_cons_ne_none_iff, false_iff]
      rintro ⟨_, ended, part, later, rfl, _⟩
      simp [matchSegments] at ended
  | cons segment rest ih =>
    cases others with
    | nil =>
      simp only [overlaps, Bool.false_eq_true, matchSegments_cons_ne_none_iff, false_iff]
      rintro ⟨_, ⟨part, later, rfl, _⟩, ended⟩
      simp [matchSegments] at ended
    | cons other others =>
      simp only [overlaps, Bool.and_eq_true, Segment.overlaps_iff, ih,
        matchSegments_cons_ne_none_iff]
      constructor
      · rintro ⟨⟨part, taken, taken'⟩, later, found, found'⟩
        exact ⟨_, ⟨part, later, rfl, taken, found⟩, part, later, rfl, taken', found'⟩
      · rintro ⟨_, ⟨part, later, rfl, taken, found⟩, _, _, same, taken', found'⟩
        cases same
        exact ⟨⟨part, taken, taken'⟩, later, found, found'⟩

/-- Patterns of one length may differ just in whether a segment is empty. -/
example : overlaps [.param "package", .literal []] [.param "package", .param "type"] = false := by
  decide

end Pattern

namespace Registration

/-- Whether no pattern is mentioned by both. -/
def Independent (registration other : Registration) : Prop :=
  ∀ text ∈ registration.mentions, text ∉ other.mentions

instance (registration other : Registration) : Decidable (registration.Independent other) :=
  inferInstanceAs (Decidable (∀ text ∈ registration.mentions, text ∉ other.mentions))

variable {registration other : Registration} {done order : List Registration} {text view : Text}
  {target : Target}

theorem mem_mentions_of_target? (given : registration.target? text = some target) :
    text ∈ registration.mentions := by
  cases registration with
  | view own kind requires =>
    have named : own = text := by
      by_contra different
      simp [target?, different] at given
    rw [mentions]
    split <;> simp [named]
  | redirect own template =>
    have named : own = text := by
      by_contra different
      simp [target?, different] at given
    simp [mentions, named]
  | otherwise path => cases given

theorem mem_mentions_of_viewOf? (given : registration.viewOf? text = some view) :
    text ∈ registration.mentions := by
  cases registration with
  | view own kind requires =>
    have toggled : toggleSlash own = text ∧ text ≠ [] := by
      by_contra different
      simp [viewOf?, different] at given
    obtain ⟨rfl, nonempty⟩ := toggled
    simp [mentions, nonempty]
  | redirect own template => cases given
  | otherwise path => cases given

/-- What only a mention of a pattern can give is given by one of two independent registrations. -/
theorem Independent.eq_none {α : Type} {given : Registration → Option α}
    (independent : registration.Independent other)
    (mentioned : ∀ registration a, given registration = some a → text ∈ registration.mentions) :
    given registration = none ∨ given other = none := by
  by_contra both
  obtain ⟨own, others⟩ := not_or.mp both
  obtain ⟨_, own⟩ := Option.ne_none_iff_exists'.mp own
  obtain ⟨_, others⟩ := Option.ne_none_iff_exists'.mp others
  exact independent text (mentioned _ _ own) (mentioned _ _ others)

section Perm

variable (rearranged : done.Perm order) (independent : done.Pairwise Independent) (pattern : Text)

include rearranged independent

theorem lastTarget?_eq_of_perm : lastTarget? done pattern = lastTarget? order pattern := by
  have backwards : done.reverse.Perm order.reverse :=
    (List.reverse_perm done).trans (rearranged.trans (List.reverse_perm order).symm)
  apply findSome?_eq_of_perm backwards
  rw [List.pairwise_reverse]
  exact independent.imp fun apart => (apart.eq_none fun _ _ => mem_mentions_of_target?).symm

theorem firstView?_eq_of_perm : firstView? done pattern = firstView? order pattern := by
  apply findSome?_eq_of_perm rearranged
  exact independent.imp fun apart => apart.eq_none fun _ _ => mem_mentions_of_viewOf?

end Perm

end Registration

namespace Table

open Percent (decode)

variable {table other : Table} {routes : List Route} {done order : List Registration} {path : Text}

/-- That no path is matched by both. -/
def Apart (route other : Route) : Prop :=
  ∀ path, route.pattern.matches? path = none ∨ other.pattern.matches? path = none

/-- Patterns that are read from their texts are apart if their segments never overlap. -/
theorem apart_of_not_overlaps {route other : Route}
    (read : route.pattern = .ofText route.pattern.text)
    (read' : other.pattern = .ofText other.pattern.text)
    (never : Pattern.overlaps (Pattern.segments route.pattern.text)
      (Pattern.segments other.pattern.text) = false) :
    Apart route other := by
  intro path
  rw [read, read', Pattern.matches?_ofText, Pattern.matches?_ofText]
  by_contra both
  obtain ⟨found, found'⟩ := not_or.mp both
  have common := Pattern.overlaps_iff.mpr ⟨segments path, found, found'⟩
  rw [never] at common
  cases common

theorem firstMatch?_eq_findSome? (path : Text) (routes : List Route) :
    firstMatch? path routes = routes.findSome? fun route =>
      (route.pattern.matches? path).map (resolution · route.target) := by
  induction routes with
  | nil => rfl
  | cons route rest ih =>
    rw [firstMatch?, List.findSome?_cons, ih]
    cases route.pattern.matches? path <;> rfl

/-- Of routes that are apart, the order does not matter. -/
theorem resolve_eq_of_perm (table other : Table) (rearranged : table.routes.Perm other.routes)
    (apart : table.routes.Pairwise Apart) (same : table.otherwise = other.otherwise)
    (path : Text) : table.resolve path = other.resolve path := by
  have first : firstMatch? (normalize path) table.routes =
      firstMatch? (normalize path) other.routes := by
    rw [firstMatch?_eq_findSome?, firstMatch?_eq_findSome?]
    apply findSome?_eq_of_perm rearranged
    simp only [Option.map_eq_none_iff]
    exact apart.imp fun never => never (normalize path)
  rw [resolve, resolve, first, same]

/-- Where patterns differ, a pattern leads to the target of its own route. -/
theorem target?_eq_some_iff (distinct : (texts routes).Nodup) {text : Text} {target : Target} :
    target? text routes = some target ↔
      ∃ route ∈ routes, route.pattern.text = text ∧ route.target = target := by
  constructor
  · intro found
    obtain ⟨route, first, held⟩ := Option.map_eq_some_iff.mp found
    exact ⟨route, List.mem_of_find?_eq_some first, by simpa using List.find?_some first, held⟩
  · rintro ⟨route, there, rfl, rfl⟩
    have found : target? route.pattern.text routes ≠ none := fun absent =>
      target?_eq_none_iff.mp absent (List.mem_map_of_mem there)
    obtain ⟨target, found⟩ := Option.ne_none_iff_exists'.mp found
    obtain ⟨held, first, rfl⟩ := Option.map_eq_some_iff.mp found
    have named : held.pattern.text = route.pattern.text := by simpa using List.find?_some first
    obtain rfl := List.inj_on_of_nodup_map distinct (List.mem_of_find?_eq_some first) there named
    exact found

theorem mem_iff_target? (readable : Readable routes) (distinct : (texts routes).Nodup)
    {route : Route} :
    route ∈ routes ↔ Pattern.parse route.pattern.text = .ok route.pattern ∧
      target? route.pattern.text routes = some route.target := by
  rw [target?_eq_some_iff distinct]
  constructor
  · intro there
    exact ⟨readable route there, route, there, rfl, rfl⟩
  · rintro ⟨parsed, held, there, named, aimed⟩
    have own : held.pattern = route.pattern := (eq_iff_text_eq readable there parsed).mpr named
    rcases held with ⟨pattern, target⟩
    rcases route with ⟨pattern', target'⟩
    obtain ⟨rfl, rfl⟩ : pattern = pattern' ∧ target = target' := ⟨own, aimed⟩
    exact there

namespace Records

theorem routes_nodup (records : table.Records done) : table.routes.Nodup :=
  records.nodup.of_map

/-- Independent registrations make the same routes in any order. -/
theorem routes_perm (records : table.Records done) (again : other.Records order)
    (rearranged : done.Perm order) (independent : done.Pairwise Registration.Independent) :
    table.routes.Perm other.routes := by
  rw [List.perm_ext_iff_of_nodup records.routes_nodup again.routes_nodup]
  intro route
  rw [mem_iff_target? records.readable records.nodup, mem_iff_target? again.readable again.nodup,
    records.target?_eq, again.target?_eq,
    Registration.lastTarget?_eq_of_perm rearranged independent,
    Registration.firstView?_eq_of_perm rearranged independent]

/-- Accepted registrations succeed one after the other. -/
theorem exists_foldlM_register (records : table.Records done)
    (accepted : ∀ registration ∈ order, registration.accepted = true) :
    ∃ next, order.foldlM Table.register table = .ok next ∧ next.Records (done ++ order) := by
  induction order generalizing table done with
  | nil => exact ⟨table, rfl, by simpa using records⟩
  | cons registration rest ih =>
    have ⟨own, others⟩ := List.forall_mem_cons.mp accepted
    rcases records.register registration with ⟨_, next, registers, later⟩ | ⟨refused, _⟩
    · obtain ⟨last, finishes, all⟩ := ih later others
      refine ⟨last, ?_, by simpa using all⟩
      rw [List.foldlM_cons, registers]
      exact finishes
    · rw [own] at refused
      cases refused

end Records

/-- Independent registrations may be made in any order, if the routes that they make are apart. -/
theorem exists_register_eq_of_perm (rearranged : order.Perm done)
    (accepted : ∀ registration ∈ done, registration.accepted = true)
    (independent : done.Pairwise Registration.Independent)
    (made : done.foldlM register {} = .ok table) (apart : table.routes.Pairwise Apart) :
    ∃ other, order.foldlM register {} = .ok other ∧
      ∀ target path, (other.withOtherwise target).resolve path =
        (table.withOtherwise target).resolve path := by
  -- Both orders are recorded from the empty table, so both make the same routes.
  obtain ⟨first, makes, records⟩ := records_nil.exists_foldlM_register accepted
  rw [made] at makes
  cases makes
  obtain ⟨other, again, recordsAgain⟩ := records_nil.exists_foldlM_register
    fun registration there => accepted registration (rearranged.mem_iff.mp there)
  have routes : table.routes.Perm other.routes :=
    records.routes_perm recordsAgain rearranged.symm independent
  refine ⟨other, again, fun target path => ?_⟩
  exact (resolve_eq_of_perm (table.withOtherwise target) (other.withOtherwise target) routes apart
    rfl path).symm

/-! The routes of the browser. -/

/-- The pages of the browser, each with the pattern of its paths. -/
def browserViews : List Registration :=
  [.view "/" .front none, .view "/docs/:package/:type" .type (some .packages),
    .view "/docs/:package/" .package (some .packages)]

/-- The table of the browser has its pages registered, and everything else sent to the front. -/
theorem exists_declared :
    ∃ declared, browserViews.foldlM register {} = .ok declared ∧
      browser = declared.withOtherwise "/" := ⟨{ browser with otherwise := none }, by rfl, by rfl⟩

theorem apart_browser : browser.routes.Pairwise Apart := by
  have read : ∀ route ∈ browser.routes, route.pattern = .ofText route.pattern.text := by
    simp [browser]
  have never : browser.routes.Pairwise fun route other =>
      Pattern.overlaps (Pattern.segments route.pattern.text)
        (Pattern.segments other.pattern.text) = false := by decide
  exact never.imp_of_mem fun there there' => apart_of_not_overlaps (read _ there) (read _ there')

theorem independent_browserViews : browserViews.Pairwise Registration.Independent := by decide

/-- The pages and the redirects that a path without query and fragment is an address of. -/
inductive Addresses (path : Text) : Resolution → Prop
  | front : path = "/" → Addresses path (.view .front none [])
  | type {package type : Text} :
      segments path = [[], "docs", package, type] → package ≠ [] → type ≠ [] →
      Addresses path (.view .type (some .packages)
        [("package", decode package), ("type", decode type)])
  | package {package : Text} :
      segments path = [[], "docs", package, []] → package ≠ [] →
      Addresses path (.view .package (some .packages) [("package", decode package)])
  | unslashed {package : Text} :
      segments path = [[], "docs", package] → package ≠ [] →
      Addresses path (.redirect ("/docs/" ++ decode package ++ "/"))
  | slashed {package type : Text} :
      segments path = [[], "docs", package, type, []] → package ≠ [] → type ≠ [] →
      Addresses path (.redirect ("/docs/" ++ decode package ++ "/" ++ decode type))

theorem decision_of_addresses {found : Resolution} (addresses : Addresses path found) :
    decision (segments path) = found := by
  cases addresses with
  | front root =>
    subst root
    rfl
  | type parts somePackage someType =>
    rw [parts, decision_docs, documented, if_neg somePackage, if_neg someType]
  | package parts some => rw [parts, decision_docs, documented, if_neg some, if_pos rfl]
  | unslashed parts some =>
    rw [parts, decision_docs, documented, if_neg some]
    simp
  | slashed parts somePackage someType =>
    rw [parts, decision_docs, documented, if_neg (not_or.mpr ⟨somePackage, someType⟩)]
    simp

theorem addresses_or_decision_eq (path : Text) :
    (∃ found, Addresses path found) ∨ decision (segments path) = .redirect "/" := by
  unfold decision
  split
  · next parts =>
    have root : path = "/" := by
      rw [← ofSegments_segments path, parts]
      rfl
    exact .inl ⟨_, .front root⟩
  · next root rest _ parts =>
    split
    · next docs =>
      subst docs
      unfold documented
      split
      · next package _ =>
        by_cases empty : package = []
        · exact .inr (if_pos empty)
        · exact .inl ⟨_, .unslashed parts empty⟩
      · next package type _ =>
        by_cases empty : package = []
        · exact .inr (if_pos empty)
        · by_cases slash : type = []
          · exact .inl ⟨_, .package (by rw [parts, slash]) empty⟩
          · exact .inl ⟨_, .type parts empty slash⟩
      · next package type _ =>
        by_cases empty : package = [] ∨ type = []
        · exact .inr (if_pos empty)
        · obtain ⟨somePackage, someType⟩ := not_or.mp empty
          exact .inl ⟨_, .slashed parts somePackage someType⟩
      · exact .inr rfl
    · exact .inr rfl
  · exact .inr rfl

/-- The routes of the browser make of every path what it is an address of, and send all other paths
to the front page. No path is matched by two of them, and the three pages may be registered in any
order. -/
theorem browser_decides_every_path_in_any_order :
    ∃ table, standard = .ok table ∧
      (∀ path found, Addresses (normalize path) found → table.resolve path = some found) ∧
      (∀ path, (∀ found, ¬ Addresses (normalize path) found) →
        table.resolve path = some (.redirect "/")) ∧
      table.routes.Pairwise Apart ∧
      ∀ order : List Registration, order.Perm browserViews →
        ∃ other, order.foldlM register {} = .ok other ∧
          ∀ path, (other.withOtherwise "/").resolve path = table.resolve path := by
  refine ⟨browser, standard_eq, ?_, ?_, apart_browser, ?_⟩
  · intro path found addresses
    rw [resolve_browser, decision_of_addresses addresses]
  · intro path unaddressed
    have elsewhere := (addresses_or_decision_eq (normalize path)).resolve_left
      (not_exists.mpr unaddressed)
    rw [resolve_browser, elsewhere]
  · intro order rearranged
    have accepted : ∀ registration ∈ browserViews, registration.accepted = true := by decide
    obtain ⟨declared, declares, standing⟩ := exists_declared
    have apart : declared.routes.Pairwise Apart := by
      have apart := apart_browser
      rwa [standing] at apart
    obtain ⟨other, registers, same⟩ :=
      exists_register_eq_of_perm rearranged accepted independent_browserViews declares apart
    refine ⟨other, registers, fun path => ?_⟩
    rw [standing]
    exact same "/" path

end Table

end DocBrowser
