import DocBrowser.Proofs.Route.Patterns
import Mathlib.Data.List.Induction

/-!
What a table holds after any registrations. Its patterns stand in the order in which they were first
mentioned, a pattern registered for itself has the target it was given last, and one that is only a
companion leads to the first view it is the companion of.
-/

namespace DocBrowser

open Pattern (toggleSlash)

inductive Registration
  | view (text : Text) (kind : ViewKind) (requires : Option Prerequisite)
  | redirect (text template : Text)
  | otherwise (path : Text)

namespace Registration

/-- Whether the pattern of a registration can be read. -/
def accepted : Registration → Bool
  | .view text _ _ => (Pattern.parse text).isOk
  | .redirect text _ => (Pattern.parse text).isOk
  | .otherwise _ => true

/-- The patterns that are in the table after a registration, if they were not before. -/
def mentions : Registration → List Text
  | .view text _ _ => if toggleSlash text = [] then [text] else [text, toggleSlash text]
  | .redirect text _ => [text]
  | .otherwise _ => []

/-- The target that a registration is made to give to a pattern. -/
def target? (pattern : Text) : Registration → Option Target
  | .view text kind requires => if text = pattern then some (.view kind requires) else none
  | .redirect text template => if text = pattern then some (.redirect template) else none
  | .otherwise _ => none

/-- The view that a pattern is registered along with, as its other choice of slash. -/
def viewOf? (pattern : Text) : Registration → Option Text
  | .view text _ _ => if toggleSlash text = pattern ∧ pattern ≠ [] then some text else none
  | .redirect _ _ => none
  | .otherwise _ => none

def otherwise? : Registration → Option Text
  | .view _ _ _ => none
  | .redirect _ _ => none
  | .otherwise path => some path

/-- The target that a pattern was given last for itself. -/
def lastTarget? (done : List Registration) (pattern : Text) : Option Target :=
  done.reverse.findSome? (target? pattern)

/-- The first view that a pattern was registered along with. -/
def firstView? (done : List Registration) (pattern : Text) : Option Text :=
  done.findSome? (viewOf? pattern)

def lastOtherwise? (done : List Registration) : Option Text := done.reverse.findSome? otherwise?

variable (done : List Registration) (registration : Registration) (pattern : Text)

theorem lastTarget?_append_singleton :
    lastTarget? (done ++ [registration]) pattern =
      (registration.target? pattern).or (lastTarget? done pattern) := by
  simp [lastTarget?, List.findSome?_cons]
  cases registration.target? pattern <;> rfl

theorem firstView?_append_singleton :
    firstView? (done ++ [registration]) pattern =
      (firstView? done pattern).or (registration.viewOf? pattern) := by
  simp [firstView?, List.findSome?_append]

theorem lastOtherwise?_append_singleton :
    lastOtherwise? (done ++ [registration]) =
      registration.otherwise?.or (lastOtherwise? done) := by
  simp [lastOtherwise?, List.findSome?_cons]
  cases registration.otherwise? <;> rfl

end Registration

namespace Table

def register (table : Table) : Registration → Except RouteError Table
  | .view text kind requires => table.addView text kind requires
  | .redirect text template => table.addRedirect text template
  | .otherwise path => .ok (table.withOtherwise path)

/-- Registers in turn. A registration that fails changes nothing. -/
def registerAll (table : Table) : List Registration → Table
  | [] => table
  | registration :: rest =>
    match table.register registration with
    | .ok next => next.registerAll rest
    | .error _ => table.registerAll rest

/-! The first route that matches decides. -/

section FirstMatch

variable {path : Text} {routes first rest before after : List Route} {route : Route}
  {params : Params}

theorem firstMatch?_append (first rest : List Route) :
    firstMatch? path (first ++ rest) = (firstMatch? path first).or (firstMatch? path rest) := by
  induction first with
  | nil => rfl
  | cons route first ih =>
    rw [List.cons_append, firstMatch?, firstMatch?, ih]
    cases route.pattern.matches? path <;> rfl

theorem firstMatch?_eq_none_iff :
    firstMatch? path routes = none ↔ ∀ route ∈ routes, route.pattern.matches? path = none := by
  induction routes with
  | nil => simp [firstMatch?]
  | cons route rest ih =>
    rw [firstMatch?]
    cases found : route.pattern.matches? path with
    | none => simp [found, ih]
    | some params => simp [found]

theorem firstMatch?_of_split (unmatched : ∀ earlier ∈ before, earlier.pattern.matches? path = none)
    (found : route.pattern.matches? path = some params) :
    firstMatch? path (before ++ route :: after) = some (resolution params route.target) := by
  rw [firstMatch?_append, firstMatch?_eq_none_iff.mpr unmatched, firstMatch?, found]
  rfl

end FirstMatch

/-! Routes as a map from the texts of their patterns. -/

def texts (routes : List Route) : List Text := routes.map (·.pattern.text)

def target? (text : Text) (routes : List Route) : Option Target :=
  (routes.find? (·.pattern.text = text)).map (·.target)

/-- Every pattern is the one that its text stands for. -/
def Readable (routes : List Route) : Prop :=
  ∀ route ∈ routes, Pattern.parse route.pattern.text = .ok route.pattern

variable {routes : List Route} {pattern : Pattern} {target : Target} {text other : Text}
  {table next : Table}

@[simp]
theorem texts_cons (route : Route) (rest : List Route) :
    texts (route :: rest) = route.pattern.text :: texts rest := rfl

@[simp]
theorem target?_cons (text : Text) (route : Route) (rest : List Route) :
    target? text (route :: rest) =
      if route.pattern.text = text then some route.target else target? text rest := by
  by_cases here : route.pattern.text = text <;> simp [target?, here]

theorem target?_eq_none_iff : target? text routes = none ↔ text ∉ texts routes := by
  simp [target?, texts]

/-- Of readable patterns, those of one text are one pattern. -/
theorem eq_iff_text_eq {route : Route} (readable : Readable routes) (there : route ∈ routes)
    (parsed : Pattern.parse text = .ok pattern) :
    route.pattern = pattern ↔ route.pattern.text = text := by
  constructor
  · rintro rfl
    exact Pattern.text_of_parse parsed
  · rintro rfl
    have same := (readable route there).symm.trans parsed
    exact Except.ok.inj same

theorem readable_insertRoute (readable : Readable routes)
    (parsed : Pattern.parse text = .ok pattern) (target : Target) :
    Readable (insertRoute pattern target routes) := by
  have new : Pattern.parse pattern.text = .ok pattern := by rwa [Pattern.text_of_parse parsed]
  induction routes with
  | nil => simpa [insertRoute, Readable] using new
  | cons route rest ih =>
    have ⟨here, later⟩ := List.forall_mem_cons.mp readable
    rw [insertRoute]
    split
    · exact List.forall_mem_cons.mpr ⟨new, later⟩
    · exact List.forall_mem_cons.mpr ⟨here, ih later⟩

theorem texts_insertRoute (readable : Readable routes) (parsed : Pattern.parse text = .ok pattern)
    (target : Target) :
    texts (insertRoute pattern target routes) =
      if text ∈ texts routes then texts routes else texts routes ++ [text] := by
  have written := Pattern.text_of_parse parsed
  induction routes with
  | nil => simp [insertRoute, texts, written]
  | cons route rest ih =>
    have same := eq_iff_text_eq readable List.mem_cons_self parsed
    rw [insertRoute]
    by_cases here : route.pattern = pattern
    · have first := same.mp here
      rw [if_pos here, texts_cons, texts_cons, written, first, if_pos List.mem_cons_self]
    · have first : text ≠ route.pattern.text := fun first => here (same.mpr first.symm)
      rw [if_neg here, texts_cons, texts_cons, ih fun route there => readable route (.tail _ there)]
      by_cases later : text ∈ texts rest <;> simp [later, first]

theorem target?_insertRoute (readable : Readable routes)
    (parsed : Pattern.parse text = .ok pattern) (target : Target) (other : Text) :
    target? other (insertRoute pattern target routes) =
      if text = other then some target else target? other routes := by
  have written := Pattern.text_of_parse parsed
  induction routes with
  | nil => by_cases same : text = other <;> simp [insertRoute, target?, written, same]
  | cons route rest ih =>
    have same := eq_iff_text_eq readable List.mem_cons_self parsed
    rw [insertRoute]
    by_cases here : route.pattern = pattern
    · have first := same.mp here
      rw [if_pos here, target?_cons, target?_cons, written, first]
      by_cases asked : text = other <;> simp [asked]
    · have first : route.pattern.text ≠ text := fun first => here (same.mpr first)
      have later := ih fun route there => readable route (.tail _ there)
      rw [if_neg here, target?_cons, target?_cons, later]
      by_cases asked : route.pattern.text = other
      · have apart : text ≠ other := fun same => first (asked.trans same.symm)
        simp [asked, apart]
      · simp [asked]

theorem contains_iff (readable : Readable table.routes)
    (parsed : Pattern.parse text = .ok pattern) :
    table.contains pattern = true ↔ text ∈ texts table.routes := by
  simp only [contains, List.any_eq_true, decide_eq_true_eq, texts, List.mem_map]
  constructor
  · rintro ⟨route, there, same⟩
    exact ⟨route, there, (eq_iff_text_eq readable there parsed).mp same⟩
  · rintro ⟨route, there, same⟩
    exact ⟨route, there, (eq_iff_text_eq readable there parsed).mpr same⟩

/-! Companions. -/

/-- The table with the redirect to a view from the other choice of slash. -/
def withCompanion (table : Table) (text : Text) : Table :=
  let companion := Pattern.ofText (toggleSlash text)
  if toggleSlash text = [] ∨ table.contains companion then table
  else table.insert companion (.redirect text)

/-- Of an accepted pattern the companion is accepted too. -/
theorem addCompanion_eq (parsed : Pattern.parse text = .ok pattern) :
    table.addCompanion text = .ok (table.withCompanion text) := by
  rw [addCompanion, withCompanion]
  by_cases empty : toggleSlash text = []
  · simp [empty]
  · simp only [empty, if_false, Pattern.parse_toggleSlash parsed, false_or]
    exact (apply_ite Except.ok _ _ _).symm

theorem addView_eq (parsed : Pattern.parse text = .ok pattern) (kind : ViewKind)
    (requires : Option Prerequisite) :
    table.addView text kind requires =
      .ok ((table.insert pattern (.view kind requires)).withCompanion text) := by
  rw [← addCompanion_eq parsed, addView, parsed]
  rfl

theorem addView_eq_error {error : RouteError} (refused : Pattern.parse text = .error error)
    (kind : ViewKind) (requires : Option Prerequisite) :
    table.addView text kind requires = .error error := by
  rw [addView, refused]
  rfl

theorem addRedirect_eq_error {error : RouteError} (refused : Pattern.parse text = .error error)
    (template : Text) : table.addRedirect text template = .error error := by
  rw [addRedirect, refused]
  rfl

theorem addRedirect_eq (parsed : Pattern.parse text = .ok pattern) (template : Text) :
    table.addRedirect text template = .ok (table.insert pattern (.redirect template)) := by
  rw [addRedirect, parsed]
  rfl

section WithCompanion

variable (readable : Readable table.routes) (parsed : Pattern.parse text = .ok pattern)

include readable parsed

theorem readable_withCompanion : Readable (table.withCompanion text).routes := by
  rw [withCompanion]
  split
  · exact readable
  · exact readable_insertRoute readable (Pattern.parse_toggleSlash parsed) _

theorem texts_withCompanion :
    texts (table.withCompanion text).routes =
      if toggleSlash text = [] ∨ toggleSlash text ∈ texts table.routes then texts table.routes
      else texts table.routes ++ [toggleSlash text] := by
  have companion := Pattern.parse_toggleSlash parsed
  simp only [withCompanion, contains_iff readable companion]
  split
  · rfl
  · next new =>
    rw [insert, texts_insertRoute readable companion, if_neg fun there => new (.inr there)]

theorem target?_withCompanion (other : Text) :
    target? other (table.withCompanion text).routes =
      (target? other table.routes).or
        (if toggleSlash text = other ∧ other ≠ [] then some (.redirect text) else none) := by
  have companion := Pattern.parse_toggleSlash parsed
  simp only [withCompanion, contains_iff readable companion]
  split
  · next held =>
    by_cases own : toggleSlash text = other ∧ other ≠ []
    · obtain ⟨rfl, nonempty⟩ := own
      have there : target? (toggleSlash text) table.routes ≠ none := fun absent =>
        target?_eq_none_iff.mp absent (held.resolve_left nonempty)
      obtain ⟨target, found⟩ := Option.ne_none_iff_exists'.mp there
      simp [found]
    · simp [own]
  · next new =>
    obtain ⟨nonempty, absent⟩ := not_or.mp new
    rw [insert, target?_insertRoute readable companion]
    by_cases own : toggleSlash text = other
    · subst own
      simp [nonempty, target?_eq_none_iff.mpr absent]
    · simp [own]

end WithCompanion

/-! Whole runs of registrations. -/

/-- What a table holds after the accepted registrations `done`. -/
structure Records (table : Table) (done : List Registration) : Prop where
  readable : Readable table.routes
  texts_eq : texts table.routes = (done.flatMap Registration.mentions).eraseDups
  target?_eq : ∀ pattern, target? pattern table.routes =
    (Registration.lastTarget? done pattern).or
      ((Registration.firstView? done pattern).map .redirect)
  otherwise_eq : table.otherwise = Registration.lastOtherwise? done

theorem eraseDups_append_singleton (xs : List Text) (x : Text) :
    (xs ++ [x]).eraseDups = if x ∈ xs.eraseDups then xs.eraseDups else xs.eraseDups ++ [x] := by
  rw [List.eraseDups_append]
  by_cases there : x ∈ xs <;> simp [List.removeAll, there, List.eraseDups_cons]

theorem nodup_eraseDups (xs : List Text) : xs.eraseDups.Nodup := by
  induction xs using List.reverseRecOn with
  | nil => exact List.nodup_nil
  | append_singleton xs x ih =>
    rw [eraseDups_append_singleton]
    split
    · exact ih
    · next new =>
      refine List.nodup_append.mpr ⟨ih, by simp, ?_⟩
      rintro y there z last rfl
      obtain rfl := List.mem_singleton.mp last
      exact new there

variable {done : List Registration} {registration : Registration} {kind : ViewKind}
  {requires : Option Prerequisite} {template : Text}

theorem records_nil : ({} : Table).Records [] where
  readable := by simp [Readable]
  texts_eq := rfl
  target?_eq := fun _ => rfl
  otherwise_eq := rfl

namespace Records

theorem addView (records : table.Records done)
    (parsed : Pattern.parse text = .ok pattern) :
    ((table.insert pattern (.view kind requires)).withCompanion text).Records
      (done ++ [.view text kind requires]) := by
  have readable : Readable (table.insert pattern (.view kind requires)).routes :=
    readable_insertRoute records.readable parsed _
  have own : texts (table.insert pattern (.view kind requires)).routes =
      (done.flatMap Registration.mentions ++ [text]).eraseDups := by
    rw [eraseDups_append_singleton, ← records.texts_eq]
    exact texts_insertRoute records.readable parsed _
  constructor
  case readable => exact readable_withCompanion readable parsed
  case texts_eq =>
    rw [texts_withCompanion readable parsed, own, List.flatMap_append, List.flatMap_singleton,
      Registration.mentions]
    by_cases empty : toggleSlash text = []
    · simp only [empty, true_or, if_true]
    · simp only [empty, false_or, if_false]
      rw [← eraseDups_append_singleton, List.append_assoc]
      rfl
  case target?_eq =>
    intro other
    rw [target?_withCompanion readable parsed, Table.insert,
      target?_insertRoute records.readable parsed, records.target?_eq,
      Registration.lastTarget?_append_singleton, Registration.firstView?_append_singleton,
      Registration.target?, Registration.viewOf?]
    by_cases asked : text = other
    · simp [asked]
    · by_cases companion : toggleSlash text = other ∧ other ≠ []
      · rw [if_neg asked, if_neg asked, if_pos companion, if_pos companion, Option.map_or,
          Option.or_assoc, Option.map_some, Option.none_or]
      · rw [if_neg asked, if_neg asked, if_neg companion, if_neg companion, Option.or_none,
          Option.or_none, Option.none_or]
  case otherwise_eq =>
    rw [Registration.lastOtherwise?_append_singleton, ← records.otherwise_eq, withCompanion]
    split <;> rfl

theorem addRedirect (records : table.Records done) (parsed : Pattern.parse text = .ok pattern) :
    (table.insert pattern (.redirect template)).Records (done ++ [.redirect text template]) where
  readable := readable_insertRoute records.readable parsed _
  texts_eq := by
    rw [List.flatMap_append, List.flatMap_singleton, Registration.mentions,
      eraseDups_append_singleton, ← records.texts_eq]
    exact texts_insertRoute records.readable parsed _
  target?_eq := by
    intro other
    rw [Table.insert, target?_insertRoute records.readable parsed, records.target?_eq,
      Registration.lastTarget?_append_singleton, Registration.firstView?_append_singleton,
      Registration.target?, Registration.viewOf?, Option.or_none]
    by_cases asked : text = other <;> simp [asked]
  otherwise_eq := by
    rw [Registration.lastOtherwise?_append_singleton, ← records.otherwise_eq]
    rfl

theorem withOtherwise (records : table.Records done) (path : Text) :
    (table.withOtherwise path).Records (done ++ [.otherwise path]) where
  readable := records.readable
  texts_eq := by
    rw [List.flatMap_append, List.flatMap_singleton, Registration.mentions, List.append_nil]
    exact records.texts_eq
  target?_eq := by
    intro other
    rw [Registration.lastTarget?_append_singleton, Registration.firstView?_append_singleton,
      Registration.target?, Registration.viewOf?, Option.or_none, Option.none_or]
    exact records.target?_eq other
  otherwise_eq := by
    rw [Registration.lastOtherwise?_append_singleton]
    rfl

/-- A registration fails if its pattern is refused, and is recorded if it is accepted. -/
theorem register (records : table.Records done) (registration : Registration) :
    (registration.accepted = true ∧
      ∃ next, table.register registration = .ok next ∧ next.Records (done ++ [registration])) ∨
    registration.accepted = false ∧ ∃ error, table.register registration = .error error := by
  cases registration with
  | view text kind requires =>
    cases parsed : Pattern.parse text with
    | ok pattern =>
      have accepted : (Pattern.parse text).isOk = true := by rw [parsed]; rfl
      exact .inl ⟨accepted, _, addView_eq parsed kind requires, records.addView parsed⟩
    | error error =>
      have refused : (Pattern.parse text).isOk = false := by rw [parsed]; rfl
      exact .inr ⟨refused, _, addView_eq_error parsed kind requires⟩
  | redirect text template =>
    cases parsed : Pattern.parse text with
    | ok pattern =>
      have accepted : (Pattern.parse text).isOk = true := by rw [parsed]; rfl
      exact .inl ⟨accepted, _, addRedirect_eq parsed template, records.addRedirect parsed⟩
    | error error =>
      have refused : (Pattern.parse text).isOk = false := by rw [parsed]; rfl
      exact .inr ⟨refused, _, addRedirect_eq_error parsed template⟩
  | otherwise path => exact .inl ⟨rfl, _, rfl, records.withOtherwise path⟩

/-- After any registrations the table holds what the accepted ones of them say. -/
theorem registerAll (records : table.Records done) (registrations : List Registration) :
    (table.registerAll registrations).Records
      (done ++ registrations.filter Registration.accepted) := by
  induction registrations generalizing table done with
  | nil => simpa [Table.registerAll] using records
  | cons registration rest ih =>
    rw [Table.registerAll]
    rcases records.register registration with
      ⟨accepted, next, registers, later⟩ | ⟨refused, error, fails⟩
    · rw [registers, List.filter_cons_of_pos accepted, ← List.singleton_append, ← List.append_assoc]
      exact ih later
    · rw [fails, List.filter_cons_of_neg (by simp [refused])]
      exact ih records

/-- The toggled form of a view is in the table. -/
theorem toggleSlash_mem (records : table.Records done) (there : .view text kind requires ∈ done)
    (nonempty : toggleSlash text ≠ []) : toggleSlash text ∈ texts table.routes := by
  rw [records.texts_eq, List.mem_eraseDups]
  apply List.mem_flatMap.mpr
  exact ⟨_, there, by simp [Registration.mentions, nonempty]⟩

theorem nodup (records : table.Records done) : (texts table.routes).Nodup := by
  rw [records.texts_eq]
  exact nodup_eraseDups _

end Records

/-- The table as a map, by the accepted registrations `done` that made it. -/
structure Reflects (table : Table) (done : List Registration) : Prop where
  distinct : (texts table.routes).Nodup
  inOrder : texts table.routes = (done.flatMap Registration.mentions).eraseDups
  explicit : ∀ pattern target, Registration.lastTarget? done pattern = some target →
    target? pattern table.routes = some target
  companion : ∀ pattern ∈ texts table.routes, Registration.lastTarget? done pattern = none →
    ∃ view, Registration.firstView? done pattern = some view ∧
      target? pattern table.routes = some (.redirect view)
  toggled : ∀ text kind requires, .view text kind requires ∈ done → toggleSlash text ≠ [] →
    toggleSlash text ∈ texts table.routes
  matched : ∀ path before route after params, table.routes = before ++ route :: after →
    (∀ earlier ∈ before, earlier.pattern.matches? (normalize path) = none) →
    route.pattern.matches? (normalize path) = some params →
    table.resolve path = some (resolution params route.target)
  unmatched : ∀ path, (∀ route ∈ table.routes, route.pattern.matches? (normalize path) = none) →
    table.resolve path = (Registration.lastOtherwise? done).map .redirect

theorem Records.reflects (records : table.Records done) : table.Reflects done where
  distinct := records.nodup
  inOrder := records.texts_eq
  explicit := by
    intro pattern target last
    rw [records.target?_eq, last, Option.some_or]
  companion := by
    intro pattern there unnamed
    have held := records.target?_eq pattern
    rw [unnamed, Option.none_or] at held
    cases first : Registration.firstView? done pattern with
    | none =>
      rw [first] at held
      exact absurd there (target?_eq_none_iff.mp held)
    | some view => exact ⟨view, rfl, by rw [held, first]; rfl⟩
  toggled := fun text kind requires there nonempty => records.toggleSlash_mem there nonempty
  matched := by
    intro path before route after params split unmatched found
    rw [resolve, split, firstMatch?_of_split unmatched found]
  unmatched := by
    intro path none
    rw [resolve, firstMatch?_eq_none_iff.mpr none, records.otherwise_eq]

/-- Whatever is registered, and in whatever order, the table is the map of the accepted
registrations. A view is refused with its own pattern only, never with its companion. -/
theorem table_reflects_registrations :
    (∀ registrations, (({} : Table).registerAll registrations).Reflects
      (registrations.filter Registration.accepted)) ∧
    ∀ (table : Table) (text : Text) (kind : ViewKind) (requires : Option Prerequisite)
        (error : RouteError),
      table.addView text kind requires = .error error ↔ Pattern.parse text = .error error := by
  constructor
  · intro registrations
    have records := records_nil.registerAll registrations
    rw [List.nil_append] at records
    exact records.reflects
  · intro table text kind requires error
    cases parsed : Pattern.parse text with
    | ok pattern => simp [addView_eq parsed]
    | error other => simp [addView_eq_error parsed]

end Table

end DocBrowser
