import DocBrowser.Page.Render
import DocBrowser.Proofs.Index.Names
import DocBrowser.Proofs.Json.Printable

/-!
Styling adds control sequences to a page and nothing else. Where no name that a page shows has an
escape character of its own, taking the control sequences out of it again leaves the page without
colour and without highlighting.
-/

namespace DocBrowser

/-- The rest of a text after a control sequence, given what follows its escape character. -/
def afterSequence? : Text → Option Text
  | '[' :: rest =>
    match rest.dropWhile (· != 'm') with
    | _ :: after => some after
    | [] => none
  | _ => none

theorem length_lt_of_afterSequence? {text after : Text} (found : afterSequence? text = some after) :
    after.length < text.length := by
  unfold afterSequence? at found
  split at found
  · next rest =>
    split at found
    · next last after dropped =>
      cases found
      have shorter := (List.dropWhile_sublist (· != 'm') (l := rest)).length_le
      rw [dropped, List.length_cons] at shorter
      rw [List.length_cons]
      omega
    · cases found
  · cases found

/-- A text without its control sequences: each of them goes from an escape character and a bracket
to the next `m`. -/
def unstyled (text : Text) : Text :=
  match text with
  | [] => []
  | c :: rest =>
    if c = escapeChar then
      match _ : afterSequence? rest with
      | some after => unstyled after
      | none => c :: unstyled rest
    else c :: unstyled rest
termination_by text.length
decreasing_by
  · have shorter := length_lt_of_afterSequence? ‹_›
    rw [List.length_cons]
    omega
  · simp
  · simp

/-- Without an escape character. -/
def Unescaped (text : Text) : Prop := escapeChar ∉ text

instance (text : Text) : Decidable (Unescaped text) :=
  inferInstanceAs (Decidable (escapeChar ∉ text))

section Sequences

variable {text first rest codes : Text} {c : Char}

@[simp]
theorem unescaped_nil : Unescaped [] := List.not_mem_nil

@[simp]
theorem unescaped_cons_iff : Unescaped (c :: text) ↔ escapeChar ≠ c ∧ Unescaped text := by
  simp [Unescaped]

@[simp]
theorem unescaped_append_iff :
    Unescaped (first ++ rest) ↔ Unescaped first ∧ Unescaped rest := by
  simp [Unescaped]

theorem Text.Printable.unescaped (printable : Text.Printable text) : Unescaped text :=
  fun there => absurd (printable _ there) (by decide)

@[simp]
theorem unescaped_ofNat (n : Nat) : Unescaped (Text.ofNat n) :=
  (Text.printable_toDigits n).unescaped

theorem unstyled_append (clean : Unescaped text) (rest : Text) :
    unstyled (text ++ rest) = text ++ unstyled rest := by
  induction text with
  | nil => rfl
  | cons c text ih =>
    have ⟨other, later⟩ := unescaped_cons_iff.mp clean
    rw [List.cons_append, unstyled, if_neg (Ne.symm other), ih later, List.cons_append]

theorem unstyled_controlSequence (codes : Text) (short : 'm' ∉ codes) (rest : Text) :
    unstyled (controlSequence codes ++ rest) = unstyled rest := by
  have inner : ∀ c ∈ codes, (c != 'm') = true := by
    intro c there
    exact bne_iff_ne.mpr fun same => short (same ▸ there)
  have found : afterSequence? ('[' :: (codes ++ 'm' :: rest)) = some rest := by
    rw [afterSequence?, List.dropWhile_append_of_pos inner, List.dropWhile_cons_of_neg (by simp)]
  have spelled : controlSequence codes ++ rest = escapeChar :: '[' :: (codes ++ 'm' :: rest) := by
    simp [controlSequence]
  rw [spelled, unstyled, if_pos rfl]
  split
  · next after same =>
    rw [found] at same
    cases same
    rfl
  · next none =>
    rw [found] at none
    cases none

theorem reopened_of_unescaped (clean : Unescaped text) (opening : Text) :
    reopened opening text = text := by
  fun_induction reopened opening text with
  | case1 a b c d rest same =>
    have first : a = escapeChar := by
      have heads := congrArg List.head? same
      simpa [resetSequence, controlSequence] using heads
    exact absurd first.symm (unescaped_cons_iff.mp clean).1
  | case2 a b c d rest _ ih => rw [ih (unescaped_cons_iff.mp clean).2]
  | case3 => rfl

end Sequences

/-! Pieces. -/

@[simp]
theorem Piece.text_plain (text : Text) : (Piece.plain text).text = text := rfl

@[simp]
theorem Piece.text_styled (style : Style) (text : Text) :
    (Piece.styled style text).text = text := rfl

namespace Styled

/-- Painted pieces are the text once their control sequences are taken out, whatever follows. -/
def Shows (colour : Bool) (pieces : Styled) (text : Text) : Prop :=
  ∀ rest, unstyled (pieces.paint colour ++ rest) = text ++ unstyled rest

def Unescaped (pieces : Styled) : Prop := ∀ piece ∈ pieces, DocBrowser.Unescaped piece.text

variable {colour : Bool} {first rest pieces : Styled} {text other : Text} {piece : Piece}

@[simp]
theorem unescaped_nil : Unescaped [] := fun _ there => absurd there List.not_mem_nil

@[simp]
theorem unescaped_cons_iff :
    Unescaped (piece :: pieces) ↔ DocBrowser.Unescaped piece.text ∧ Unescaped pieces :=
  List.forall_mem_cons

@[simp]
theorem unescaped_append_iff : Unescaped (first ++ rest) ↔ Unescaped first ∧ Unescaped rest :=
  List.forall_mem_append

@[simp]
theorem unescaped_line_iff : Unescaped (Page.line pieces) ↔ Unescaped pieces := by
  have lineBreak : DocBrowser.Unescaped ['\n'] := by decide
  simp [Page.line, lineBreak]

theorem unescaped_flatMap {α : Type} {list : List α} {page : α → Styled}
    (each : ∀ a ∈ list, Unescaped (page a)) : Unescaped (list.flatMap page) := by
  intro piece there
  obtain ⟨a, among, inside⟩ := List.mem_flatMap.mp there
  exact each a among piece inside

theorem paint_append (colour : Bool) (first rest : Styled) :
    (first ++ rest).paint colour = first.paint colour ++ rest.paint colour :=
  List.flatMap_append

namespace Shows

theorem nil : Shows colour [] [] := fun _ => rfl

theorem append (shows : Shows colour first text) (later : Shows colour rest other) :
    Shows colour (first ++ rest) (text ++ other) := by
  intro after
  rw [paint_append, List.append_assoc, shows, later, List.append_assoc]

theorem singleton (clean : DocBrowser.Unescaped piece.text) :
    Shows colour [piece] piece.text := by
  intro rest
  have alone : paint colour [piece] = if colour then piece.coloured else piece.text := by
    simp [paint]
  rw [alone]
  cases colour with
  | false => exact unstyled_append clean rest
  | true =>
    cases piece with
    | plain text => exact unstyled_append clean rest
    | styled style text =>
      have numeric : 'm' ∉ style.codes := by cases style <;> decide
      rw [Piece.text_styled] at clean ⊢
      rw [if_pos rfl, Piece.coloured, reopened_of_unescaped clean, List.append_assoc,
        List.append_assoc, unstyled_controlSequence _ numeric, unstyled_append clean,
        resetSequence, unstyled_controlSequence _ (by decide)]

theorem of_unescaped (clean : Unescaped pieces) : Shows colour pieces (pieces.paint false) := by
  induction pieces with
  | nil => exact nil
  | cons piece rest ih =>
    have ⟨first, later⟩ := unescaped_cons_iff.mp clean
    exact (singleton first).append (ih later)

theorem unstyled_eq (shows : Shows colour pieces text) :
    unstyled (pieces.paint colour) = text := by
  have whole := shows []
  rwa [List.append_nil, unstyled, List.append_nil] at whole

end Shows

end Styled

/-! Highlighting. -/

namespace Theme

/-- No colour of the theme would end its control sequence early. -/
structure Closed (theme : Theme) : Prop where
  background : 'm' ∉ theme.background
  foreground : ∀ kind, 'm' ∉ theme.foreground kind

variable {theme : Theme}

theorem closed_of_colours
    (fixed : ∀ colour ∈ [theme.background, theme.plain, theme.bracket, theme.escape, theme.number,
      theme.word], 'm' ∉ colour)
    (strings : ∀ role, 'm' ∉ theme.quote role ∧ 'm' ∉ theme.characters role) : theme.Closed where
  background := fixed _ (by simp)
  foreground kind := by
    cases kind with
    | bracket => exact fixed _ (by simp [foreground])
    | separator => exact fixed _ (by simp [foreground])
    | blank => exact fixed _ (by simp [foreground])
    | quote role => exact (strings role).1
    | characters role => exact (strings role).2
    | escape => exact fixed _ (by simp [foreground])
    | number => exact fixed _ (by simp [foreground])
    | word => exact fixed _ (by simp [foreground])

theorem closed_ofName (name : Text) : (ofName name).Closed := by
  have each : ∀ entry ∈ all, entry.2.Closed := by
    simp only [all, List.forall_mem_cons]
    refine ⟨?_, ?_, ?_, ?_, ?_, ?_, ?_, fun _ there => absurd there List.not_mem_nil⟩
    all_goals exact closed_of_colours (by decide) (fun role => by cases role <;> decide)
  rw [ofName]
  cases known : all.lookup name with
  | none => exact each (defaultName, oceanDark) List.mem_cons_self
  | some theme =>
    obtain ⟨before, after, split, _⟩ := List.lookup_eq_some_iff.mp known
    exact each (name, theme) (by simp [split])

theorem unstyled_coloured (closed : theme.Closed) {token : Json.Token}
    (clean : Unescaped token.text) (rest : Text) :
    unstyled (theme.coloured token ++ rest) = token.text ++ unstyled rest := by
  have background : 'm' ∉ ("48;2;" ++ theme.background : Text) := by
    simp [closed.background]
  have foreground : 'm' ∉ ("38;2;" ++ theme.foreground token.kind : Text) := by
    simp [closed.foreground]
  rw [coloured, List.append_assoc, List.append_assoc, unstyled_controlSequence _ background,
    unstyled_controlSequence _ foreground, unstyled_append clean]

theorem unstyled_tokens (closed : theme.Closed) {tokens : List Json.Token}
    (clean : ∀ token ∈ tokens, Unescaped token.text) (rest : Text) :
    unstyled (tokens.flatMap theme.coloured ++ rest) =
      Json.Token.written tokens ++ unstyled rest := by
  induction tokens with
  | nil => rfl
  | cons token tokens ih =>
    have ⟨first, later⟩ := List.forall_mem_cons.mp clean
    rw [List.flatMap_cons, List.append_assoc, unstyled_coloured closed first, ih later,
      Json.Token.written_cons, List.append_assoc]

/-- Highlighting keeps every character of a value's written form, in order. -/
theorem unstyled_highlight (closed : theme.Closed) (value : Json) (rest : Text) :
    unstyled (theme.highlight value ++ rest) = value.pretty ++ unstyled rest := by
  have whole := Json.written_prettyTokens value
  have clean : ∀ token ∈ value.prettyTokens, Unescaped token.text := by
    intro token there inside
    apply (Json.printable_pretty value).unescaped
    rw [← whole]
    exact List.mem_flatMap.mpr ⟨token, there, inside⟩
  rw [highlight, List.append_assoc, unstyled_tokens closed clean, whole, resetSequence,
    unstyled_controlSequence _ (by decide)]

end Theme

/-! Pages. -/

/-- No package and no type of the index has an escape character in its name. -/
def Index.Unescaped (index : Index) : Prop :=
  ∀ package ∈ index.entries,
    DocBrowser.Unescaped package.1 ∧ ∀ key ∈ package.2.keys, DocBrowser.Unescaped key

/-- None of the names that a view shows has an escape character; what is documented about a type may
have any. -/
def View.Unescaped : View → Prop
  | .front packages => ∀ index ∈ packages, index.Unescaped
  | .package view =>
    DocBrowser.Unescaped view.package ∧ ∀ index ∈ view.packages, index.Unescaped
  | .type view => DocBrowser.Unescaped view.package ∧ DocBrowser.Unescaped view.name

structure Navigation.Unescaped (nav : Navigation) : Prop where
  path : DocBrowser.Unescaped nav.path
  redirects : ∀ path ∈ nav.redirects, DocBrowser.Unescaped path
  view : nav.view.Unescaped

def LoadStatus.Unescaped : LoadStatus → Prop
  | .failed error => DocBrowser.Unescaped error.message
  | _ => True

theorem PackageEntry.unescaped_displayName (package : Text) {key : Text}
    (clean : Unescaped key) : Unescaped (displayName package key) := by
  rcases displayName_cases package key with same | ⟨_, rest⟩
  · rwa [same]
  · rw [← rest, qualified] at clean
    simp_all

theorem PackageEntry.unescaped_routeName (entry : PackageEntry) (package : Text) {key : Text}
    (clean : Unescaped key) : Unescaped (entry.routeName package key) := by
  rcases entry.routeName_cases package key with same | ⟨_, rest, _⟩
  · rwa [same]
  · rw [← rest, qualified] at clean
    simp_all

namespace Page

open Styled (Shows)

variable {index : Index} {query location : Text} {options : Options}

theorem unescaped_titleRule (options : Options) : Unescaped (titleRule options).text :=
  fun there => absurd (List.eq_of_mem_replicate there) (by decide)

theorem unescaped_packageList (clean : index.Unescaped) :
    Styled.Unescaped (packageList index) := by
  rw [packageList, Styled.unescaped_append_iff]
  constructor
  · simp [escapeChar]
  · apply Styled.unescaped_flatMap
    rintro ⟨name, entry⟩ there
    have ⟨plain, _⟩ := clean _ there
    simp [escapeChar, bullet, plain]

theorem unescaped_front {packages : Option Index} (clean : (View.front packages).Unescaped) :
    Styled.Unescaped (front packages) := by
  have frame : Styled.Unescaped (line
        [.styled .cyan "╔═══════════════════════════════════════════╗"] ++
      line [.styled .cyan "║   Package Documentation                   ║"] ++
      line [.styled .cyan "╚═══════════════════════════════════════════╝"]) := by
    simp [escapeChar]
  unfold front
  rw [Styled.unescaped_append_iff]
  refine ⟨frame, ?_⟩
  cases packages with
  | none => simp [escapeChar, hintSign]
  | some index => exact unescaped_packageList (clean index rfl)

theorem unescaped_packageMissing {package : Text} (clean : Unescaped package) :
    Styled.Unescaped (packageMissing package) := by
  simp [escapeChar, packageMissing, failureSign, clean]

theorem unescaped_typePath {package link : Text} (clean : Unescaped package)
    (linked : Unescaped link) : Unescaped (typePath package link) := by
  unfold typePath
  simp [escapeChar, clean, linked]

theorem unescaped_typeItem (entry : PackageEntry) {package key : Text}
    (clean : Unescaped package) (named : Unescaped key) :
    Styled.Unescaped (typeItem entry package key) := by
  have name := entry.unescaped_routeName package named
  have path := unescaped_typePath clean name
  simp [escapeChar, typeItem, bullet, name, path]

theorem unescaped_package {view : PackageView} (clean : (View.package view).Unescaped) :
    Styled.Unescaped (package view options) := by
  have ⟨name, indexed⟩ := clean
  rw [package]
  cases found : view.entry? with
  | none => exact unescaped_packageMissing name
  | some entry =>
    obtain ⟨index, there, held⟩ := Option.bind_eq_some_iff.mp found
    have ⟨_, keys⟩ := indexed index there _ (Dictionary.mem_of_find? held)
    dsimp only
    rw [Styled.unescaped_append_iff]
    constructor
    · simp [escapeChar, unescaped_titleRule, name]
    · split
      · simp [escapeChar, hintSign]
      · rw [Styled.unescaped_append_iff]
        refine ⟨Styled.unescaped_flatMap fun key listed => ?_, by simp [escapeChar]⟩
        exact unescaped_typeItem entry name (keys key listed)

theorem unescaped_search (clean : index.Unescaped) (asked : Unescaped query) :
    Styled.Unescaped (search index query) := by
  rw [search]
  split
  · simp [escapeChar, hintSign, asked]
  rw [Styled.unescaped_append_iff, Styled.unescaped_append_iff]
  refine ⟨⟨by simp [escapeChar], Styled.unescaped_flatMap ?_⟩, ?_⟩
  · rintro ⟨package, key⟩ result
    obtain ⟨⟨name, entry⟩, there, matching⟩ := List.mem_flatMap.mp (List.mem_of_mem_take result)
    obtain ⟨_, among, same⟩ := List.mem_map.mp matching
    cases same
    have ⟨named, keys⟩ := clean _ there
    have listed := keys _ (List.mem_filter.mp among).1
    have shown := PackageEntry.unescaped_displayName package listed
    have link : Unescaped (((index.package? package).map (·.routeName package key)).getD
        (PackageEntry.displayName package key)) := by
      cases index.package? package with
      | none => exact shown
      | some entry => exact entry.unescaped_routeName package listed
    have path := unescaped_typePath named link
    simp [escapeChar, searchItem, bullet, named, shown, path]
  · split
    · simp [escapeChar]
    · exact Styled.unescaped_nil

theorem unescaped_status {state : LoadStatus} (clean : state.Unescaped)
    (located : Unescaped location) (fetches : Nat) :
    Styled.Unescaped (status state location fetches) := by
  have shown : Unescaped (loadState state).text := by
    cases state with
    | empty => decide
    | pending => decide
    | resolved packages types => simp [escapeChar, loadState]
    | failed error =>
      rw [LoadStatus.Unescaped] at clean
      simp [escapeChar, loadState, clean]
  simp [escapeChar, status, shown, located]

/-- A payload is shown as it is written, highlighted or not. -/
theorem shows_payload (colour : Bool) (options : Options) (value : Json) :
    Shows colour (line [.plain (payload options value)]) (value.pretty ++ ['\n']) := by
  have shown : Shows colour [.plain (payload options value)] value.pretty := by
    intro rest
    have plain : Styled.paint colour [.plain (payload options value)] =
        payload options value := by
      cases colour <;> simp [Styled.paint, Piece.coloured, Piece.text]
    rw [plain, payload]
    split
    · exact Theme.unstyled_highlight (Theme.closed_ofName _) value rest
    · exact unstyled_append (Json.printable_pretty value).unescaped rest
  have lineBreak : Shows colour [.plain ['\n']] ['\n'] := Shows.singleton (by decide)
  exact shown.append lineBreak

theorem shows_type (colour : Bool) (options : Options) {view : TypeView}
    (clean : (View.type view).Unescaped) :
    Shows colour (type view options)
      ((type view { options with highlight := false }).paint false) := by
  have ⟨package, name⟩ := clean
  rw [type, type, Styled.paint_append]
  refine Shows.append (.of_unescaped ?_) ?_
  · simp [escapeChar, unescaped_titleRule, package, name]
  split
  · exact .of_unescaped (unescaped_packageMissing package)
  split
  · apply Shows.of_unescaped
    simp [escapeChar, failureSign, package, name]
  · next value _ =>
    have plain : Styled.paint false (line [.plain (payload { options with highlight := false }
        value)]) = value.pretty ++ ['\n'] := by
      simp [line, Styled.paint, payload]
    rw [plain]
    exact shows_payload colour options value

theorem shows_view (colour : Bool) (options : Options) {view : View} (clean : view.Unescaped) :
    Shows colour (Page.view options view)
      ((Page.view { options with highlight := false } view).paint false) := by
  cases view with
  | front packages => exact .of_unescaped (unescaped_front clean)
  | package page => exact .of_unescaped (unescaped_package clean)
  | type page => exact shows_type colour options clean

theorem shows_navigation (colour : Bool) (options : Options) {nav : Navigation}
    (clean : nav.Unescaped) :
    Shows colour (navigation options nav)
      ((navigation { options with highlight := false } nav).paint false) := by
  rw [navigation, navigation, Styled.paint_append]
  refine Shows.append (.of_unescaped ?_) (shows_view colour options clean.view)
  cases redirected : nav.redirects with
  | nil => exact Styled.unescaped_nil
  | cons first later =>
    have start := clean.redirects first (by simp [redirected])
    simp [escapeChar, start, clean.path]

/-- Colour and highlighting add control sequences to pages, listings and the state of a loader, and
change nothing else. -/
theorem styling_keeps_the_text (colour : Bool) (options : Options) :
    (∀ nav : Navigation, nav.Unescaped →
      unstyled ((navigation options nav).paint colour) =
        (navigation { options with highlight := false } nav).paint false) ∧
    (∀ index : Index, index.Unescaped →
      unstyled ((packageList index).paint colour) = (packageList index).paint false ∧
      ∀ query, Unescaped query →
        unstyled ((search index query).paint colour) = (search index query).paint false) ∧
    ∀ (state : LoadStatus) (location : Text) (fetches : Nat),
      state.Unescaped → Unescaped location →
      unstyled ((status state location fetches).paint colour) =
        (status state location fetches).paint false := by
  refine ⟨?_, ?_, ?_⟩
  · intro nav clean
    exact (shows_navigation colour options clean).unstyled_eq
  · intro index clean
    have list : Shows colour _ _ := .of_unescaped (unescaped_packageList clean)
    refine ⟨list.unstyled_eq, fun query asked => ?_⟩
    have results : Shows colour _ _ := .of_unescaped (unescaped_search clean asked)
    exact results.unstyled_eq
  · intro state location fetches clean located
    have shown : Shows colour _ _ := .of_unescaped (unescaped_status clean located fetches)
    exact shown.unstyled_eq

/-- An index in which a type is documented by a control sequence. -/
def striking : Index := .ofList [("a", .ofList [("B", .string (controlSequence "31"))])]

def strikingPage : Navigation where
  path := "/docs/a/B"
  redirects := ["/docs/a/B/"]
  params := [("package", "a"), ("type", "B")]
  view := .type ⟨some striking, "a", "B", some "B"⟩

/-- A control sequence in a payload is shown escaped, so it is not taken out with the styles. -/
theorem striking_keeps_the_text :
    (strikingPage.Unescaped ∧
      unstyled ((navigation ⟨true, "InspiredGitHub", some 60⟩ strikingPage).paint true) =
        (navigation ⟨false, "InspiredGitHub", some 60⟩ strikingPage).paint false) ∧
    (striking.Unescaped ∧
      unstyled ((packageList striking).paint true) = (packageList striking).paint false) ∧
    (Unescaped "b" ∧
      unstyled ((search striking "b").paint true) = (search striking "b").paint false) ∧
    ((LoadStatus.failed (.status "x" 500)).Unescaped ∧ Unescaped "x" ∧
      unstyled ((status (.failed (.status "x" 500)) "x" 1).paint true) =
        (status (.failed (.status "x" 500)) "x" 1).paint false) := by
  obtain ⟨pages, listings, states⟩ := styling_keeps_the_text true ⟨true, "InspiredGitHub", some 60⟩
  have page : strikingPage.Unescaped := ⟨by decide, by decide, by decide, by decide⟩
  have index : striking.Unescaped := by
    intro package there
    obtain rfl := List.mem_singleton.mp there
    exact ⟨by decide, by decide⟩
  have query : Unescaped "b" := by decide
  have failed : (LoadStatus.failed (.status "x" 500)).Unescaped := by
    change Unescaped (LoadError.message _)
    decide
  have located : Unescaped "x" := by decide
  have ⟨list, results⟩ := listings striking index
  exact ⟨⟨page, pages strikingPage page⟩, ⟨index, list⟩, ⟨query, results "b" query⟩,
    failed, located, states _ "x" 1 failed located⟩

end Page

end DocBrowser
