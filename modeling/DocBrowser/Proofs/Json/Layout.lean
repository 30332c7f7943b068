import DocBrowser.Json.Token
import DocBrowser.Proofs.Json.Value

/-!
The two written forms of a value as one. They differ only in the blanks between their tokens, which
a layout gives: none in the compact form, and new lines with two more spaces a level in the pretty
form. The texts of the tokens that are coloured, one after the other, are the pretty form.
-/

namespace DocBrowser.Json

namespace Layout

def dense : Layout where
  line _ := []
  gap := []
  line_blank := by simp
  gap_blank := by simp

/-- What stands after the first part of a level. -/
def following (layout : Layout) (level : Nat) (closing : Char) (parts : List Text) : Text :=
  parts.flatMap (fun part => ',' :: (layout.line (level + 1) ++ part)) ++ layout.line level ++
    [closing]

end Layout

variable {layout : Layout} {level : Nat}

theorem joined_cons (first : Text) (rest : List Text) :
    Text.joined "," (first :: rest) = first ++ rest.flatMap (',' :: ·) := by
  induction rest generalizing first with
  | nil => simp [Text.joined]
  | cons next rest ih =>
    have later := ih next
    rw [Text.joined] at later ⊢
    rw [List.intercalate_cons_cons, later]
    simp

@[simp]
theorem following_nil (layout : Layout) (level : Nat) (closing : Char) :
    layout.following level closing [] = layout.line level ++ [closing] := rfl

@[simp]
theorem following_cons (layout : Layout) (level : Nat) (closing : Char) (part : Text)
    (parts : List Text) :
    layout.following level closing (part :: parts) =
      ',' :: (layout.line (level + 1) ++ (part ++ layout.following level closing parts)) := by
  simp [Layout.following]

theorem enclosed_cons (layout : Layout) (level : Nat) (closing : Char) (first : Text)
    (rest : List Text) :
    layout.enclosed level closing (first :: rest) =
      layout.line (level + 1) ++ (first ++ layout.following level closing rest) := by
  rw [Layout.enclosed, List.map_cons, joined_cons]
  simp [Layout.following, List.flatMap_map]

theorem laidOutItems_eq (layout : Layout) (level : Nat) (items : List Json) :
    laidOutItems layout level items = items.map (laidOut layout level) := by
  induction items with
  | nil => rfl
  | cons item rest ih => rw [laidOutItems, ih, List.map_cons]

theorem laidOutMembers_eq (layout : Layout) (level : Nat) (members : List (Text × Json)) :
    laidOutMembers layout level members =
      members.map fun (name, value) => layout.member name (value.laidOut layout level) := by
  induction members with
  | nil => rfl
  | cons member rest ih => rw [laidOutMembers, ih, List.map_cons]

theorem laidOut_array (layout : Layout) (level : Nat) (items : List Json) :
    (array items).laidOut layout level =
      '[' :: layout.enclosed level ']' (items.map (laidOut layout (level + 1))) := by
  rw [laidOut, laidOutItems_eq]

theorem laidOut_object (layout : Layout) (level : Nat) (members : List (Text × Json)) :
    (object members).laidOut layout level =
      '\x7b' :: layout.enclosed level '\x7d'
        (members.map fun (name, value) =>
          layout.member name (value.laidOut layout (level + 1))) := by
  rw [laidOut, laidOutMembers_eq]

/-! Lengths. -/

theorem head?_of_escape? {c : Char} {written : Text} (escaped : escape? c = some written) :
    written.head? = some '\\' := by
  rw [escape?] at escaped
  iterate 8
    split at escaped
    · cases escaped
      rfl
  cases escaped

theorem writtenChar_ne_nil (c : Char) : writtenChar c ≠ [] := by
  cases escaped : escape? c with
  | none => simp [writtenChar, escaped]
  | some written =>
    rw [writtenChar, escaped]
    rintro rfl
    cases head?_of_escape? escaped

theorem length_lt_writtenString (text : Text) : text.length < (writtenString text).length := by
  have inner : text.length ≤ (text.flatMap writtenChar).length := by
    induction text with
    | nil => simp
    | cons c rest ih =>
      have first := List.length_pos_iff.mpr (writtenChar_ne_nil c)
      simp only [List.flatMap_cons, List.length_append, List.length_cons]
      omega
  simp only [writtenString, List.length_append, List.length_cons]
  omega

theorem lt_length_following {parts : List Text} {closing : Char} :
    parts.length < (layout.following level closing parts).length ∧
      ∀ part ∈ parts, part.length < (layout.following level closing parts).length := by
  induction parts with
  | nil => simp [Layout.following]
  | cons part rest ih =>
    simp only [Layout.following, List.flatMap_cons, List.length_append, List.length_cons,
      List.forall_mem_cons] at ih ⊢
    refine ⟨by omega, by omega, fun part there => ?_⟩
    have fits := ih.2 part there
    omega

theorem length_le_enclosed {parts : List Text} {closing : Char} :
    parts.length ≤ (layout.enclosed level closing parts).length ∧
      ∀ part ∈ parts, part.length ≤ (layout.enclosed level closing parts).length := by
  cases parts with
  | nil => simp
  | cons first rest =>
    have ⟨count, fits⟩ := @lt_length_following layout level rest closing
    simp only [enclosed_cons, List.length_append, List.length_cons, List.forall_mem_cons]
    refine ⟨by omega, by omega, fun part there => ?_⟩
    have within := fits part there
    omega

theorem length_item_lt {item : Json} {items : List Json} (there : item ∈ items) :
    (item.laidOut layout (level + 1)).length < ((array items).laidOut layout level).length := by
  rw [laidOut_array, List.length_cons]
  exact Nat.lt_succ_of_le (length_le_enclosed.2 _ (List.mem_map_of_mem there))

/-- Where there is room for all members, there is for the name and the value of each. -/
theorem length_member_lt {β : Type} (write : β → Text) {source : Text × β}
    {sources : List (Text × β)} {closing : Char} {limit : Nat}
    (enough : (layout.enclosed level closing
      (sources.map fun (name, source) => layout.member name (write source))).length ≤ limit)
    (there : source ∈ sources) :
    source.1.length < limit ∧ (write source.2).length < limit := by
  have fits := Nat.le_trans (length_le_enclosed.2 _ (List.mem_map_of_mem there)) enough
  obtain ⟨name, source⟩ := source
  have quoted := length_lt_writtenString name
  simp only [Layout.member, List.length_append, List.length_cons] at fits ⊢
  omega

/-! The compact form. -/

theorem enclosed_dense (level : Nat) (closing : Char) (written : List Text) :
    Layout.dense.enclosed level closing written = Text.joined "," written ++ [closing] := by
  cases written with
  | nil => rfl
  | cons first rest => simp [Layout.enclosed, Layout.dense]

theorem compactItems_eq (items : List Json) : compactItems items = items.map compact := by
  induction items with
  | nil => rfl
  | cons item rest ih => rw [compactItems, ih, List.map_cons]

theorem compactMembers_eq (members : List (Text × Json)) :
    compactMembers members =
      members.map fun (name, value) => Layout.dense.member name value.compact := by
  induction members with
  | nil => rfl
  | cons member rest ih =>
    rw [compactMembers, ih, List.map_cons]
    simp [Layout.member, Layout.dense]

/-- The compact form is laid out without blanks. -/
theorem compact_eq_laidOut (value : Json) (level : Nat) :
    value.compact = value.laidOut .dense level := by
  induction value generalizing level with
  | null => rfl
  | bool b => rfl
  | number n => rfl
  | string text => rfl
  | array items ih =>
    have each : items.map compact = items.map (laidOut .dense (level + 1)) :=
      List.map_congr_left fun item there => ih item there _
    rw [laidOut_array, enclosed_dense, compact, compactItems_eq, each]
    rfl
  | object members ih =>
    have each : (members.map fun (name, value) => Layout.dense.member name value.compact) =
        members.map fun (name, value) =>
          Layout.dense.member name (value.laidOut .dense (level + 1)) := by
      apply List.map_congr_left
      intro member there
      simp only [ih member there (level + 1)]
    rw [laidOut_object, enclosed_dense, compact, compactMembers_eq, each]
    rfl

/-! The tokens of the pretty form. -/

namespace Token

/-- The text of some tokens. -/
def written (tokens : List Token) : Text := tokens.flatMap Token.text

variable (role : Role) (c : Char) (first rest tokens : List Token)

@[simp]
theorem written_append : written (first ++ rest) = written first ++ written rest :=
  List.flatMap_append

@[simp]
theorem written_cons (token : Token) : written (token :: rest) = token.text ++ written rest :=
  List.flatMap_cons

theorem written_newLine (level : Nat) : written (newLine level) = Layout.lines.line level := by
  by_cases zero : level = 0
  · subst zero
    rfl
  · simp [newLine, zero, written, Layout.lines]

theorem written_pushChar : written (pushChar role c tokens) = writtenChar c ++ written tokens := by
  unfold pushChar
  rw [writtenChar]
  split
  · next text escape =>
    rw [escape]
    rfl
  · next plain =>
    rw [plain]
    split <;> rfl

theorem written_ofString (text : Text) : written (ofString role text) = writtenString text := by
  have inner : written (text.foldr (pushChar role) [⟨.quote role, ['"']⟩]) =
      text.flatMap writtenChar ++ ['"'] := by
    induction text with
    | nil => rfl
    | cons c rest ih =>
      rw [List.foldr_cons, written_pushChar, ih, List.flatMap_cons, List.append_assoc]
  rw [ofString, written_cons, inner]
  rfl

theorem written_onLines (level : Nat) (groups : List (List Token)) :
    written (onLines level groups) =
      Text.joined "," ((groups.map written).map (Layout.lines.line level ++ ·)) := by
  induction groups with
  | nil => rfl
  | cons group rest ih =>
    cases rest with
    | nil => simp [onLines, written_newLine, Text.joined]
    | cons next rest =>
      have step : onLines level (group :: next :: rest) =
        newLine level ++ group ++ ⟨.separator, [',']⟩ :: onLines level (next :: rest) := rfl
      rw [step, written_append, written_append, written_newLine, written_cons, ih]
      simp [Text.joined, List.intercalate_cons_cons]

theorem written_enclosed (level : Nat) (opening closing : Char) (group : List Token)
    (groups : List (List Token)) :
    written (⟨.bracket, [opening]⟩ :: onLines (level + 1) (group :: groups) ++ newLine level ++
        [⟨.bracket, [closing]⟩]) =
      opening :: Layout.lines.enclosed level closing ((group :: groups).map written) := by
  simp only [List.cons_append, written_cons, written_append, written_onLines, written_newLine,
    Layout.enclosed, List.map_cons]
  rfl

end Token

theorem itemTokens_eq (role : Role) (level : Nat) (items : List Json) :
    itemTokens role level items = items.map (tokens role level) := by
  induction items with
  | nil => rfl
  | cons item rest ih => rw [itemTokens, ih, List.map_cons]

theorem written_memberTokens (level : Nat) (members : List (Text × Json)) :
    (memberTokens level members).map Token.written =
      members.map fun (name, value) =>
        Layout.lines.member name (Token.written (value.tokens .held level)) := by
  induction members with
  | nil => rfl
  | cons member rest ih =>
    rw [memberTokens, List.map_cons, List.map_cons, ih]
    simp [Layout.member, Layout.lines, Token.written_ofString]

/-- Tokens are the value laid out on lines. -/
theorem written_tokens_eq_laidOut (value : Json) (role : Role) (level : Nat) :
    Token.written (value.tokens role level) = value.laidOut .lines level := by
  induction value generalizing role level with
  | null => rfl
  | bool b => simp [tokens, laidOut, Token.written]
  | number n => simp [tokens, laidOut, Token.written]
  | string text =>
    rw [tokens]
    exact Token.written_ofString role text
  | array items ih =>
    cases items with
    | nil => rfl
    | cons item rest =>
      have each : (itemTokens role (level + 1) (item :: rest)).map Token.written =
          (item :: rest).map (laidOut .lines (level + 1)) := by
        rw [itemTokens_eq, List.map_map]
        exact List.map_congr_left fun item there => ih item there role (level + 1)
      rw [laidOut_array, ← each]
      exact Token.written_enclosed level '[' ']' _ _
  | object members ih =>
    cases members with
    | nil => rfl
    | cons member rest =>
      have each : (memberTokens (level + 1) (member :: rest)).map Token.written =
          (member :: rest).map fun (name, value) =>
            Layout.lines.member name (value.laidOut .lines (level + 1)) := by
        rw [written_memberTokens]
        apply List.map_congr_left
        intro member there
        simp only [ih member there .held (level + 1)]
      rw [laidOut_object, ← each]
      exact Token.written_enclosed level '\x7b' '\x7d' _ _

/-- The tokens of a value drop nothing of its pretty form, repeat nothing and keep the order. -/
theorem written_prettyTokens (value : Json) : Token.written value.prettyTokens = value.pretty :=
  written_tokens_eq_laidOut value .free 0

end DocBrowser.Json
