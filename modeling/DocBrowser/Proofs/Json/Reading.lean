import DocBrowser.Proofs.Json.Layout
import DocBrowser.Proofs.Json.Scalars

/-!
A value is read back from every way of laying it out, in front of anything that does not continue a
number. Objects come back collected. The statements are about readers of items and members in
general, so that they hold for values at any depth and for the index alike.
-/

namespace DocBrowser.Json.Reader

/-- A byte that a value can begin with is no blank and ends no array. -/
def Opening (b : UInt8) : Prop := isBlankByte b = false ∧ b ≠ ascii ']'

instance (b : UInt8) : Decidable (Opening b) := inferInstanceAs (Decidable (_ ∧ _))

/-- A reader takes a written form, after any blanks, to what it was written for. -/
structure Takes {α : Type} (read : Read α) (written : Text) (a : α) : Prop where
  opens : ∃ b more, Utf8.encode written = b :: more ∧ Opening b
  reads : ∀ blanks rest, (∀ b ∈ blanks, isBlankByte b = true) → Closed rest →
    read (blanks ++ (Utf8.encode written ++ rest)) = .ok (a, rest)

variable {α β : Type} {blanks rest more : Bytes} {b : UInt8} {layout : Layout}
  {level limit : Nat}

/-! Blanks. -/

theorem skipBlanks_append (blank : ∀ b ∈ blanks, isBlankByte b = true)
    (solid : isBlankByte b = false) (rest : Bytes) :
    skipBlanks (blanks ++ b :: rest) = b :: rest := by
  rw [skipBlanks, List.dropWhile_append_of_pos blank, List.dropWhile_cons_of_neg (by simp [solid])]

theorem skipBlanks_of_solid (solid : isBlankByte b = false) (rest : Bytes) :
    skipBlanks (b :: rest) = b :: rest :=
  List.dropWhile_cons_of_neg (by simp [solid])

theorem blank_of_mem_encode {text : Text} (spaces : ∀ c ∈ text, c = ' ' ∨ c = '\n') :
    ∀ b ∈ Utf8.encode text, isBlankByte b = true := by
  intro b there
  obtain ⟨c, among, inside⟩ := List.mem_flatMap.mp there
  rcases spaces c among with rfl | rfl
  · obtain rfl := List.mem_singleton.mp inside
    rfl
  · obtain rfl := List.mem_singleton.mp inside
    rfl

/-! What stands after a part closes it. -/

theorem closed_nil : Closed [] := by
  intro b there
  cases there

theorem closed_encode {c : Char} (short : c.toNat < 0x80)
    (ends : isDigit (ascii c) = false ∧ ascii c ≠ ascii '.' ∧ isExponentMark (ascii c) = false)
    (text : Text) (rest : Bytes) : Closed (Utf8.encode (c :: text) ++ rest) := by
  rw [encode_cons_of_short short]
  intro b there
  cases there
  exact ends

theorem closed_following (layout : Layout) (level : Nat) {closing : Char}
    (bracket : closing = ']' ∨ closing = '\x7d') (parts : List Text) (rest : Bytes) :
    Closed (Utf8.encode (layout.following level closing parts) ++ rest) := by
  cases parts with
  | cons part parts =>
    rw [following_cons]
    exact closed_encode (by decide) (by decide) _ rest
  | nil =>
    rw [following_nil]
    cases line : layout.line level with
    | nil =>
      rcases bracket with rfl | rfl
      · exact closed_encode (by decide) (by decide) [] rest
      · exact closed_encode (by decide) (by decide) [] rest
    | cons c more =>
      rcases layout.line_blank level c (by simp [line]) with rfl | rfl
      · exact closed_encode (by decide) (by decide) _ rest
      · exact closed_encode (by decide) (by decide) _ rest

/-! Items. -/

section Items

variable {item : Read α} {a : α} {done : List α}

theorem moreItems_close (blank : ∀ b ∈ blanks, isBlankByte b = true) :
    moreItems item done (limit + 1) (blanks ++ ascii ']' :: rest) = .ok (done.reverse, rest) := by
  rw [moreItems, skipBlanks_append blank (by decide)]
  simp

theorem moreItems_comma (blank : ∀ b ∈ blanks, isBlankByte b = true) (opening : Opening b)
    (read : item (b :: more) = .ok (a, rest)) :
    moreItems item done (limit + 1) (ascii ',' :: (blanks ++ b :: more)) =
      moreItems item (a :: done) limit rest := by
  have ⟨solid, bracket⟩ := opening
  have comma : ascii ',' ≠ ascii ']' := by decide
  rw [moreItems, skipBlanks_of_solid (by decide)]
  simp only [comma, if_false, if_true, skipBlanks_append blank solid, bracket, read]
  rfl

theorem arrayBody_close (rest : Bytes) :
    arrayBody limit item (ascii ']' :: rest) = .ok ([], rest) := by
  rw [arrayBody, skipBlanks_of_solid (by decide)]
  rfl

theorem arrayBody_item (blank : ∀ b ∈ blanks, isBlankByte b = true) (opening : Opening b)
    (read : item (b :: more) = .ok (a, rest)) :
    arrayBody limit item (blanks ++ b :: more) = moreItems item [a] limit rest := by
  have ⟨solid, bracket⟩ := opening
  rw [arrayBody, skipBlanks_append blank solid]
  simp only [bracket, if_false, read]
  rfl

/-- Where blanks are skipped already, a reader goes on from the first byte. -/
theorem Takes.exists_opening {written : Text} (takes : Takes item written a) :
    ∃ b more, Utf8.encode written = b :: more ∧ Opening b ∧
      ∀ rest, Closed rest → item (b :: (more ++ rest)) = .ok (a, rest) := by
  obtain ⟨b, more, spelled, opening⟩ := takes.opens
  refine ⟨b, more, spelled, opening, ?_⟩
  intro rest closed
  have read := takes.reads [] rest (by simp) closed
  rwa [spelled] at read

variable {write : β → Text} {meaning : β → α} {sources : List β}

theorem moreItems_written
    (takes : ∀ source ∈ sources, Takes item (write source) (meaning source))
    (enough : sources.length < limit) (done : List α) (rest : Bytes) :
    moreItems item done limit
        (Utf8.encode (layout.following level ']' (sources.map write)) ++ rest) =
      .ok (done.reverse ++ sources.map meaning, rest) := by
  induction sources generalizing done limit with
  | nil =>
    obtain ⟨left, rfl⟩ := Nat.exists_eq_add_one_of_ne_zero (Nat.ne_of_gt enough)
    have blank := blank_of_mem_encode (layout.line_blank level)
    rw [List.map_nil, following_nil, Utf8.encode_append, encode_cons_of_short (by decide),
      List.append_assoc, List.map_nil, List.append_nil]
    exact moreItems_close blank
  | cons source sources ih =>
    obtain ⟨left, rfl⟩ := Nat.exists_eq_add_one_of_ne_zero (Nat.ne_of_gt (Nat.zero_lt_of_lt enough))
    have ⟨first, later⟩ := List.forall_mem_cons.mp takes
    obtain ⟨b, more, written, opening, reads⟩ := first.exists_opening
    have blank := blank_of_mem_encode (layout.line_blank (level + 1))
    have closed := closed_following layout level (.inl rfl) (sources.map write) rest
    rw [List.map_cons, following_cons, encode_cons_of_short (by decide), Utf8.encode_append,
      Utf8.encode_append, List.cons_append, List.append_assoc, List.append_assoc, written,
      List.cons_append, moreItems_comma blank opening (reads _ closed),
      ih later (Nat.lt_of_succ_lt_succ enough)]
    simp

theorem arrayBody_written
    (takes : ∀ source ∈ sources, Takes item (write source) (meaning source))
    (enough : (layout.enclosed level ']' (sources.map write)).length ≤ limit) (rest : Bytes) :
    arrayBody limit item (Utf8.encode (layout.enclosed level ']' (sources.map write)) ++ rest) =
      .ok (sources.map meaning, rest) := by
  have parts := (@length_le_enclosed layout level (sources.map write) ']').1
  rw [List.length_map] at parts
  have count := Nat.le_trans parts enough
  cases sources with
  | nil => exact arrayBody_close rest
  | cons source sources =>
    have ⟨first, later⟩ := List.forall_mem_cons.mp takes
    obtain ⟨b, more, written, opening, reads⟩ := first.exists_opening
    have blank := blank_of_mem_encode (layout.line_blank (level + 1))
    have closed := closed_following layout level (.inl rfl) (sources.map write) rest
    rw [List.map_cons, enclosed_cons, Utf8.encode_append, Utf8.encode_append, List.append_assoc,
      List.append_assoc, written, List.cons_append,
      arrayBody_item blank opening (reads _ closed), moreItems_written later count]
    rfl

end Items

/-! Members. -/

section Members

variable {value : Read α} {held : Text × α} {done : List (Text × α)} {whole : Nat}

theorem moreMembers_close (blank : ∀ b ∈ blanks, isBlankByte b = true) :
    moreMembers whole value done (limit + 1) (blanks ++ ascii '\x7d' :: rest) =
      .ok (done.reverse, rest) := by
  rw [moreMembers, skipBlanks_append blank (by decide)]
  simp

theorem moreMembers_comma (blank : ∀ b ∈ blanks, isBlankByte b = true)
    (read : member whole value more = .ok (held, rest)) :
    moreMembers whole value done (limit + 1) (ascii ',' :: (blanks ++ ascii '"' :: more)) =
      moreMembers whole value (held :: done) limit rest := by
  have comma : ascii ',' ≠ ascii '\x7d' := by decide
  rw [moreMembers, skipBlanks_of_solid (by decide)]
  simp only [comma, if_false, if_true, skipBlanks_append blank (b := ascii '"') (by decide), read]
  rfl

theorem objectBody_close (rest : Bytes) :
    objectBody limit value (ascii '\x7d' :: rest) = .ok ([], rest) := by
  rw [objectBody, skipBlanks_of_solid (by decide)]
  rfl

theorem objectBody_member (blank : ∀ b ∈ blanks, isBlankByte b = true)
    (read : member limit value more = .ok (held, rest)) :
    objectBody limit value (blanks ++ ascii '"' :: more) =
      moreMembers limit value [held] limit rest := by
  have quote : ascii '"' ≠ ascii '\x7d' := by decide
  rw [objectBody, skipBlanks_append blank (by decide)]
  simp only [quote, if_false, if_true, read]
  rfl

theorem exists_member_written {name written : Text} {a : α} (takes : Takes value written a)
    (enough : name.length < limit) (layout : Layout) :
    ∃ more, Utf8.encode (layout.member name written) = ascii '"' :: more ∧
      ∀ rest, Closed rest → member limit value (more ++ rest) = .ok ((name, a), rest) := by
  refine ⟨Utf8.encode (name.flatMap writtenChar) ++ ascii '"' :: ascii ':' ::
    (Utf8.encode layout.gap ++ Utf8.encode written), ?_, ?_⟩
  · rw [Layout.member, writtenString]
    simp only [List.append_assoc, List.cons_append, List.nil_append, Utf8.encode_append,
      encode_cons_of_short (c := '"') (by decide), encode_cons_of_short (c := ':') (by decide)]
  · intro rest closed
    have read := takes.reads _ rest (blank_of_mem_encode layout.gap_blank) closed
    rw [List.append_assoc, List.cons_append, List.cons_append, List.append_assoc, member,
      string_written name enough]
    simp only [bind, Except.bind, skipBlanks_of_solid (b := ascii ':') (by decide), if_true, read]

variable {write : β → Text} {meaning : β → α} {sources : List (Text × β)}

theorem moreMembers_written
    (takes : ∀ source ∈ sources, Takes value (write source.2) (meaning source.2))
    (names : ∀ source ∈ sources, source.1.length < whole) (enough : sources.length < limit)
    (done : List (Text × α)) (rest : Bytes) :
    moreMembers whole value done limit
        (Utf8.encode (layout.following level '\x7d'
          (sources.map fun (name, source) => layout.member name (write source))) ++ rest) =
      .ok (done.reverse ++ sources.map fun (name, source) => (name, meaning source), rest) := by
  induction sources generalizing done limit with
  | nil =>
    obtain ⟨left, rfl⟩ := Nat.exists_eq_add_one_of_ne_zero (Nat.ne_of_gt enough)
    have blank := blank_of_mem_encode (layout.line_blank level)
    rw [List.map_nil, following_nil, Utf8.encode_append, encode_cons_of_short (by decide),
      List.append_assoc, List.map_nil, List.append_nil]
    exact moreMembers_close blank
  | cons source sources ih =>
    obtain ⟨left, rfl⟩ := Nat.exists_eq_add_one_of_ne_zero (Nat.ne_of_gt (Nat.zero_lt_of_lt enough))
    have ⟨first, later⟩ := List.forall_mem_cons.mp takes
    have ⟨short, others⟩ := List.forall_mem_cons.mp names
    obtain ⟨more, written, reads⟩ := exists_member_written first short layout
    have blank := blank_of_mem_encode (layout.line_blank (level + 1))
    have closed := closed_following layout level (.inr rfl)
      (sources.map fun (name, source) => layout.member name (write source)) rest
    rw [List.map_cons, following_cons, encode_cons_of_short (by decide), Utf8.encode_append,
      Utf8.encode_append, List.cons_append, List.append_assoc, List.append_assoc, written,
      List.cons_append, moreMembers_comma blank (reads _ closed),
      ih later others (Nat.lt_of_succ_lt_succ enough)]
    simp

theorem objectBody_written
    (takes : ∀ source ∈ sources, Takes value (write source.2) (meaning source.2))
    (enough : (layout.enclosed level '\x7d'
      (sources.map fun (name, source) => layout.member name (write source))).length ≤ limit)
    (rest : Bytes) :
    objectBody limit value
        (Utf8.encode (layout.enclosed level '\x7d'
          (sources.map fun (name, source) => layout.member name (write source))) ++ rest) =
      .ok (sources.map fun (name, source) => (name, meaning source), rest) := by
  have parts := (@length_le_enclosed layout level
    (sources.map fun (name, source) => layout.member name (write source)) '\x7d').1
  rw [List.length_map] at parts
  have count := Nat.le_trans parts enough
  have names : ∀ source ∈ sources, source.1.length < limit := fun source there =>
    (length_member_lt write enough there).1
  cases sources with
  | nil => exact objectBody_close rest
  | cons source sources =>
    have ⟨first, later⟩ := List.forall_mem_cons.mp takes
    have ⟨short, others⟩ := List.forall_mem_cons.mp names
    obtain ⟨more, written, reads⟩ := exists_member_written first short layout
    have blank := blank_of_mem_encode (layout.line_blank (level + 1))
    have closed := closed_following layout level (.inr rfl)
      (sources.map fun (name, source) => layout.member name (write source)) rest
    rw [List.map_cons, enclosed_cons, Utf8.encode_append, Utf8.encode_append, List.append_assoc,
      List.append_assoc, written, List.cons_append, objectBody_member blank (reads _ closed),
      moreMembers_written later others count]
    rfl

end Members

/-! Values. -/

section Values

variable {inner : Option (Read Json)} {written : Text}

theorem valueWith_scalar {x : Scalar} (blank : ∀ b ∈ blanks, isBlankByte b = true)
    (opening : Opening b) (noArray : b ≠ ascii '[') (noObject : b ≠ ascii '\x7b')
    (read : scalar limit b more = .ok (x, rest)) :
    valueWith limit inner (blanks ++ b :: more) = .ok (Json.ofScalar x, rest) := by
  rw [valueWith, skipBlanks_append blank opening.1]
  simp only [noArray, noObject, if_false, read]
  rfl

theorem valueWith_array {item : Read Json} {items : List Json}
    (blank : ∀ b ∈ blanks, isBlankByte b = true)
    (read : arrayBody limit item more = .ok (items, rest)) :
    valueWith limit (some item) (blanks ++ ascii '[' :: more) = .ok (.array items, rest) := by
  rw [valueWith, skipBlanks_append blank (by decide)]
  simp only [if_true, read]
  rfl

theorem valueWith_object {held : Read Json} {members : List (Text × Json)}
    (blank : ∀ b ∈ blanks, isBlankByte b = true)
    (read : objectBody limit held more = .ok (members, rest)) :
    valueWith limit (some held) (blanks ++ ascii '\x7b' :: more) =
      .ok (Json.ofMembers members, rest) := by
  have other : ascii '\x7b' ≠ ascii '[' := by decide
  rw [valueWith, skipBlanks_append blank (by decide)]
  simp only [other, if_false, if_true, read]
  rfl

theorem objectOf_object {held : Nat → Read α} {depth : Nat}
    {members : List (Text × α)} (blank : ∀ b ∈ blanks, isBlankByte b = true)
    (read : objectBody limit (held depth) more = .ok (members, rest)) :
    objectOf limit (depth + 1) held (blanks ++ ascii '\x7b' :: more) = .ok (members, rest) := by
  rw [objectOf, skipBlanks_append blank (by decide)]
  simp only [if_true, read]

theorem opening_of_isDigit (digit : isDigit b = true) :
    Opening b ∧ b ≠ ascii '[' ∧ b ≠ ascii '\x7b' := by
  have other := fun letter => @ne_of_isDigit b letter digit
  refine ⟨⟨?_, other _ (by decide)⟩, other _ (by decide), other _ (by decide)⟩
  simp only [isBlankByte, Bool.or_eq_false_iff, beq_eq_false_iff_ne]
  exact ⟨⟨⟨other _ (by decide), other _ (by decide)⟩, other _ (by decide)⟩, other _ (by decide)⟩

theorem scalar_quote {text : Text} (read : string limit more = .ok (text, rest)) :
    scalar limit (ascii '"') more = .ok (.string text, rest) := by
  rw [scalar, if_neg (by decide), if_neg (by decide), if_neg (by decide), if_neg (by decide),
    if_neg (by decide), if_pos rfl, read]
  rfl

/-- The first byte of a scalar tells what it is, and the rest of it is read up to what closes it. -/
theorem exists_of_scalar (x : Scalar) (layout : Layout) (level : Nat)
    (whole : (ofScalar x).Integral)
    (enough : ((ofScalar x).laidOut layout level).length ≤ limit) :
    ∃ b more, Utf8.encode ((ofScalar x).laidOut layout level) = b :: more ∧
      (Opening b ∧ b ≠ ascii '[' ∧ b ≠ ascii '\x7b') ∧
      ∀ rest, Closed rest → scalar limit b (more ++ rest) = .ok (x, rest) := by
  cases x with
  | null => exact ⟨ascii 'n', letters "ull", rfl, by decide, fun rest _ => word_append _ _ rest⟩
  | bool b =>
    cases b with
    | false => exact ⟨ascii 'f', letters "alse", rfl, by decide, fun rest _ => word_append _ _ rest⟩
    | true => exact ⟨ascii 't', letters "rue", rfl, by decide, fun rest _ => word_append _ _ rest⟩
  | number n =>
    obtain ⟨b, more, spelled, first, reads⟩ := exists_of_integral (whole n List.mem_cons_self)
    refine ⟨b, more, spelled, ?_, reads limit⟩
    rcases first with rfl | digit
    · decide
    · exact opening_of_isDigit digit
  | string text =>
    have fits : text.length < limit := Nat.lt_of_lt_of_le (length_lt_writtenString text) enough
    refine ⟨ascii '"', Utf8.encode (text.flatMap writtenChar) ++ [ascii '"'], ?_, by decide, ?_⟩
    · change Utf8.encode (writtenString text) = _
      rw [writtenString, List.cons_append, encode_cons_of_short (by decide), Utf8.encode_append]
      rfl
    · intro rest _
      have read : string limit (_ ++ ascii '"' :: rest) = .ok (text, rest) :=
        string_written text fits
      rw [List.append_assoc, List.singleton_append]
      exact scalar_quote read

/-- A scalar is taken where a value is. -/
theorem takes_of_scalar {x : Scalar} (spelled : Utf8.encode written = b :: more)
    (first : Opening b ∧ b ≠ ascii '[' ∧ b ≠ ascii '\x7b')
    (reads : ∀ rest, Closed rest → scalar limit b (more ++ rest) = .ok (x, rest)) (depth : Nat) :
    Takes (Reader.value limit depth) written (ofScalar x) := by
  obtain ⟨opening, noArray, noObject⟩ := first
  obtain ⟨inner, same⟩ : ∃ inner, Reader.value limit depth = valueWith limit inner := by
    cases depth <;> exact ⟨_, rfl⟩
  refine ⟨⟨b, more, spelled, opening⟩, ?_⟩
  intro blanks rest blank closed
  rw [spelled, List.cons_append, same]
  exact valueWith_scalar blank opening noArray noObject (reads rest closed)

theorem takes_scalar (x : Scalar) (layout : Layout) (level depth : Nat)
    (whole : (ofScalar x).Integral)
    (enough : ((ofScalar x).laidOut layout level).length ≤ limit) :
    Takes (Reader.value limit depth) ((ofScalar x).laidOut layout level) (ofScalar x) := by
  obtain ⟨b, more, spelled, first, reads⟩ := exists_of_scalar x layout level whole enough
  exact takes_of_scalar spelled first reads depth

theorem takes_array {depth : Nat} {items : List Json}
    (takes : ∀ item ∈ items,
      Takes (Reader.value limit depth) (item.laidOut layout (level + 1)) item.collected)
    (enough : ((array items).laidOut layout level).length ≤ limit) :
    Takes (Reader.value limit (depth + 1)) ((array items).laidOut layout level)
      (array items).collected := by
  have spelled := encode_cons_of_short (c := '[') (by decide)
  rw [laidOut_array] at enough ⊢
  refine ⟨⟨_, _, spelled _, by decide⟩, ?_⟩
  intro blanks rest blank _
  rw [spelled, collected_array]
  exact valueWith_array blank (arrayBody_written takes (Nat.le_of_succ_le enough) rest)

theorem takes_object {depth : Nat} {members : List (Text × Json)}
    (takes : ∀ member ∈ members,
      Takes (Reader.value limit depth) (member.2.laidOut layout (level + 1)) member.2.collected)
    (enough : ((object members).laidOut layout level).length ≤ limit) :
    Takes (Reader.value limit (depth + 1)) ((object members).laidOut layout level)
      (object members).collected := by
  have spelled := encode_cons_of_short (c := '\x7b') (by decide)
  rw [laidOut_object] at enough ⊢
  refine ⟨⟨_, _, spelled _, by decide⟩, ?_⟩
  intro blanks rest blank _
  rw [spelled, collected_object]
  exact valueWith_object blank (objectBody_written takes (Nat.le_of_succ_le enough) rest)

/-- Values are read back with their objects collected. -/
theorem takes_value {depth : Nat} (value : Json) (layout : Layout) (level : Nat)
    (whole : value.Integral) (shallow : value.depth ≤ depth)
    (enough : (value.laidOut layout level).length ≤ limit) :
    Takes (Reader.value limit depth) (value.laidOut layout level) value.collected := by
  induction value generalizing depth level with
  | null => exact takes_scalar .null layout level depth whole enough
  | bool b => exact takes_scalar (.bool b) layout level depth whole enough
  | number n => exact takes_scalar (.number n) layout level depth whole enough
  | string text => exact takes_scalar (.string text) layout level depth whole enough
  | array items ih =>
    cases depth with
    | zero => cases shallow
    | succ depth =>
      refine takes_array (fun item there => ?_) enough
      have room := Nat.le_trans (Nat.le_of_lt (length_item_lt there)) enough
      exact ih item there (level + 1) (integral_array_iff.mp whole item there)
        (depth_array_le_iff.mp shallow item there) room
  | object members ih =>
    cases depth with
    | zero => cases shallow
    | succ depth =>
      refine takes_object (fun member there => ?_) enough
      rw [laidOut_object] at enough
      have room := (length_member_lt _ (Nat.le_of_succ_le enough) there).2
      exact ih member there (level + 1) (integral_object_iff.mp whole member there)
        (depth_object_le_iff.mp shallow member there) (Nat.le_of_lt room)

theorem takes_objectOf {held : Nat → Read α} {depth : Nat} (write : β → Text) (meaning : β → α)
    {sources : List (Text × β)}
    (takes : ∀ source ∈ sources, Takes (held depth) (write source.2) (meaning source.2))
    (enough : (layout.enclosed level '\x7d'
      (sources.map fun (name, source) => layout.member name (write source))).length ≤ limit) :
    Takes (objectOf limit (depth + 1) held)
      ('\x7b' :: layout.enclosed level '\x7d'
        (sources.map fun (name, source) => layout.member name (write source)))
      (sources.map fun (name, source) => (name, meaning source)) := by
  have spelled := encode_cons_of_short (c := '\x7b') (by decide)
  refine ⟨⟨_, _, spelled _, by decide⟩, ?_⟩
  intro blanks rest blank _
  rw [spelled]
  exact objectOf_object blank (objectBody_written takes enough rest)

end Values

/-! Documents. -/

theorem whole_of_takes {read : Nat → Read α} {written : Text} {a : α}
    (takes : ∀ limit, written.length ≤ limit → Takes (read limit) written a) :
    whole read (Utf8.encode written) = .ok a := by
  have read := (takes _ (Utf8.length_le_length_encode written)).reads [] [] (by simp) closed_nil
  rw [List.nil_append, List.append_nil] at read
  rw [whole, read]
  rfl

end DocBrowser.Json.Reader
