import DocBrowser.Proofs.Gzip.Member
import DocBrowser.Proofs.Json.Results

/-!
Reading from the front. What is read off some bytes is also read off them with more bytes behind
them, and those are then left. So what is cut off a member is missed: if it could be expanded
without its end, then so it could with it, and its trailer would begin too early.
-/

namespace DocBrowser.Gzip

open Json.Reader (exists_of_bind_eq_ok)

variable {α β : Type} {bytes rest more : Bytes}

/-! Streams. -/

/-- The stream with more bytes at its end. -/
def Stream.append (s : Stream) (more : Bytes) : Stream := ⟨s.begun, s.bytes ++ more⟩

/-- Whatever is read off a stream is read by `longer` off the stream with more bytes at its end,
which are then left. -/
def Continues (read longer : Stream → Except DataFault (α × Stream)) : Prop :=
  ∀ s a left, read s = .ok (a, left) → ∀ more, longer (s.append more) = .ok (a, left.append more)

namespace Continues

variable {read longer read' longer' : Stream → Except DataFault (α × Stream)}

theorem ok (a : α) : Continues (fun s => .ok (a, s)) (fun s => .ok (a, s)) := by
  intro s b left success more
  cases success
  rfl

theorem error (fault : DataFault) : Continues (fun _ => .error fault) longer := by
  intro s a left success
  cases success

theorem bind {next next' : α × Stream → Except DataFault (β × Stream)}
    (first : Continues read longer)
    (later : ∀ a, Continues (fun s => next (a, s)) (fun s => next' (a, s))) :
    Continues (fun s => read s >>= next) (fun s => longer s >>= next') := by
  intro s b left success more
  obtain ⟨⟨a, middle⟩, given, others⟩ := exists_of_bind_eq_ok success
  change longer (s.append more) >>= next' = _
  rw [first s a middle given more]
  exact later a middle b left others more

theorem ite {c : Prop} [Decidable c] (yes : Continues read longer) (no : Continues read' longer') :
    Continues (fun s => if c then read s else read' s)
      (fun s => if c then longer s else longer' s) := by
  by_cases holds : c
  · simpa only [holds, if_true] using yes
  · simpa only [holds, if_false] using no

theorem next : Continues Stream.next Stream.next := by
  intro s bit left success more
  match s, success with
  | ⟨bit :: begun, bytes⟩, success =>
    cases success
    rfl
  | ⟨[], byte :: bytes⟩, success =>
    cases success
    rfl

theorem field (width : Nat) : Continues (Stream.field width) (Stream.field width) := by
  induction width with
  | zero => exact ok 0
  | succ width ih => exact next.bind fun bit => ih.bind fun n => ok _

theorem takeBytes (count : Nat) : Continues (Stream.takeBytes count) (Stream.takeBytes count) := by
  intro s bytes left success more
  rw [Stream.takeBytes] at success
  split at success
  · cases success
  · next room =>
    cases success
    have enough := Nat.not_lt.mp room
    have still : ¬ (s.append more).bytes.length < count := by
      simp only [Stream.append, List.length_append]
      omega
    rw [Stream.takeBytes, if_neg still]
    simp only [Stream.append, List.take_append_of_le_length enough,
      List.drop_append_of_le_length enough]

theorem word (code : Code) : Continues code.read code.read := by
  induction code with
  | unused => exact error _
  | leaf symbol => exact ok symbol
  | branch zero one zero_ih one_ih => exact next.bind fun bit => one_ih.ite zero_ih

theorem extended (symbols : List (Nat × Nat)) (symbol : Nat) :
    Continues (extended symbols symbol) (extended symbols symbol) := by
  cases found : symbols[symbol]? with
  | none =>
    intro s a left success
    rw [Gzip.extended, found] at success
    cases success
  | some entry =>
    obtain ⟨least, width⟩ := entry
    have same : Gzip.extended symbols symbol =
        fun s => Stream.field width s >>= fun read => .ok (least + read.1, read.2) := by
      funext s
      rw [Gzip.extended, found]
    rw [same]
    exact (field width).bind fun extra => ok (least + extra)

theorem codedBlock (codes : Codes) (out : Output) {limit limit' : Nat} (enough : limit ≤ limit') :
    Continues (codedBlock codes limit out) (codedBlock codes limit' out) := by
  induction limit generalizing out limit' with
  | zero => exact error _
  | succ limit ih =>
    obtain ⟨limit', rfl⟩ := Nat.exists_eq_succ_of_ne_zero (Nat.ne_zero_of_lt enough)
    have fewer := Nat.le_of_succ_le_succ enough
    refine (word codes.literals).bind fun symbol => (ih _ fewer).ite ((ok _).ite ?_)
    refine (extended _ _).bind fun length => (word codes.distances).bind fun symbol => ?_
    exact (extended _ _).bind fun distance => ih _ fewer

theorem storedBlock (out : Output) : Continues (storedBlock out) (storedBlock out) := by
  have aligned : Continues (fun s => s.aligned.field 16) (fun s => s.aligned.field 16) :=
    fun s => field 16 s.aligned
  refine aligned.bind fun length => (field 16).bind fun check => (error _).ite ?_
  exact (takeBytes _).bind fun bytes => ok _

theorem shortFields (count : Nat) : Continues (shortFields count) (shortFields count) := by
  induction count with
  | zero => exact ok _
  | succ count ih => exact (field 3).bind fun n => ih.bind fun later => ok _

theorem wordLengths (code : Code) (wanted limit : Nat) (done : List Nat) :
    Continues (wordLengths code wanted limit done) (wordLengths code wanted limit done) := by
  induction limit generalizing done with
  | zero => exact error _
  | succ limit ih =>
    refine (ok _).ite ((error _).ite ((word code).bind fun symbol => (ih _).ite ?_))
    refine ite ?_ (ite ?_ ?_)
    · cases done with
      | nil => exact error _
      | cons last before => exact (field 2).bind fun extra => ih _
    · exact (field 3).bind fun extra => ih _
    · exact (field 7).bind fun extra => ih _

theorem ownCodes : Continues ownCodes ownCodes := by
  refine (field 5).bind fun literals => (field 5).bind fun distances => ?_
  refine (field 4).bind fun lengths => (error _).ite ?_
  refine (shortFields _).bind fun given => (error _).ite ?_
  exact (wordLengths _ _ _ _).bind fun all => (ok _).ite (error _)

end Continues

variable {out result : Output} {limit limit' whole whole' : Nat} {final : Bool} {s left : Stream}

theorem block_append (enough : limit ≤ limit')
    (success : block limit out s = .ok (final, result, left)) (more : Bytes) :
    block limit' out (s.append more) = .ok (final, result, left.append more) := by
  rw [block] at success ⊢
  obtain ⟨⟨header, inside⟩, given, success⟩ := exists_of_bind_eq_ok success
  rw [Continues.field 3 _ _ _ given more]
  simp only [bind, Except.bind] at success ⊢
  split at success
  · next stored =>
    obtain ⟨⟨written, later⟩, read, last⟩ := exists_of_bind_eq_ok success
    cases last
    rw [if_pos stored, Continues.storedBlock out _ _ _ read more]
  next coded =>
  rw [if_neg coded]
  split at success
  · next fixed =>
    obtain ⟨⟨written, later⟩, read, last⟩ := exists_of_bind_eq_ok success
    cases last
    rw [if_pos fixed, Continues.codedBlock fixedCodes out enough _ _ _ read more]
  next own =>
  rw [if_neg own]
  split at success
  · next known =>
    obtain ⟨⟨codes, middle⟩, first, success⟩ := exists_of_bind_eq_ok success
    obtain ⟨⟨written, later⟩, read, last⟩ := exists_of_bind_eq_ok success
    cases last
    rw [if_pos known, Continues.ownCodes _ _ _ first more]
    simp only [Continues.codedBlock codes out enough _ _ _ read more]
  · cases success

theorem blocks_append (all : whole ≤ whole') (enough : limit ≤ limit')
    (success : blocks whole limit out s = .ok (result, left)) (more : Bytes) :
    blocks whole' limit' out (s.append more) = .ok (result, left.append more) := by
  induction limit generalizing limit' out s with
  | zero => cases success
  | succ limit ih =>
    obtain ⟨limit', rfl⟩ := Nat.exists_eq_succ_of_ne_zero (Nat.ne_zero_of_lt enough)
    rw [blocks] at success ⊢
    obtain ⟨⟨final, written, later⟩, read, success⟩ := exists_of_bind_eq_ok success
    rw [block_append all read more]
    cases final with
    | true =>
      cases success
      rfl
    | false => exact ih (Nat.le_of_succ_le_succ enough) success

theorem inflate_append (success : inflate bytes = .ok (result, rest)) (more : Bytes) :
    inflate (bytes ++ more) = .ok (result, rest ++ more) := by
  have room : 8 * bytes.length + 1 ≤ 8 * (bytes ++ more).length + 1 := by
    rw [List.length_append]
    omega
  rw [inflate] at success ⊢
  obtain ⟨⟨written, left⟩, read, last⟩ := exists_of_bind_eq_ok success
  cases last
  have longer : Stream.ofBytes (bytes ++ more) = (Stream.ofBytes bytes).append more := rfl
  rw [longer, blocks_append room room read more]
  rfl

/-! Headers. -/

theorem short?_append {n : Nat} (success : short? bytes = some (n, rest)) (more : Bytes) :
    short? (bytes ++ more) = some (n, rest ++ more) := by
  match bytes, success with
  | a :: b :: bytes, success =>
    cases success
    rfl

theorem exists_of_afterZero (success : afterZero bytes = .ok rest) :
    ∃ field, field.length ≤ maxField ∧ 0 ∉ field ∧ bytes = field ++ 0 :: rest := by
  have spelled := List.takeWhile_append_dropWhile (p := (· != 0)) (l := bytes)
  have first := List.head?_dropWhile_not (· != 0) bytes
  have plain : 0 ∉ bytes.takeWhile (· != 0) := by
    intro there
    have other := List.all_takeWhile (p := (· != 0)) (l := bytes)
    simpa using List.all_eq_true.mp other 0 there
  rw [afterZero] at success
  split at success
  · cases success
  next short =>
  split at success
  · cases success
  next zero behind left =>
  cases success
  rw [left] at first spelled
  have ends : zero = 0 := by simpa using first
  rw [ends] at spelled
  exact ⟨_, Nat.not_lt.mp short, plain, spelled.symm⟩

theorem afterZero_append (success : afterZero bytes = .ok rest) (more : Bytes) :
    afterZero (bytes ++ more) = .ok (rest ++ more) := by
  obtain ⟨field, short, plain, rfl⟩ := exists_of_afterZero success
  rw [List.append_assoc]
  exact afterZero_written short plain (rest ++ more)

theorem afterText_append {present : Bool} (success : afterText present bytes = .ok rest)
    (more : Bytes) : afterText present (bytes ++ more) = .ok (rest ++ more) := by
  cases present with
  | false =>
    cases success
    rfl
  | true => exact afterZero_append success more

variable {flags : UInt8}

theorem afterExtra_append (success : afterExtra flags bytes = .ok rest) (more : Bytes) :
    afterExtra flags (bytes ++ more) = .ok (rest ++ more) := by
  rw [afterExtra] at success ⊢
  split at success
  · next given =>
    rw [if_pos given]
    split at success
    · cases success
    next length left read =>
    rw [short?_append read more]
    split at success
    · cases success
    next room =>
    cases success
    have enough := Nat.not_lt.mp room
    have still : ¬ (left ++ more).length < length := by
      rw [List.length_append]
      omega
    simp only [still, if_false, List.drop_append_of_le_length enough]
  · next absent =>
    cases success
    rw [if_neg absent]

theorem afterCheck_append {front : Bytes} (success : afterCheck flags front bytes = .ok rest)
    (more : Bytes) : afterCheck flags (front ++ more) (bytes ++ more) = .ok (rest ++ more) := by
  have same : (front ++ more).take ((front ++ more).length - (bytes ++ more).length) =
      front.take (front.length - bytes.length) := by
    rw [List.length_append, List.length_append, Nat.add_sub_add_right,
      List.take_append_of_le_length (Nat.sub_le _ _)]
  rw [afterCheck] at success ⊢
  split at success
  · next given =>
    rw [if_pos given]
    split at success
    · cases success
    next stored left read =>
    rw [short?_append read more, same]
    dsimp only at success ⊢
    split at success
    · next right =>
      cases success
      exact if_pos right
    · cases success
  · next absent =>
    cases success
    rw [if_neg absent]

theorem afterHeader_append (success : afterHeader bytes = .ok rest) (more : Bytes) :
    afterHeader (bytes ++ more) = .ok (rest ++ more) := by
  rw [afterHeader] at success ⊢
  split at success
  · cases success
  next long =>
  have enough := Nat.not_lt.mp long
  have still : ¬ (bytes ++ more).length < 10 := by
    rw [List.length_append]
    omega
  have early : ∀ i < 10, (bytes ++ more).getD i 0 = bytes.getD i 0 := by
    intro i inside
    have within := Nat.lt_of_lt_of_le inside enough
    simp only [List.getD_eq_getElem?_getD, List.getElem?_append_left within]
  rw [if_neg still, List.drop_append_of_le_length enough]
  simp only [early 2 (by decide), early 3 (by decide)]
  dsimp only at success
  split at success
  · cases success
  next right =>
  rw [if_neg right]
  obtain ⟨fields, extra, success⟩ := exists_of_bind_eq_ok success
  obtain ⟨named, name, success⟩ := exists_of_bind_eq_ok success
  obtain ⟨commented, comment, success⟩ := exists_of_bind_eq_ok success
  rw [afterExtra_append extra more]
  change afterText _ (fields ++ more) >>= _ = _
  rw [afterText_append name more]
  change afterText _ (named ++ more) >>= _ = _
  rw [afterText_append comment more]
  exact afterCheck_append success more

theorem length_of_checkTrailer {content trailer : Bytes}
    (success : checkTrailer content trailer = .ok ()) : 8 ≤ trailer.length := by
  rw [checkTrailer] at success
  split at success
  · cases success
  · next room => exact Nat.not_lt.mp room

/-- A member cannot be expanded before it is whole. -/
theorem eq_of_expand {member : Member} {part content : Bytes} (cut : part <+: member.bytes)
    (success : expand part = .ok content) : part = member.bytes := by
  obtain ⟨more, joined⟩ := cut
  rw [expand] at success
  obtain ⟨data, header, success⟩ := exists_of_bind_eq_ok success
  obtain ⟨⟨out, trailer⟩, inflated, success⟩ := exists_of_bind_eq_ok success
  obtain ⟨_, checked, _⟩ := exists_of_bind_eq_ok success
  have room := length_of_checkTrailer checked
  have own : inflate data = .ok (out, trailer) := by
    cases given : inflate data with
    | error fault =>
      rw [given] at inflated
      cases inflated
    | ok pair =>
      rw [given] at inflated
      cases inflated
      rfl
  -- Read to its end, the member has its own trailer where the cut one has `trailer`.
  have front := afterHeader_append header more
  rw [joined, Member.bytes, List.append_assoc, List.append_assoc, member.afterHeader_written]
    at front
  have behind := inflate_append own more
  rw [← Except.ok.inj front, member.inflate_data] at behind
  have ends : member.trailer = trailer ++ more := (Prod.mk.inj (Except.ok.inj behind)).2
  have length := congrArg List.length ends
  rw [member.length_trailer, List.length_append] at length
  have nothing : more = [] := List.length_eq_zero_iff.mp (by omega)
  rw [← joined, nothing, List.append_nil]

end DocBrowser.Gzip
