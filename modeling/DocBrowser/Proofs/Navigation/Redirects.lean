import DocBrowser.Proofs.Navigation.Chain

/-!
Redirects without a limit. A path reaches a landing over all the redirects on the way; whether a
navigation follows them to the end depends on their number alone.
-/

namespace DocBrowser.Table

/-- Redirects lead from a path to another, leaving the listed paths in turn. -/
inductive Leads (table : Table) : Text → List Text → Text → Prop
  | here (path : Text) : Leads table path [] path
  | redirect {path target last : Text} {left : List Text} :
      table.resolve path = some (.redirect target) → Leads table (normalize target) left last →
      Leads table path (path :: left) last

/-- The landing where a path leads to, over whatever redirects. -/
structure Reaches (table : Table) (path : Text) (landing : Landing) : Prop where
  leads : table.Leads (normalize path) landing.redirects landing.path
  landsOn : table.LandsOn landing

variable {table : Table} {path target last : Text} {left : List Text} {landing : Landing}
  {limit : Nat}

@[simp]
theorem resolve_normalize : table.resolve (normalize path) = table.resolve path := by
  rw [resolve, normalize_normalize, ← resolve]

theorem Leads.follow_of_le (leads : table.Leads path left last) (enough : left.length ≤ limit)
    (before : List Text) :
    table.follow limit path before =
      table.follow (limit - left.length) last (before ++ left) := by
  induction leads generalizing limit before with
  | here path => simp
  | redirect resolves _ ih =>
    cases limit with
    | zero => simp at enough
    | succ limit =>
      rw [follow, resolves]
      simp only
      rw [ih (Nat.le_of_succ_le_succ enough), List.length_cons, Nat.add_sub_add_right,
        List.append_assoc]
      rfl

theorem Leads.follow_of_lt (leads : table.Leads path left last) (short : limit < left.length)
    (before : List Text) : table.follow limit path before = .loops := by
  induction leads generalizing limit before with
  | here path => cases short
  | redirect resolves _ ih =>
    rw [follow, resolves]
    cases limit with
    | zero => rfl
    | succ limit => exact ih (Nat.lt_of_succ_lt_succ short) _

/-- There is one way to a path that no redirect leads on from. -/
theorem Leads.eq_of_stops {other : List Text} (leads : table.Leads path left last)
    (stops : ∀ target, table.resolve last ≠ some (.redirect target))
    (again : table.Leads path other last) : other = left := by
  induction leads generalizing other with
  | here path =>
    cases again with
    | here => rfl
    | redirect resolves _ => exact absurd resolves (stops _)
  | redirect resolves _ ih =>
    cases again with
    | here => exact absurd resolves (stops _)
    | redirect same rest =>
      rw [resolves] at same
      cases same
      rw [ih stops rest]

theorem Leads.exists_of_mem {between : Text} (leads : table.Leads path left last)
    (there : between ∈ left) :
    ∃ before after, left = before ++ between :: after ∧
      table.Leads between (between :: after) last := by
  induction leads with
  | here path => cases there
  | @redirect path target last left resolves rest ih =>
    rcases List.mem_cons.mp there with rfl | later
    · exact ⟨[], left, rfl, .redirect resolves rest⟩
    · obtain ⟨before, after, rfl, leads⟩ := ih later
      exact ⟨path :: before, after, rfl, leads⟩

/-- On the way to a path that no redirect leads on from, no path comes twice. -/
theorem Leads.nodup (leads : table.Leads path left last)
    (stops : ∀ target, table.resolve last ≠ some (.redirect target)) :
    (left ++ [last]).Nodup := by
  induction leads with
  | here path => simp
  | @redirect path target last left resolves rest ih =>
    refine List.nodup_cons.mpr ⟨?_, ih stops⟩
    intro there
    rcases List.mem_append.mp there with inside | same
    · obtain ⟨before, after, rfl, again⟩ := rest.exists_of_mem inside
      have whole := Leads.eq_of_stops (.redirect resolves rest) stops again
      have longer := congrArg List.length whole
      simp at longer
      omega
    · obtain rfl := List.mem_singleton.mp same
      exact stops _ resolves

theorem exists_leads_of_follow {before : List Text} (normal : normalize path = path)
    (lands : table.follow limit path before = .lands landing) :
    ∃ left, landing.redirects = before ++ left ∧ table.Leads path left landing.path := by
  fun_induction table.follow limit path before with
  | case1 limit path before kind requires params resolves =>
    cases lands
    exact ⟨[], by simp, .here path⟩
  | case2 => cases lands
  | case3 path before target resolves limit ih =>
    obtain ⟨left, redirects, leads⟩ := ih normalize_normalize lands
    exact ⟨path :: left, by simp [redirects], .redirect resolves leads⟩
  | case4 => cases lands

namespace Reaches

theorem of_chain (lands : table.chain path = .lands landing) : table.Reaches path landing where
  leads := by
    obtain ⟨left, redirects, leads⟩ := exists_leads_of_follow normalize_normalize lands
    rw [redirects]
    exact leads
  landsOn := landsOn_of_chain lands

theorem chain_of_le (reaches : table.Reaches path landing)
    (few : landing.redirects.length ≤ maxRedirects) : table.chain path = .lands landing := by
  rw [chain, reaches.leads.follow_of_le few, follow, reaches.landsOn.resolves]
  simp

theorem chain_of_lt (reaches : table.Reaches path landing)
    (many : maxRedirects < landing.redirects.length) : table.chain path = .loops :=
  reaches.leads.follow_of_lt many []

theorem of_view {kind : ViewKind} {requires : Option Prerequisite} {params : Params}
    (resolves : table.resolve path = some (.view kind requires params)) :
    table.Reaches path ⟨normalize path, [], kind, requires, params⟩ where
  leads := .here _
  landsOn := ⟨normalize_normalize, by rw [resolve_normalize, resolves]⟩

theorem of_redirect (resolves : table.resolve path = some (.redirect target))
    (reaches : table.Reaches target landing) :
    table.Reaches path { landing with redirects := normalize path :: landing.redirects } where
  leads := .redirect (resolve_normalize.trans resolves) reaches.leads
  landsOn := ⟨reaches.landsOn.normal, reaches.landsOn.resolves⟩

theorem exists_of_redirect (reaches : table.Reaches path landing)
    (resolves : table.resolve path = some (.redirect target)) :
    ∃ later, landing.redirects = normalize path :: later ∧
      table.Reaches target { landing with redirects := later } := by
  obtain ⟨last, redirects, kind, requires, params⟩ := landing
  obtain ⟨leads, landsOn⟩ := reaches
  have first := resolve_normalize.trans resolves
  cases leads with
  | here =>
    have view := first.symm.trans landsOn.resolves
    cases view
  | redirect same rest =>
    rw [first] at same
    cases same
    exact ⟨_, rfl, rest, ⟨landsOn.normal, landsOn.resolves⟩⟩

theorem nodup (reaches : table.Reaches path landing) :
    (landing.redirects ++ [landing.path]).Nodup := by
  apply reaches.leads.nodup
  intro target resolves
  rw [reaches.landsOn.resolves] at resolves
  cases resolves

end Reaches

end DocBrowser.Table
