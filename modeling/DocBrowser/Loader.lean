import DocBrowser.Index.Document

/-!
Loading the index. A load that is under way is shared by everyone who asks for it, a success is kept
for good, and a failure is forgotten at the next request. Nothing happens until a load is polled:
the first poll asks the source, and each further poll brings the answer one step nearer.
-/

namespace DocBrowser

/-- What a source answers to one request: after `delay` polls without answer, a document or an
error. -/
structure Response where
  delay : Nat := 0
  outcome : Except LoadError Bytes

/-- Where the index comes from. The requests are numbered from zero. -/
structure Source where
  location : Text
  respond : Nat → Response

namespace Source

/-- A source that gives the same answer to all requests. -/
def constant (location : Text) (outcome : Except LoadError Bytes) : Source :=
  ⟨location, fun _ => { outcome }⟩

def scripted (location : Text) (responses : List Response) : Source :=
  ⟨location, fun request =>
    (responses[request]?).getD { outcome := .error (.fetch location "no more responses") }⟩

end Source

/-- An index with the number of the load that read it. Two handles share one index if the numbers
agree. -/
@[ext]
structure SharedIndex where
  origin : Nat
  index : Index

abbrev LoadResult := Except LoadError SharedIndex

inductive Load
  /-- It gives an index that was there already, at its first poll. -/
  | ready (index : SharedIndex)
  /-- The source is not asked yet. -/
  | unpolled
  /-- The source is asked; `left` more polls bring no answer. -/
  | waiting (left : Nat) (outcome : Except LoadError Bytes)
  | finished (result : LoadResult)

inductive Poll (α : Type)
  | pending
  | done (value : α)

/-- All loads so far, by number. They live on when their loader is gone. -/
structure Loads where
  source : Source
  items : List Load := []
  /-- How often the source was asked. -/
  calls : Nat := 0

namespace Loads

/-- What the answer of the source makes of load `number`. -/
def complete (number : Nat) (outcome : Except LoadError Bytes) : LoadResult :=
  (outcome.bind Index.ofBytes).map fun index => ⟨number, index⟩

/-- Load `number` with `left` more polls that bring no answer, polled once. -/
def wait (loads : Loads) (number left : Nat) (outcome : Except LoadError Bytes) :
    Poll LoadResult × Loads :=
  match left with
  | 0 =>
    let result := complete number outcome
    (.done result, { loads with items := loads.items.set number (.finished result) })
  | left + 1 =>
    (.pending, { loads with items := loads.items.set number (.waiting left outcome) })

/-- Polls a load once. Loads that do not exist never answer. -/
def poll (loads : Loads) (number : Nat) : Poll LoadResult × Loads :=
  match loads.items[number]? with
  | none => (.pending, loads)
  | some (.finished result) => (.done result, loads)
  | some (.ready index) =>
    (.done (.ok index), { loads with items := loads.items.set number (.finished (.ok index)) })
  | some .unpolled =>
    let response := loads.source.respond loads.calls
    ({ loads with calls := loads.calls + 1 } : Loads).wait number response.delay response.outcome
  | some (.waiting left outcome) => loads.wait number left outcome

def result? (loads : Loads) (number : Nat) : Option LoadResult :=
  match loads.items[number]? with
  | some (.finished result) => some result
  | _ => none

def pollsLeft (loads : Loads) (number : Nat) : Nat :=
  match loads.items[number]? with
  | none => 0
  | some (.finished _) => 1
  | some (.ready _) => 1
  | some .unpolled => (loads.source.respond loads.calls).delay + 1
  | some (.waiting left _) => left + 1

end Loads

inductive LoadState
  | empty
  /-- The load with this number is under way. -/
  | pending (number : Nat)
  | resolved (index : SharedIndex)
  | failed (error : LoadError)

inductive LoadStatus
  | empty
  | pending
  | resolved (packages types : Nat)
  | failed (error : LoadError)

structure Loader extends Loads where
  state : LoadState := .empty
  /-- How many loads were begun that ask the source. -/
  fetches : Nat := 0

namespace Loader

def new (source : Source) : Loader := { source }

def push (loader : Loader) (load : Load) : Nat × Loader :=
  (loader.items.length, { loader with items := loader.items ++ [load] })

/-- The number of a load for the index: one that is ready if the index is there, the one under way
if there is one, and else a new one. -/
def load (loader : Loader) : Nat × Loader :=
  match loader.state with
  | .resolved index => loader.push (.ready index)
  | .pending number => (number, loader)
  | .empty | .failed _ =>
    let (number, begun) := loader.push .unpolled
    (number, { begun with state := .pending number, fetches := loader.fetches + 1 })

/-- Keeps how a load that asked the source has ended. -/
def keep : LoadResult → LoadState
  | .ok index => .resolved index
  | .error error => .failed error

/-- Whether a load has still to end, and asks the source for that. -/
def isUnfinished : Option Load → Bool
  | some .unpolled => true
  | some (.waiting _ _) => true
  | _ => false

/-- Polls a load once. When a load that asked the source ends, the loader takes its result. -/
def poll (loader : Loader) (number : Nat) : Poll LoadResult × Loader :=
  let (answer, loads) := loader.toLoads.poll number
  let state :=
    match answer with
    | .done result => if isUnfinished loader.items[number]? then keep result else loader.state
    | .pending => loader.state
  (answer, { loader with toLoads := loads, state })

def cached (loader : Loader) : Option SharedIndex :=
  match loader.state with
  | .resolved index => some index
  | _ => none

def status (loader : Loader) : LoadStatus :=
  match loader.state with
  | .empty => .empty
  | .pending _ => .pending
  | .resolved shared => .resolved shared.index.size shared.index.typeCount
  | .failed error => .failed error

def pollUntil (number : Nat) : Nat → Loader → Poll LoadResult × Loader
  | 0, loader => (.pending, loader)
  | limit + 1, loader =>
    match loader.poll number with
    | (.pending, loader) => pollUntil number limit loader
    | done => done

def await (loader : Loader) : Poll LoadResult × Loader :=
  let (number, loader) := loader.load
  pollUntil number (loader.pollsLeft number) loader

end Loader

end DocBrowser
