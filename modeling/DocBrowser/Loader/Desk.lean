import DocBrowser.Loader

/-!
A desk that keeps a loader and hands out numbered handles on its loads. Handles can be polled and
dropped in any order, and so can the loader: the loads in the hands of others go on without it.
-/

namespace DocBrowser

inductive Owner
  | live (loader : Loader)
  | gone (loads : Loads)

namespace Owner

def loads : Owner → Loads
  | .live loader => loader.toLoads
  | .gone loads => loads

def loader? : Owner → Option Loader
  | .live loader => some loader
  | .gone _ => none

def poll (number : Nat) : Owner → Poll LoadResult × Owner
  | .live loader =>
    let (answer, loader) := loader.poll number
    (answer, .live loader)
  | .gone loads =>
    let (answer, loads) := loads.poll number
    (answer, .gone loads)

end Owner

/-- A loader with the handles given out; a dropped handle leaves a gap. -/
structure Desk where
  owner : Owner
  handles : List (Option Nat) := []

inductive DeskStep
  | load
  | poll (handle : Nat)
  | drop (handle : Nat)
  | dropLoader
  deriving DecidableEq

inductive DeskAnswer
  | handle (number : Nat)
  | polled (answer : Poll LoadResult)
  | dropped (existed : Bool)
  | noLoader
  | noHandle

namespace Desk

def new (source : Source) : Desk := { owner := .live (.new source) }

def number? (desk : Desk) (handle : Nat) : Option Nat := (desk.handles[handle]?).join

def step (desk : Desk) : DeskStep → DeskAnswer × Desk
  | .load =>
    match desk.owner with
    | .gone _ => (.noLoader, desk)
    | .live loader =>
      let (number, loader) := loader.load
      (.handle desk.handles.length,
        { owner := .live loader, handles := desk.handles ++ [some number] })
  | .poll handle =>
    match desk.number? handle with
    | none => (.noHandle, desk)
    | some number =>
      let (answer, owner) := desk.owner.poll number
      (.polled answer, { desk with owner })
  | .drop handle =>
    match desk.number? handle with
    | none => (.dropped false, desk)
    | some _ => (.dropped true, { desk with handles := desk.handles.set handle none })
  | .dropLoader =>
    match desk.owner with
    | .gone _ => (.dropped false, desk)
    | .live loader => (.dropped true, { desk with owner := .gone loader.toLoads })

def run (desk : Desk) : List DeskStep → Desk
  | [] => desk
  | step :: rest => run (desk.step step).2 rest

def sameLoad? (desk : Desk) (a b : Nat) : Option Bool := do
  let first ← desk.number? a
  let second ← desk.number? b
  some (first == second)

/-- The index behind a handle, if its load has succeeded. -/
def index? (desk : Desk) (handle : Nat) : Option SharedIndex := do
  let number ← desk.number? handle
  let result ← desk.owner.loads.result? number
  result.toOption

/-- Whether two handles share one index, if both loads have succeeded. -/
def sameIndex? (desk : Desk) (a b : Nat) : Option Bool := do
  let first ← desk.index? a
  let second ← desk.index? b
  some (first.origin == second.origin)

end Desk

end DocBrowser
