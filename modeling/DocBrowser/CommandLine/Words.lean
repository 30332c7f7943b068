import DocBrowser.Text

/-!
The words of a command line: options, a task, and the operands of the task. Options may stand
anywhere, once on each side of the task; those after it count for more.
-/

namespace DocBrowser

inductive Task
  | page (path : Text)
  /-- Hold a session, beginning with some page. -/
  | browse (path : Option Text)
  | packages
  | search (query : Text)
  | init (force : Bool)
  deriving DecidableEq

structure Invocation where
  task : Task
  verbose : Bool
  plain : Bool
  colourless : Bool
  settingsPath : Option Text
  location : Option Text

structure Given where
  verbose : Bool := false
  plain : Bool := false
  colourless : Bool := false
  force : Bool := false
  settingsPath : Option Text := none
  location : Option Text := none
  operands : List Text := []

namespace Given

/-- Whether a word is no option. A lone hyphen is none. -/
def isOperand (word : Text) : Bool := word.head? != some '-' || word == ['-']

/-- The option whose word takes no value. Only the task of writing a settings file can be forced. -/
def flag? (task : Option Text) (given : Given) (word : Text) : Option Given :=
  if word = ("--verbose" : Text) ∨ word = ("-v" : Text) then
    if given.verbose then none else some { given with verbose := true }
  else if word = ("--plain" : Text) then
    if given.plain then none else some { given with plain := true }
  else if word = ("--no-color" : Text) then
    if given.colourless then none else some { given with colourless := true }
  else if word = ("--force" : Text) then
    if given.force ∨ task ≠ some "init" then none else some { given with force := true }
  else none

/-- An option with its value. A settings file has to have a name. -/
def valued? (given : Given) (word value : Text) : Option Given :=
  if word = ("--config" : Text) then
    if given.settingsPath.isSome ∨ value = [] then none
    else some { given with settingsPath := some value }
  else if word = ("--index" : Text) then
    if given.location.isSome then none else some { given with location := some value }
  else none

/-- An option whose value stands in the same word, after an equals sign. -/
def attached? (given : Given) (word : Text) : Option Given :=
  match word.dropWhile (· != '=') with
  | [] => none
  | _ :: value => given.valued? (word.takeWhile (· != '=')) value

/-- Reads the words on one side of the task. Before it the first word that is no option ends the
reading; after it such words are operands, and so is all that follows two hyphens. -/
def read (task : Option Text) (given : Given) : List Text → Option (Given × List Text)
  | [] => some (given, [])
  | word :: rest =>
    if task.isSome ∧ word = ("--" : Text) then
      some ({ given with operands := given.operands ++ rest }, [])
    else if isOperand word then
      if task.isSome then read task { given with operands := given.operands ++ [word] } rest
      else some (given, word :: rest)
    else match (given.flag? task word).or (given.attached? word) with
      | some given => read task given rest
      | none =>
        match rest with
        | [] => none
        | value :: rest =>
          if isOperand value then
            match given.valued? word value with
            | some given => read task given rest
            | none => none
          else none

def task? (given : Given) (name : Text) : Option Task :=
  if name = ("open" : Text) then
    match given.operands with
    | [path] => some (.page path)
    | _ => none
  else if name = ("browse" : Text) then
    match given.operands with
    | [] => some (.browse none)
    | [path] => some (.browse (some path))
    | _ => none
  else if name = ("packages" : Text) then
    if given.operands.isEmpty then some .packages else none
  else if name = ("search" : Text) then
    match given.operands with
    | [query] => some (.search query)
    | _ => none
  else if name = ("init" : Text) then
    if given.operands.isEmpty then some (.init given.force) else none
  else none

end Given

/-- What the words of a command line ask for, if they make sense. -/
def Invocation.ofWords? (words : List Text) : Option Invocation := do
  let (before, rest) ← Given.read none {} words
  match rest with
  | [] => none
  | name :: rest =>
    let (after, _) ← Given.read (some name) {} rest
    some {
      task := ← after.task? name
      verbose := before.verbose || after.verbose
      plain := before.plain || after.plain
      colourless := before.colourless || after.colourless
      settingsPath := after.settingsPath.or before.settingsPath
      location := after.location.or before.location }

end DocBrowser
