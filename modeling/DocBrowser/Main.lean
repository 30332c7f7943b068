import DocBrowser.CommandLine.Run

/-!
The program itself: it looks at the files that a command line names, lets the library decide, and
prints and writes what comes out. A session answers each line as it is typed. The width of the
terminal is not asked for.
-/

namespace DocBrowser.Program

def usage : String :=
  "usage: pkgdocs [-v] [--config FILE] [--index LOCATION] [--plain] [--no-color]\n" ++
    "               (open PATH | browse [PATH] | packages | search QUERY | init [--force])"

def fileError : IO.Error → FileError
  | .noFileOrDirectory _ _ _ => .missing
  | .inappropriateType _ code _ => if code = 21 then .isDirectory else .notDirectory
  | .invalidArgument _ _ _ => .nameTooLong
  | error => .other error.toString.toList

def look (path : Text) : IO (Text × Except FileError Bytes) := do
  try
    let content ← IO.FS.readBinFile (String.ofList path)
    return (path, .ok content.toList)
  catch error => return (path, .error (fileError error))

def lookAround (invocation : Invocation) : IO Files := do
  let settings ← look (invocation.settingsPath.getD Settings.standardPath)
  let standard ← look Settings.standardPath
  let location := invocation.indexLocation (.ofKnown [settings, standard])
  if invocation.verbose then IO.eprintln ("index: " ++ String.ofList location)
  if Web.isAddress location then return .ofKnown [settings, standard]
  return .ofKnown [settings, standard, ← look location]

def print (colour : Bool) (page : Styled) : IO Unit := do
  let output ← IO.getStdout
  output.putStr (String.ofList (page.paint colour))
  output.flush

/-- The next line with its line end, and what was received after it. It is empty at the end. -/
partial def nextLine (received : Bytes) : IO (Bytes × Bytes) := do
  match received.dropWhile (· != 0x0A) with
  | lineEnd :: later => return (received.takeWhile (· != 0x0A) ++ [lineEnd], later)
  | [] =>
    let more ← (← IO.getStdin).read 4096
    if more.isEmpty then return (received, []) else nextLine (received ++ more.toList)

/-- Answers lines as they come. The result is what broke the session off, if anything did. -/
partial def converse (around : Surroundings) (colour : Bool) (session : Session)
    (received : Bytes) : IO (Option Text) := do
  print colour Session.prompt
  let (line, received) ← nextLine received
  if line.isEmpty then
    print colour (Page.line [])
    return none
  match session.reply around line with
  | .brokenOff message => return some message
  | .over shown _ =>
    print colour shown
    return none
  | .goesOn shown session =>
    print colour shown
    converse around colour session received

def carryOut (invocation : Invocation) (files : Files) (colour : Bool) : IO Outcome := do
  match invocation.task, Table.standard with
  | .browse path, .ok table =>
    let around : Surroundings := ⟨table, invocation.pageOptions files none⟩
    let (greeting, session) := Session.start around (invocation.loader files) path
    print (invocation.usesColour colour) greeting
    return { failure := ← converse around (invocation.usesColour colour) session [] }
  | _, _ =>
    let outcome := invocation.run files colour []
    try
      for (path, content) in outcome.written do
        IO.FS.writeBinFile (String.ofList path) ⟨content.toArray⟩
      return outcome
    catch error =>
      let fault := fileError error
      return invocation.run { files with writeFault := fun _ => some fault } colour []

end DocBrowser.Program

open DocBrowser in
def main (words : List String) : IO UInt32 := do
  match Invocation.ofWords? (words.map String.toList) with
  | none =>
    IO.eprintln Program.usage
    return 2
  | some invocation =>
    let forced := (← IO.getEnv "CLICOLOR_FORCE").any (· != "0")
    let colour := forced || (← (← IO.getStdout).isTty)
    let files ← Program.lookAround invocation
    let outcome ← Program.carryOut invocation files colour
    IO.print (String.ofList outcome.output)
    IO.eprint (String.ofList (outcome.complaint (invocation.usesColour colour)))
    return UInt32.ofNat outcome.status
