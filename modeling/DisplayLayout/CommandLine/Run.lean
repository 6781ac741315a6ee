import DisplayLayout.CommandLine.Arguments
import DisplayLayout.CommandLine.FileAccess
import DisplayLayout.Compile
import DisplayLayout.Project.Document
import DisplayLayout.Qr.Symbol
import DisplayLayout.Recovery

/-!
# Commands

What the commands do with files, and what they print. The first problem ends a
command: that of the configuration, then that of the mode, of the project, and of
the output. The commands encode QR symbols by the standard.
-/

namespace DisplayLayout

/-- What a command leaves behind besides files. -/
structure Outcome where
  code : Nat := 0
  stdout : String := ""
  stderr : String := ""
  /-- What was reported on the way. -/
  events : List Event := []
deriving Repr

/-- Keeps the reports that are shown: all of them, or those that matter more than a little. -/
def Outcome.shown (verbose : Bool) (o : Outcome) : Outcome :=
  { o with events := o.events.filter fun e => verbose || e.severity != .debug }

/-- Why a command failed. -/
inductive CommandFailure where
  | unreadable (path reason : String)
  | unreadableConfig (path reason : String)
  | unwritable (path reason : String)
  | refused (failure : Failure)

namespace CommandFailure

/-- The message about a failure. -/
def message : CommandFailure → String
  | unreadable path reason => "failed to read " ++ path ++ ": " ++ reason
  | unreadableConfig path reason => "io error: " ++ path ++ ": " ++ reason
  | unwritable path reason => "failed to write " ++ path ++ ": " ++ reason
  | refused f => f.message

end CommandFailure

namespace Command

variable {m : Type → Type} [Monad m]

/-- A step of a command, which may fail. -/
abbrev Step (m : Type → Type) := ExceptT CommandFailure m

/-- Goes on unless a reason was given. -/
def orFail {α : Type} (failure : String → CommandFailure) (x : m (Except String α)) : Step m α :=
  ExceptT.mk do
    match ← x with
    | .ok a => return .ok a
    | .error reason => return .error (failure reason)

/-- Goes on unless reading failed. -/
def orRefuse {α : Type} (x : Except Failure α) : Step m α :=
  ExceptT.mk (return x.mapError CommandFailure.refused)

/-- The configuration in the current folder that is used if no other is given. -/
def defaultConfig : String := "panel.toml"

/-- Reads a configuration. -/
def readConfig (files : FileAccess m) (path : String) : Step m Config := do
  orRefuse (Config.read (← orFail (.unreadableConfig path) (files.read path)))

/-- Reads the configuration that is given, or the one in the current folder, or takes the
default one. -/
def findConfig (files : FileAccess m) : Option String → Step m Config
  | some path => readConfig files path
  | none => do
    if ← files.isFile defaultConfig then readConfig files defaultConfig else return {}

/-- Puts a text into a file, or prints it; answers what is printed. -/
def deliver (files : FileAccess m) (text : String) : Option String → Step m String
  | some path => do
    orFail (.unwritable path) (files.write path text)
    return ""
  | none => return text

/-- The line that tells what was compiled. -/
def compiledLine (a : Artifact) : String :=
  s!"Compiled {a.stats.pages} page(s), {a.stats.widgets} widget(s) for {a.mode.name} ({a.stats.skipped} skipped)\n"

/-- Compiles a project document. -/
def compileFile (files : FileAccess m) (project : String) (config mode out : Option String)
    (json : Bool) : Step m Outcome := do
  let config ← findConfig files config
  let config ← match mode with
    | some text => do
      let mode ← orRefuse (Config.readMode text)
      pure { config with mode }
    | none => pure config
  let loaded ← orRefuse (Project.ofText (← orFail (.unreadable project) (files.read project)))
  let result := loaded.project.compile config
  let body := if json then result.artifact.document.pretty ++ "\n" else result.artifact.text
  let stdout ← deliver files body out
  return { stdout, stderr := compiledLine result.artifact, events := loaded.events ++ result.events }

/-- The line that tells what was recovered. -/
def recoveredLine (p : Project) : String :=
  s!"Recovered {p.pages.length} page(s) with {p.widgets.length} widget(s)\n"

/-- Recovers a project from a document or a generated text. -/
def recoverFile (files : FileAccess m) (input : String) (out : Option String) : Step m Outcome := do
  let loaded ← orRefuse (Project.ofAnyText (← orFail (.unreadable input) (files.read input)))
  let stdout ← deliver files (loaded.project.render ++ "\n") out
  return { stdout, stderr := recoveredLine loaded.project, events := loaded.events }

/-- Fills a text up with spaces to a width. -/
def padded (width : Nat) (s : String) : String := s ++ Text.spaces (width - s.length)

/-- The line about a widget type: its tag, its modes, its size, and its other names. -/
def kindLine (k : Kind) : String :=
  let names := Alias.namesOf k
  padded 16 k.tag ++ "  " ++ padded 4 k.behaviour.modes.letters
    ++ s!"  {k.behaviour.size.1}x{k.behaviour.size.2}"
    ++ if names.isEmpty then "" else "  aliases: " ++ Text.join ", " names

/-- The list of all widget types. -/
def kindList : String := Text.unlines (Kind.all.map kindLine)

/-- Runs a command. -/
def run (files : FileAccess m) : Command → Step m Outcome
  | compile project config mode out json => compileFile files project config mode out json
  | recover input out => recoverFile files input out
  | widgets => return { stdout := kindList }

end Command

namespace CommandLine

/-- The version of the program. -/
def version : String := "panelc 0.4.0\n"

/-- How the program is used. -/
def help : String :=
  Text.unlines
    ["Compile display layouts to ESPHome, LVGL and e-paper payloads",
      "",
      "Usage: panelc [OPTIONS] [COMMAND]",
      "",
      "Commands:",
      "  compile  Compile a layout project into a backend artifact",
      "  import   Rebuild a project from generated text or a project JSON",
      "  widgets  List registered widget types",
      "",
      "Options:",
      "  -v, --verbose  Show debug output for every widget",
      "  -h, --help     Print help",
      "  -V, --version  Print version"]

/-- Runs a command line. -/
def run {m : Type → Type} [Monad m] (files : FileAccess m) (words : List String) : m Outcome := do
  match Arguments.read words with
  | .help => return { stdout := help }
  | .version => return { stdout := version }
  | .refused => return { code := 2, stderr := "error: the arguments are not understood\n\n" ++ help }
  | .run command verbose =>
    match ← (Command.run files command).run with
    | .ok outcome => return outcome.shown verbose
    | .error e => return { code := 1, stderr := "Error: " ++ e.message ++ "\n" }

end CommandLine

end DisplayLayout
