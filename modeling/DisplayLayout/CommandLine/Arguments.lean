import DisplayLayout.Keyed
import DisplayLayout.Text.Basic

/-!
# Arguments

The words of a command line. An option may be given once, with its value in the
next word or behind an equals sign. A word that begins with a hyphen is never the
value of the option before it, and nothing but options is accepted.
-/

namespace DisplayLayout

/-- A command and its options. -/
inductive Command where
  | compile (project : String) (config mode out : Option String) (json : Bool)
  | recover (input : String) (out : Option String)
  | widgets
deriving DecidableEq, Repr

/-- What a command line asks for. -/
inductive Instruction where
  | run (command : Command) (verbose : Bool)
  | help
  | version
  /-- It cannot be understood. -/
  | refused
deriving DecidableEq, Repr

namespace Arguments

/-- What an option takes. -/
inductive Taking where
  /-- No value. -/
  | nothing
  /-- A text. -/
  | text
  /-- A path, which is not empty. -/
  | path
deriving DecidableEq, Repr

/-- The options of a command by their names. -/
abbrev Options := Keyed Taking

/-- The option that every command has, before and behind the command. -/
def verboseName : String := "verbose"

/-- The options that stand before a command. -/
def generalOptions : Options := [(verboseName, .nothing)]

/-- The options of compiling. -/
def compileOptions : Options :=
  generalOptions
    ++ [("project", .path), ("config", .path), ("mode", .text), ("out", .path), ("json", .nothing)]

/-- The options of recovering a project. -/
def recoverOptions : Options := generalOptions ++ [("input", .path), ("out", .path)]

/-- Why reading stops early. -/
inductive Stop where
  | help
  | version
  | refused
deriving DecidableEq, Repr

/-- The options that have been read. -/
structure Scan where
  /-- The values by the names of their options; an option without a value has an empty one. -/
  values : Keyed String := []
  /-- The option that waits for its value. -/
  pending : Option (String × Taking) := none
  /-- Whether the end of the options has been announced. -/
  closed : Bool := false
deriving Repr

namespace Scan

/-- Takes in an option with its value. -/
def give (s : Scan) (name : String) (taking : Taking) (value : String) : Except Stop Scan :=
  if s.values.contains name || (taking == .path && value.isEmpty) then .error .refused
  else .ok { s with values := s.values.put name value, pending := none }

/-- Reads an option with a long name, and the value behind an equals sign if there is one. -/
def long (options : Options) (allowVersion : Bool) (s : Scan) (name : String) (value : Option String) :
    Except Stop Scan :=
  match name, value with
  | "help", none => .error .help
  | "version", none => if allowVersion then .error .version else .error .refused
  | _, _ =>
    match Keyed.get? options name, value with
    | some .nothing, none => s.give name .nothing ""
    | some .nothing, some _ => .error .refused
    | some taking, some v => s.give name taking v
    | some taking, none => .ok { s with pending := some (name, taking) }
    | none, _ => .error .refused

/-- Reads options with short names that share one hyphen. -/
def short (allowVersion : Bool) (s : Scan) : List Char → Except Stop Scan
  | [] => .ok s
  | 'v' :: rest => do short allowVersion (← s.give verboseName .nothing "") rest
  | 'h' :: _ => .error .help
  | 'V' :: _ => if allowVersion then .error .version else .error .refused
  | _ :: _ => .error .refused

/-- Reads a word. -/
def word (options : Options) (allowVersion : Bool) (s : Scan) (w : String) : Except Stop Scan :=
  match s.closed, w.toList with
  | true, _ => .error .refused
  | false, ['-', '-'] =>
    if s.pending.isSome then .error .refused else .ok { s with closed := true }
  | false, '-' :: '-' :: cs =>
    if s.pending.isSome then .error .refused
    else match Text.splitFirst? '=' cs with
      | some (name, value) =>
        s.long options allowVersion (String.ofList name) (some (String.ofList value))
      | none => s.long options allowVersion (String.ofList cs) none
  | false, '-' :: c :: cs =>
    if s.pending.isSome then .error .refused else s.short allowVersion (c :: cs)
  | false, _ =>
    match s.pending with
    | some (name, taking) => s.give name taking w
    | none => .error .refused

/-- The options after all words; none may still wait for its value. -/
def finish (s : Scan) : Except Stop (Keyed String) :=
  if s.pending.isSome then .error .refused else .ok s.values

end Scan

/-- Reads the words behind a command. -/
def readOptions (options : Options) (words : List String) : Except Stop (Keyed String) := do
  (← words.foldlM (Scan.word options false) {}).finish

/-- The value of an option that has to be given. -/
def required (values : Keyed String) (name : String) : Except Stop String :=
  match Keyed.get? values name with
  | some v => .ok v
  | none => .error .refused

/-- Reads a command and the words behind it; also says whether the command is to be verbose. -/
def readCommand (name : String) (words : List String) : Except Stop (Command × Bool) := do
  match name with
  | "compile" =>
    let values ← readOptions compileOptions words
    let project ← required values "project"
    return (.compile project (Keyed.get? values "config") (Keyed.get? values "mode")
      (Keyed.get? values "out") (values.contains "json"), values.contains verboseName)
  | "import" =>
    let values ← readOptions recoverOptions words
    return (.recover (← required values "input") (Keyed.get? values "out"), values.contains verboseName)
  | "widgets" =>
    let values ← readOptions generalOptions words
    return (.widgets, values.contains verboseName)
  | "help" => throw .help
  | _ => throw .refused

/-- Reads words up to the command. Without a command there is only help to give. -/
def readWords (s : Scan) : List String → Except Stop (Command × Bool)
  | [] => .error .help
  | w :: rest =>
    if s.closed || w.toList.head? == some '-' && w != "-" then do
      readWords (← s.word generalOptions true w) rest
    else do
      let (command, verbose) ← readCommand w rest
      return (command, verbose || s.values.contains verboseName)

/-- Reads a command line. -/
def read (words : List String) : Instruction :=
  match readWords {} words with
  | .ok (command, verbose) => .run command verbose
  | .error .help => .help
  | .error .version => .version
  | .error .refused => .refused

end Arguments

end DisplayLayout
