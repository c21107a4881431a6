import Driftwatch.Command.Switch

/-!
# Arguments

The first word that is no option names a command, and the arguments after it are for that command.
After two dashes every argument is a plain word. A plain word is the value of an option that waits
for one, and otherwise the subject of the command, of which there is one.

## Main definitions

* `Verb`: the names of commands.
* `Verb.read`: the arguments of a command.
* `Invocation.ofArgs`: the command that arguments give.
-/

namespace Driftwatch

/-- The names of commands. -/
inductive Verb where
  | scan
  | watch
  | extract
  | history
  deriving Repr, DecidableEq

namespace Verb

/-- The word that names a command. -/
def name : Verb → String
  | scan => "scan"
  | watch => "watch"
  | extract => "extract"
  | history => "history"

/-- The command that a word names. -/
def ofName? (word : String) : Option Verb :=
  [scan, watch, extract, history].find? (·.name == word)

/-- The options of a command. -/
def switches : Verb → List Switch
  | scan => [.output, .format, .verbose, .help]
  | watch => [.output, .interval, .verbose, .help]
  | extract => [.json, .verbose, .help]
  | history => [.output, .verbose, .help]

/-- Takes a plain word: the value of the option that waits for one, or the subject. -/
def takeWord (given : Arguments) (plainOnly : Bool) (word : String) : Except Stop Arguments :=
  match if plainOnly then none else given.waiting? with
  | some slot => .ok { given with pending := some ⟨slot, some word⟩ }
  | none =>
    if given.hasSubject then Arguments.refuse .unknownArgument
    else given.await .subject (some word)

/-- Reads the arguments of a command. `plainOnly` says that two dashes were read. -/
def read (verb : Verb) (plainOnly : Bool) (given : Arguments) :
    List String → Except Stop Arguments
  | [] => given.settle
  | word :: words =>
    let next :=
      if plainOnly then (takeWord given true word).map (·, true)
      else
        match word.toList with
        | ['-', '-'] => .ok (given, true)
        | '-' :: '-' :: text => (given.takeLong verb.switches text).map (·, false)
        | '-' :: c :: text => (given.takeShort verb.switches (c :: text)).map (·, false)
        | _ => (takeWord given false word).map (·, false)
    match next with
    | .error stop => .error stop
    | .ok (given, plainOnly) => read verb plainOnly given words

/-- The command that its arguments give. Only a listing of scans can do without a subject. -/
def command (verb : Verb) (given : Arguments) : Except Stop Command :=
  match verb, given.subject with
  | scan, some target => .ok (.scan target given.output given.formats)
  | watch, some target => .ok (.watch target given.output given.interval)
  | extract, some file => .ok (.extract file given.json)
  | history, target => .ok (.history target given.output)
  | _, none => Arguments.refuse .missingArgument

end Verb

/-- Whether a word after the name of the program is understood as a command. -/
def isCommandWord (word : String) : Bool :=
  word == "help" || (Verb.ofName? word).isSome

/-- What words after the command for help give: help on one command, or on the program. -/
def helpOn : List String → Stop
  | [] => .help
  | [word] => if isCommandWord word then .help else .refused .unknownCommand
  | _ => .refused .unknownCommand

namespace Invocation

/-- The options before a command. -/
def switches : List Switch :=
  [.verbose, .help, .version]

/-- A command with its arguments. -/
def ofVerb (verb : Verb) (verbose : Bool) (words : List String) : Except Stop Invocation :=
  match verb.read false {} words with
  | .error stop => .error stop
  | .ok given =>
    (verb.command given).map fun command => ⟨verbose || given.verbose, command⟩

/-- Reads arguments up to the name of a command. -/
def read (given : Arguments) : List String → Except Stop Invocation
  | [] =>
    Arguments.refuse (if given.verbose then .missingCommand else .nothingGiven)
  | word :: words =>
    match Verb.ofName? word, word.toList with
    | some verb, _ => ofVerb verb given.verbose words
    | none, ['-', '-'] =>
      match words with
      | [] => Arguments.refuse (if given.verbose then .missingCommand else .nothingGiven)
      | word :: _ =>
        Arguments.refuse (if isCommandWord word then .unknownArgument else .unknownCommand)
    | none, '-' :: '-' :: text =>
      match given.takeLong switches text with
      | .error stop => .error stop
      | .ok given => read given words
    | none, '-' :: c :: text =>
      match given.takeShort switches (c :: text) with
      | .error stop => .error stop
      | .ok given => read given words
    | none, _ => if word = "help" then .error (helpOn words) else Arguments.refuse .unknownCommand

/-- The command that the arguments after the program's name give. -/
def ofArgs (words : List String) : Except Stop Invocation :=
  read {} words

end Invocation

end Driftwatch
