import Driftwatch.Command.Basic
import Driftwatch.Text.Number

/-!
# Options of commands

The arguments of a command are read one by one. The value of an option, and the subject of a
command, stay pending until the next argument is understood. Only then are they checked, so an
argument that is not understood at all is reported before a pending one that is wrong.

## Main definitions

* `Switch`: the options, with their names.
* `Arguments`: what was read so far, with `Arguments.settle` to check what is pending.
* `Arguments.takeLong`, `Arguments.takeShort`: one argument that names options.
-/

namespace Driftwatch

/-- The options of the command line. -/
inductive Switch where
  | verbose
  | help
  | version
  | json
  | output
  | interval
  | format
  deriving Repr, DecidableEq

namespace Switch

/-- The name after two dashes. -/
def longName : Switch → String
  | verbose => "verbose"
  | help => "help"
  | version => "version"
  | json => "json"
  | output => "output"
  | interval => "interval"
  | format => "format"

/-- The letter after one dash. -/
def letter? : Switch → Option Char
  | verbose => some 'v'
  | help => some 'h'
  | version => some 'V'
  | output => some 'o'
  | interval => some 'i'
  | json | format => none

/-- Whether a value follows. -/
def takesValue : Switch → Bool
  | output | interval | format => true
  | _ => false

end Switch

/-- What a value is for. -/
inductive Slot where
  | switch (switch : Switch)
  /-- The folder or file that the command is about. -/
  | subject
  deriving Repr, DecidableEq

/-- A value that is not checked yet, or an option that waits for its value. -/
structure Pending where
  slot : Slot
  value : Option String
  deriving Repr, DecidableEq

/-- What was read of the arguments so far. -/
structure Arguments where
  verbose : Bool := false
  json : Bool := false
  output : Option Path := none
  interval : Option Nat := none
  formats : List ReportFormat := []
  subject : Option Path := none
  pending : Option Pending := none
  deriving Repr, DecidableEq

namespace Arguments

/-- Refuses what was read. -/
def refuse {α : Type} (refusal : Refusal) : Except Stop α :=
  .error (.refused refusal)

/-- A path, which must not be empty. -/
def path (value : String) : Except Stop Path :=
  if value = "" then refuse .badValue else .ok ⟨value⟩

/-- Takes an option without a value. -/
def raise (given : Arguments) (switch : Switch) : Except Stop Arguments :=
  match switch with
  | .help => .error .help
  | .version => .error .version
  | .verbose => if given.verbose then refuse .repeated else .ok { given with verbose := true }
  | .json => if given.json then refuse .repeated else .ok { given with json := true }
  | .output | .interval | .format => refuse .badValue

/-- Takes a value. Only reports may be asked for more than once. -/
def fill (given : Arguments) (slot : Slot) (value : String) : Except Stop Arguments :=
  match slot with
  | .subject => (path value).map fun subject => { given with subject := some subject }
  | .switch .output =>
    if given.output.isSome then refuse .repeated
    else (path value).map fun output => { given with output := some output }
  | .switch .interval =>
    if given.interval.isSome then refuse .repeated
    else
      match readCount? value.toList with
      | some n => .ok { given with interval := some n }
      | none => refuse .badCount
  | .switch .format =>
    match ReportFormat.ofName? value with
    | some format => .ok { given with formats := given.formats ++ [format] }
    | none => refuse .badValue
  | .switch switch => given.raise switch

/-- Checks what is pending. -/
def settle (given : Arguments) : Except Stop Arguments :=
  match given.pending with
  | none => .ok given
  | some ⟨slot, some value⟩ => { given with pending := none }.fill slot value
  | some ⟨_, none⟩ => refuse .badValue

/-- Leaves a value, or an option without its value, pending after what was pending before. -/
def await (given : Arguments) (slot : Slot) (value : Option String) : Except Stop Arguments :=
  given.settle.map fun given => { given with pending := some ⟨slot, value⟩ }

/-- The option that waits for its value. -/
def waiting? (given : Arguments) : Option Slot :=
  match given.pending with
  | some ⟨slot, none⟩ => some slot
  | _ => none

/-- Whether the folder or file that the command is about was given. -/
def hasSubject (given : Arguments) : Bool :=
  given.subject.isSome || given.pending.any (·.slot == .subject)

/-- Takes an option by its letter or name, with the value attached to it. -/
def take (given : Arguments) (switch : Switch) (value : Option String) : Except Stop Arguments :=
  match switch.takesValue, value with
  | true, some value => given.settle.bind (·.fill (.switch switch) value)
  | true, none => given.await (.switch switch) none
  | false, some _ => refuse .unneededValue
  | false, none => given.settle.bind (·.raise switch)

/-- Takes an argument that starts with two dashes, without them. A value may follow an equals
sign. -/
def takeLong (given : Arguments) (switches : List Switch) (text : List Char) :
    Except Stop Arguments :=
  let name := String.ofList (text.takeWhile (· != '='))
  match switches.find? (·.longName == name), text.dropWhile (· != '=') with
  | none, _ => refuse .unknownArgument
  | some switch, [] => given.take switch none
  | some switch, _ :: value => given.take switch (some (String.ofList value))

/-- Takes an argument that starts with one dash, without it. Each letter is an option, and what
follows the letter of an option with a value is that value. -/
def takeShort (given : Arguments) (switches : List Switch) : List Char → Except Stop Arguments
  | [] => .ok given
  | c :: rest =>
    match switches.find? (·.letter? == some c) with
    | none => refuse .unknownArgument
    | some switch =>
      if switch.takesValue then
        match rest with
        | [] => given.take switch none
        | '=' :: value => given.take switch (some (String.ofList value))
        | value => given.take switch (some (String.ofList value))
      else
        match given.take switch none with
        | .ok given => given.takeShort switches rest
        | .error stop => .error stop

end Arguments

end Driftwatch
