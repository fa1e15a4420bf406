/-!
# Arguments of the command line

A command with its options. The options for the two directories may come before the command and
after it, each at most once in either place; after the command counts. The value of an option
follows it, or stands in the same argument after an equals sign.

Arguments are read from the first to the last, and the first that asks for help or is wrong decides.

## Main definitions

* `Command`, `Invocation`: what is to be done.
* `CommandLine.Reading`: what arguments ask for.
* `CommandLine.read`: reading arguments.
-/

set_option autoImplicit false

namespace NetworkIntent

/-- What can be done: storing the service document, deriving variables, from a snapshot if there is
one, and publishing an intent, from the service database if it is asked for. -/
inductive Command where
  | services
  | derive (snapshot : Option String)
  | publish (fromDatabase : Bool)
  deriving DecidableEq, Repr

/-- A command with the two directories, as far as they are given. -/
structure Invocation where
  command : Command
  intentRoot : Option String
  schemaDirectory : Option String
  deriving DecidableEq, Repr

namespace CommandLine

/-- What arguments ask for. -/
inductive Reading where
  /-- A command is to be run. -/
  | run (invocation : Invocation)
  /-- Help is asked for. -/
  | help
  /-- The version is asked for. -/
  | version
  /-- The arguments are wrong. -/
  | wrong
  deriving DecidableEq, Repr

/-- The names of the commands. -/
def commandNames : List String :=
  ["services", "variables", "publish"]

/-- The options of one place that have been read. -/
structure Options where
  intentRoot : Option String
  schemaDirectory : Option String
  snapshot : Option String
  fromDatabase : Bool
  deriving DecidableEq, Repr

/-- No options. -/
def Options.none : Options :=
  ⟨.none, .none, .none, false⟩

/-- An argument taken apart. -/
inductive Argument where
  /-- A long option, with the value after an equals sign. -/
  | long (name : String) (value : Option String)
  /-- Short options; only the first counts. -/
  | short (letter : Char)
  /-- The end of all options. -/
  | ending
  /-- Anything else. -/
  | plain (text : String)
  deriving DecidableEq, Repr

/-- Takes an argument apart. A single dash is no option. -/
def Argument.ofString (argument : String) : Argument :=
  match argument.toList with
  | ['-', '-'] => .ending
  | '-' :: '-' :: rest =>
    let name := String.ofList (rest.takeWhile (· ≠ '='))
    match rest.dropWhile (· ≠ '=') with
    | [] => .long name none
    | _ :: value => .long name (some (String.ofList value))
  | '-' :: letter :: _ => .short letter
  | _ => .plain argument

/-- The value of an option and the arguments after it. An empty value is none, and what looks like
an option is no value. -/
def takeValue? (value : Option String) (rest : List String) : Option (String × List String) :=
  match value, rest with
  | some value, rest => if value.isEmpty then none else some (value, rest)
  | none, argument :: rest =>
    match Argument.ofString argument with
    | .plain text => if text.isEmpty then none else some (text, rest)
    | _ => none
  | none, [] => none

/-- What a long option does to the options that have been read, and the arguments after it. -/
def readOption? (command : Option String) (name : String) (value : Option String)
    (rest : List String) (options : Options) : Option (Options × List String) :=
  match name with
  | "intent-root" =>
    if options.intentRoot.isSome then none
    else (fun (text, rest) => ({ options with intentRoot := some text }, rest)) <$>
      takeValue? value rest
  | "schema-dir" =>
    if options.schemaDirectory.isSome then none
    else (fun (text, rest) => ({ options with schemaDirectory := some text }, rest)) <$>
      takeValue? value rest
  | "inventory-snapshot" =>
    if command ≠ some "variables" ∨ options.snapshot.isSome then none
    else (fun (text, rest) => ({ options with snapshot := some text }, rest)) <$>
      takeValue? value rest
  | "from-service-db" =>
    if command ≠ some "publish" ∨ options.fromDatabase ∨ value.isSome then none
    else some ({ options with fromDatabase := true }, rest)
  | _ => none

/-- The command with a name and its options. -/
def commandOf (name : String) (options : Options) : Command :=
  if name = "variables" then .derive options.snapshot
  else if name = "publish" then .publish options.fromDatabase
  else .services

/-- The invocation of a command with the options before it and after it. -/
def invocation (name : String) (before after : Options) : Invocation :=
  ⟨commandOf name after, after.intentRoot.or before.intentRoot,
    after.schemaDirectory.or before.schemaDirectory⟩

/-- Reads the arguments after a command. Each argument takes one round of `fuel`. -/
def readAfter (name : String) (before : Options) :
    (fuel : Nat) → Options → List String → Reading
  | 0, _, _ => .wrong
  | _ + 1, after, [] => .run (invocation name before after)
  | fuel + 1, after, argument :: rest =>
    match Argument.ofString argument with
    | .ending => if rest.isEmpty then .run (invocation name before after) else .wrong
    | .plain _ => .wrong
    | .short letter => if letter = 'h' then .help else .wrong
    | .long option value =>
      if option = "help" then if value.isNone then .help else .wrong
      else
        match readOption? (some name) option value rest after with
        | none => .wrong
        | some (after, rest) => readAfter name before fuel after rest

/-- Reads the names after the command for help: one of a command, or none. -/
def readHelp : List String → Reading
  | [] => .help
  | [name] => if commandNames.contains name ∨ name = "help" then .help else .wrong
  | _ => .wrong

/-- Reads arguments up to the command. Each argument takes one round of `fuel`. -/
def readBefore : (fuel : Nat) → Options → List String → Reading
  | 0, _, _ => .wrong
  | _ + 1, _, [] => .wrong
  | fuel + 1, before, argument :: rest =>
    match Argument.ofString argument with
    | .ending => .wrong
    | .plain name =>
      if name = "help" then readHelp rest
      else if commandNames.contains name then
        readAfter name before (rest.length + 1) .none rest
      else .wrong
    | .short letter =>
      if letter = 'h' then .help else if letter = 'V' then .version else .wrong
    | .long option value =>
      if option = "help" then if value.isNone then .help else .wrong
      else if option = "version" then if value.isNone then .version else .wrong
      else
        match readOption? none option value rest before with
        | none => .wrong
        | some (before, rest) => readBefore fuel before rest

/-- Reads arguments. -/
def read (arguments : List String) : Reading :=
  readBefore (arguments.length + 1) .none arguments

end CommandLine

end NetworkIntent
