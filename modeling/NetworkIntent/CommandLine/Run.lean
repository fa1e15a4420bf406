import NetworkIntent.CommandLine.Arguments
import NetworkIntent.Compilation
import NetworkIntent.Inventory.NetBox
import NetworkIntent.Inventory.Snapshot
import NetworkIntent.Publication.GitLab
import NetworkIntent.ServiceDatabase

/-!
# Running a command

What a command does to the files and asks of the services around a network, and what it tells at the
end. Settings come from the environment, and the two directories from the arguments if they are
given there.

## Main definitions

* `CommandLine.Exit`: the status of a finished command, and what it writes.
* `CommandLine.Failure`: why a command fails.
* `CommandLine.perform`: running a command.
* `CommandLine.paths`: where the files of a command are.
* `CommandLine.run`: running whatever arguments ask for.
-/

set_option autoImplicit false

namespace NetworkIntent.CommandLine

/-- The status of a finished command, and what it writes to the standard output and for errors. -/
structure Exit where
  code : UInt8
  output : String
  errors : String
  deriving DecidableEq, Repr

/-- Why a command fails: what was being done, and the descriptions of what went wrong, each one the
reason for the one before it. -/
structure Failure where
  context : String
  causes : List String
  deriving DecidableEq, Repr

/-- A description with its later lines indented. -/
def indentLines (width : Nat) (description : String) : String :=
  ("\n" ++ String.ofList (List.replicate width ' ')).intercalate (description.splitOn "\n")

/-- The descriptions of causes, which are numbered if there are several. -/
def causeLines (causes : List String) : List String :=
  match causes with
  | [cause] => ["    " ++ indentLines 4 cause]
  | _ => causes.zipIdx.map fun (cause, index) =>
    let number := toString index
    String.ofList (List.replicate (5 - number.length) ' ') ++ number ++ ": "
      ++ indentLines 7 cause

/-- The report of a failure. -/
def Failure.report (failure : Failure) : String :=
  s!"Error: {failure.context}\n\nCaused by:\n"
    ++ "\n".intercalate (causeLines failure.causes) ++ "\n"

/-- The version of the program. -/
def versionLine : String := "service-intent 0.1.0\n"

/-- How the program is used. -/
def usage : String :=
  "Compile network service intent into deployment variables\n\n"
    ++ "Usage: service-intent [OPTIONS] <COMMAND>\n\n"
    ++ "Commands:\n"
    ++ "  services   Validate intent and store the merged service document\n"
    ++ "  variables  Derive and store routing and switching variables\n"
    ++ "  publish    Propose the current intent as a merge request\n"
    ++ "  help       Print this message\n\n"
    ++ "Options:\n"
    ++ "  --intent-root <DIRECTORY>    Root of intent files and artifacts\n"
    ++ "  --schema-dir <DIRECTORY>     Directory of schemas and their modules\n"
    ++ "  --inventory-snapshot <FILE>  With variables: read the inventory from a file\n"
    ++ "  --from-service-db            With publish: read intent from the service database\n"
    ++ "  -h, --help                   Print this message\n"
    ++ "  -V, --version                Print the version\n"

variable {σ : Type}

/-- A command over the files and over the state of the network of services. -/
abbrev Task (σ α : Type) := Action (FileTree × σ) Failure α

/-- A result that is part of what is being done. -/
def given {ε α : Type} (context : String) (causes : ε → List String) (result : Except ε α) :
    Task σ α :=
  .ofExcept (result.mapError fun fault => ⟨context, causes fault⟩)

/-- A run that is what is being done. -/
def doing {α : Type} (context : String) (run : Compiler.Run σ α) : Task σ α :=
  run.mapFailure fun fault => ⟨context, fault.messages⟩

/-- The directories of a run. -/
def locations (invocation : Invocation) (environment : Environment) : Locations :=
  let given := Locations.ofEnvironment environment
  ⟨invocation.intentRoot.getD given.intentRoot,
    invocation.schemaDirectory.getD given.schemaDirectory⟩

/-- The paths below which a run reads and writes files. -/
def paths (invocation : Invocation) (environment : Environment) : List String :=
  let locations := locations invocation environment
  let snapshot := match invocation.command with
    | .derive snapshot => snapshot.toList
    | _ => []
  [Path.join locations.intentRoot "services", locations.schemaDirectory] ++ snapshot

/-- The inventory of a run: a snapshot from a file, or the service. -/
def inventoryFor (network : Http.Network σ) (environment : Environment) :
    (snapshot : Option String) → Task σ (Inventory σ)
  | some path => do
    let (tree, _) ← get
    let snapshot ← given s!"Failed to load {path}" (fun fault => [fault.message])
      (Snapshot.load path tree)
    return snapshot.inventory σ
  | none => do
    let settings ← given "NetBox configuration" (fun fault => [fault.message])
      (NetBoxSettings.ofEnvironment environment)
    let service ← given "Failed to create NetBox client" (fun fault => [fault.message])
      (NetBox.connect settings)
    return service.inventory network

/-- The source of a publication: the service database, or files. -/
def sourceFor (network : Http.Network σ) (environment : Environment) (root : String) :
    (fromDatabase : Bool) → Task σ (IntentSource σ)
  | false => return .filesBelow root
  | true => do
    let settings ← given "Service database configuration" (fun fault => [fault.message])
      (ServiceDatabaseSettings.ofEnvironment environment)
    return (ServiceDatabase.mk settings).source network

/-- Publishes an intent at an instant. -/
def publish (network : Http.Network σ) (environment : Environment) (seconds : Int)
    (compiler : Compiler) (root : String) (fromDatabase : Bool) : Task σ Unit := do
  let settings ← given "GitLab configuration" (fun fault => [fault.message])
    (GitLabSettings.ofEnvironment environment)
  let project ← given "Failed to create GitLab client" (fun fault => [fault.message])
    (GitLab.connect settings)
  let publisher : Publisher :=
    ⟨PublisherSettings.ofEnvironment environment, settings.sitePath, settings.vpnPath⟩
  let source ← sourceFor network environment root fromDatabase
  let _ ← doing "Publication failed"
    (compiler.publish source publisher (project.control network) seconds)
  return ()

/-- Runs a command at an instant. -/
def perform (network : Http.Network σ) (environment : Environment) (seconds : Int)
    (invocation : Invocation) : Task σ Unit := do
  let locations := locations invocation environment
  let compiler : Compiler := ⟨.new locations.schemaDirectory, ⟨locations.intentRoot⟩⟩
  match invocation.command with
  | .services =>
    let _ ← doing "Service compilation failed"
      (compiler.compileServices (.filesBelow locations.intentRoot))
    return ()
  | .derive snapshot =>
    let inventory ← inventoryFor network environment snapshot
    let _ ← doing "Variable compilation failed"
      (compiler.compileVariables (.filesBelow locations.intentRoot) inventory)
    return ()
  | .publish fromDatabase =>
    publish network environment seconds compiler locations.intentRoot fromDatabase

/-- Runs what arguments ask for at an instant. -/
def run (network : Http.Network σ) (environment : Environment) (seconds : Int)
    (arguments : List String) (world : FileTree × σ) : Exit × (FileTree × σ) :=
  match read arguments with
  | .help => (⟨0, usage, ""⟩, world)
  | .version => (⟨0, versionLine, ""⟩, world)
  | .wrong => (⟨2, "", usage⟩, world)
  | .run invocation =>
    match (perform network environment seconds invocation).perform world with
    | (.ok (), world) => (⟨0, "", ""⟩, world)
    | (.error failure, world) => (⟨1, "", failure.report⟩, world)

end NetworkIntent.CommandLine
