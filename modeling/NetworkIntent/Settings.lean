import NetworkIntent.Json.Decoder

/-!
# Settings

How the services around a network are reached, under what name changes are published, and where
files are. Settings come from a document or from the variables of an environment.

A variable that must be set may be empty; for all others the empty text counts as not set.

## Main definitions

* `NetBoxSettings`, `GitLabSettings`, `ServiceDatabaseSettings`: the services.
* `PublisherSettings`, `Locations`: names for changes, and places of files.
* `Environment`: named texts, and `Environment.Fault` for what is wrong with them.
-/

set_option autoImplicit false

namespace NetworkIntent

/-! ### Environments -/

/-- The variables of an environment with their values. -/
abbrev Environment := List (String × String)

namespace Environment

/-- What is wrong with an environment. -/
inductive Fault where
  | missing (name : String)
  | invalid (name value : String)
  deriving DecidableEq, Repr

/-- The description of a fault. -/
def Fault.message : Fault → String
  | .missing name => s!"Required environment variable {name} is not set"
  | .invalid name value => s!"Environment variable {name} has invalid value {quoted value}"

/-- The value of a variable that must be set. -/
def required (name : String) (environment : Environment) : Except Fault String :=
  match environment.lookup name with
  | some value => .ok value
  | none => .error (.missing name)

/-- The value of a variable, if it is set and not empty. -/
def optional? (name : String) (environment : Environment) : Option String :=
  (environment.lookup name).filter (· ≠ "")

/-- The value of a variable, or a default. -/
def withDefault (name default : String) (environment : Environment) : String :=
  (optional? name environment).getD default

/-- What a variable stands for, or a default. -/
def parsed {α : Type} (name : String) (read? : String → Option α) (default : α)
    (environment : Environment) : Except Fault α :=
  match optional? name environment with
  | none => .ok default
  | some value =>
    match read? value with
    | some a => .ok a
    | none => .error (.invalid name value)

/-- A number of 64 bits. -/
def readUInt64? (value : String) : Option UInt64 :=
  UInt64.ofNat <$> readUnsigned? (UInt64.size - 1) value.toList

/-- A truth value. -/
def readBool? (value : String) : Option Bool :=
  if value = "true" then some true else if value = "false" then some false else none

end Environment

/-- The document of a number of 64 bits without a sign. -/
def Json.ofUInt64 (n : UInt64) : Json :=
  .int n.toNat

/-- The seconds after which a request is given up. -/
def defaultTimeout : UInt64 := 30

/-! ### Services -/

/-- How the inventory is reached. -/
structure NetBoxSettings where
  baseUrl : String
  token : String
  timeout : UInt64
  verifyTls : Bool
  deriving DecidableEq, Repr

namespace NetBoxSettings

/-- Reads settings from a document. -/
def decoder : Json.Decoder NetBoxSettings :=
  ((Json.Record.pure NetBoxSettings.mk)
    |>.more (.required "base_url" .text)
    |>.more (.required "api_token" .text)
    |>.more (.withDefault "timeout_secs" .uint64 defaultTimeout)
    |>.more (.withDefault "verify_tls" .flag true)).decoder "struct NetBoxConfig"

/-- The document of settings. -/
def toJson (settings : NetBoxSettings) : Json :=
  .ofEntries [("base_url", .str settings.baseUrl), ("api_token", .str settings.token),
    ("timeout_secs", .ofUInt64 settings.timeout), ("verify_tls", .bool settings.verifyTls)]

/-- The settings of an environment. -/
def ofEnvironment (environment : Environment) : Except Environment.Fault NetBoxSettings := do
  let baseUrl := Environment.withDefault "NETBOX_URL" "http://localhost:8000" environment
  let token ← Environment.required "NETBOX_TOKEN" environment
  let timeout ←
    Environment.parsed "NETBOX_TIMEOUT_SECS" Environment.readUInt64? defaultTimeout environment
  let verifyTls ← Environment.parsed "NETBOX_VERIFY_TLS" Environment.readBool? true environment
  return ⟨baseUrl, token, timeout, verifyTls⟩

end NetBoxSettings

/-- How the project with the files of an intent is reached, and the paths of the files in it. -/
structure GitLabSettings where
  baseUrl : String
  token : String
  project : String
  sitePath : String
  vpnPath : String
  timeout : UInt64
  deriving DecidableEq, Repr

/-- The path of the document of sites. -/
def defaultSitePath : String := "services/sites.json"

/-- The path of the document of VPNs. -/
def defaultVpnPath : String := "services/vpns.json"

namespace GitLabSettings

/-- Reads settings from a document. -/
def decoder : Json.Decoder GitLabSettings :=
  ((Json.Record.pure GitLabSettings.mk)
    |>.more (.required "base_url" .text)
    |>.more (.required "private_token" .text)
    |>.more (.required "project_id" .text)
    |>.more (.required "site_service_path" .text)
    |>.more (.required "vpn_service_path" .text)
    |>.more (.withDefault "timeout_secs" .uint64 defaultTimeout)).decoder "struct GitLabConfig"

/-- The document of settings. -/
def toJson (settings : GitLabSettings) : Json :=
  .ofEntries [("base_url", .str settings.baseUrl), ("private_token", .str settings.token),
    ("project_id", .str settings.project), ("site_service_path", .str settings.sitePath),
    ("vpn_service_path", .str settings.vpnPath), ("timeout_secs", .ofUInt64 settings.timeout)]

/-- The settings of an environment. -/
def ofEnvironment (environment : Environment) : Except Environment.Fault GitLabSettings := do
  let baseUrl := Environment.withDefault "GITLAB_URL" "https://gitlab.com" environment
  let token ← Environment.required "GITLAB_TOKEN" environment
  let project ← Environment.required "GITLAB_PROJECT_ID" environment
  let sitePath := Environment.withDefault "SITE_SERVICE" defaultSitePath environment
  let vpnPath := Environment.withDefault "VPN_SERVICE" defaultVpnPath environment
  return ⟨baseUrl, token, project, sitePath, vpnPath, defaultTimeout⟩

end GitLabSettings

/-- How the service database is reached. -/
structure ServiceDatabaseSettings where
  baseUrl : String
  timeout : UInt64
  deriving DecidableEq, Repr

namespace ServiceDatabaseSettings

/-- Reads settings from a document. -/
def decoder : Json.Decoder ServiceDatabaseSettings :=
  ((Json.Record.pure ServiceDatabaseSettings.mk)
    |>.more (.required "base_url" .text)
    |>.more (.withDefault "timeout_secs" .uint64 defaultTimeout)).decoder
    "struct ServiceDbConfig"

/-- The document of settings. -/
def toJson (settings : ServiceDatabaseSettings) : Json :=
  .ofEntries [("base_url", .str settings.baseUrl), ("timeout_secs", .ofUInt64 settings.timeout)]

/-- The settings of an environment. -/
def ofEnvironment (environment : Environment) :
    Except Environment.Fault ServiceDatabaseSettings := do
  let baseUrl ← Environment.required "SERVICE_DB_URL" environment
  return ⟨baseUrl, defaultTimeout⟩

end ServiceDatabaseSettings

/-! ### Publication and files -/

/-- The branch that changes are meant for, and the names under which they are made. -/
structure PublisherSettings where
  trunk : String
  branchPrefix : String
  authorName : String
  authorEmail : String
  siteMessage : String
  vpnMessage : String
  deriving DecidableEq, Repr

namespace PublisherSettings

/-- The settings where none are given. -/
def default : PublisherSettings where
  trunk := "main"
  branchPrefix := "services_"
  authorName := "service-api"
  authorEmail := "service-api@localhost"
  siteMessage := "site service update by service-api"
  vpnMessage := "vpn service update by service-api"

/-- Reads settings from a document. -/
def decoder : Json.Decoder PublisherSettings :=
  ((Json.Record.pure PublisherSettings.mk)
    |>.more (.required "trunk" .text)
    |>.more (.required "branch_prefix" .text)
    |>.more (.required "author_name" .text)
    |>.more (.required "author_email" .text)
    |>.more (.required "site_commit_message" .text)
    |>.more (.required "vpn_commit_message" .text)).decoder "struct PublisherConfig"

/-- The document of settings. -/
def toJson (settings : PublisherSettings) : Json :=
  .ofEntries [("trunk", .str settings.trunk), ("branch_prefix", .str settings.branchPrefix),
    ("author_name", .str settings.authorName), ("author_email", .str settings.authorEmail),
    ("site_commit_message", .str settings.siteMessage),
    ("vpn_commit_message", .str settings.vpnMessage)]

/-- The settings of an environment. -/
def ofEnvironment (environment : Environment) : PublisherSettings :=
  { default with
    authorName := Environment.withDefault "PUBLISH_AUTHOR_NAME" default.authorName environment
    authorEmail := Environment.withDefault "PUBLISH_AUTHOR_EMAIL" default.authorEmail environment }

end PublisherSettings

/-- The directories of the intent and of the schemas. -/
structure Locations where
  intentRoot : String
  schemaDirectory : String
  deriving DecidableEq, Repr

namespace Locations

/-- The directories where none are given. -/
def default : Locations :=
  ⟨".", "schemas"⟩

/-- Reads the directories from a document. -/
def decoder : Json.Decoder Locations :=
  ((Json.Record.pure Locations.mk)
    |>.more (.required "intent_root" (.textOf "path string"))
    |>.more (.required "schema_dir" (.textOf "path string"))).decoder "struct PathsConfig"

/-- The document of the directories. -/
def toJson (locations : Locations) : Json :=
  .ofEntries [("intent_root", .str locations.intentRoot),
    ("schema_dir", .str locations.schemaDirectory)]

/-- The directories of an environment. -/
def ofEnvironment (environment : Environment) : Locations :=
  ⟨Environment.withDefault "INTENT_ROOT" default.intentRoot environment,
    Environment.withDefault "SCHEMA_DIR" default.schemaDirectory environment⟩

end Locations

/-- The names of the variables that settings come from. -/
def Environment.names : List String :=
  ["NETBOX_URL", "NETBOX_TOKEN", "NETBOX_TIMEOUT_SECS", "NETBOX_VERIFY_TLS", "GITLAB_URL",
    "GITLAB_TOKEN", "GITLAB_PROJECT_ID", "SITE_SERVICE", "VPN_SERVICE", "PUBLISH_AUTHOR_NAME",
    "PUBLISH_AUTHOR_EMAIL", "SERVICE_DB_URL", "INTENT_ROOT", "SCHEMA_DIR"]

end NetworkIntent
