import NetworkIntent.Http.Message
import NetworkIntent.IntentSource
import NetworkIntent.Settings

/-!
# Intent from the service database

The database of services as a source: it answers requests for the collections of an intent, under
either form of keys.

## Main definitions

* `ServiceDatabase`: the database, by its settings.
* `ServiceDatabase.resourceAddress`: the address of a collection.
* `ServiceDatabase.source`: the database as a source.
-/

set_option autoImplicit false

namespace NetworkIntent

/-- The database of services. -/
structure ServiceDatabase where
  settings : ServiceDatabaseSettings
  deriving DecidableEq, Repr

namespace ServiceDatabase

variable {σ : Type}

/-- The address of a resource. -/
def resourceAddress (database : ServiceDatabase) (resource : String) : String :=
  Url.trimSlashes database.settings.baseUrl ++ "/restconf/data/" ++ resource

/-- The document of a resource. -/
def fetch (database : ServiceDatabase) (network : Http.Network σ) (resource : String) :
    Action σ IntentSource.Fault Json := do
  let address := database.resourceAddress resource
  let tell (fault : Http.Fault) : IntentSource.Fault :=
    .service s!"GET {address}: {fault.message}"
  let request := Http.request .get address none [("accept", "application/yang-data+json")] none
  let reply ← (network.ask request).mapFailure tell
  if !reply.isSuccess then
    throw (.service s!"GET {address} returned {Http.statusText reply.status}: {reply.text}")
  else
    let document ← Action.ofExcept ((reply.decode .document).mapError tell)
    Action.ofExcept ((renameKeys .qualified document).mapError (.clash address))

/-- The database as a source. -/
def source (database : ServiceDatabase) (network : Http.Network σ) : IntentSource σ where
  siteDocument _ := database.fetch network (Collection.key .qualified .sites)
  vpnDocument _ := database.fetch network (Collection.key .qualified .vpns)

end ServiceDatabase

end NetworkIntent
