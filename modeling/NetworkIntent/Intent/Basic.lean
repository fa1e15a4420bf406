import NetworkIntent.Json.Decoder

/-!
# Intent

What a network is meant to do: its sites with their devices, and the VPNs with the kinds of sites
they apply to. Devices are named by their serials.

## Main definitions

* `SiteKind`, `Site`, `Vpn`: the declared things.
* `Intent`: all sites and all VPNs, in the order of their declaration.
* `Intent.vpnsFor`: the VPNs of a kind of sites.
* `Intent.ofDocument`: the intent that a document declares.
-/

set_option autoImplicit false

namespace NetworkIntent

/-- The document of a number of 64 bits. -/
def Json.ofInt64 (n : Int64) : Json :=
  .int n.toInt

/-- The document of a list of texts. -/
def Json.ofTexts (texts : List String) : Json :=
  .arr (texts.map .str)

/-! ### Sites -/

/-- The kinds of sites. -/
inductive SiteKind where
  | dataCentre
  | branch
  deriving DecidableEq, Repr

namespace SiteKind

/-- The name of a kind. -/
def name : SiteKind → String
  | .dataCentre => "DC"
  | .branch => "Branch"

/-- Both kinds, in their order. -/
def all : List SiteKind :=
  [.dataCentre, .branch]

/-- Reads a kind from a document. -/
def decoder : Json.Decoder SiteKind :=
  .ofNames (all.map fun kind => (kind.name, kind))

/-- The document of a kind. -/
def toJson (kind : SiteKind) : Json :=
  .str kind.name

end SiteKind

/-- A site with the serials of its devices. -/
structure Site where
  id : Int64
  name : String
  kind : SiteKind
  routers : List String
  switches : List String
  deriving DecidableEq, Repr

namespace Site

/-- The fields of a site. The devices may be left out. -/
def record : Json.Record Site :=
  (Json.Record.pure Site.mk)
    |>.more (.required "id" .int64)
    |>.more (.required "name" .text)
    |>.more (.required "type" SiteKind.decoder)
    |>.more (.withDefault "router" (.list .text) [])
    |>.more (.withDefault "switches" (.list .text) [])

/-- Reads a site from a document. -/
def decoder : Json.Decoder Site :=
  record.decoder "struct Site"

/-- The document of a site. -/
def toJson (site : Site) : Json :=
  .ofEntries [("id", .ofInt64 site.id), ("name", .str site.name), ("type", site.kind.toJson),
    ("router", .ofTexts site.routers), ("switches", .ofTexts site.switches)]

end Site

/-! ### VPNs -/

/-- A VPN with the kinds of sites that it applies to. -/
structure Vpn where
  id : Int64
  name : String
  sites : List SiteKind
  deriving DecidableEq, Repr

namespace Vpn

/-- Whether a VPN applies to sites of a kind. -/
def appliesTo (kind : SiteKind) (vpn : Vpn) : Bool :=
  vpn.sites.contains kind

/-- The fields of a VPN. The kinds of sites may be left out. -/
def record : Json.Record Vpn :=
  (Json.Record.pure Vpn.mk)
    |>.more (.required "id" .int64)
    |>.more (.required "name" .text)
    |>.more (.withDefault "sites" (.list SiteKind.decoder) [])

/-- Reads a VPN from a document. -/
def decoder : Json.Decoder Vpn :=
  record.decoder "struct Vpn"

/-- The document of a VPN. -/
def toJson (vpn : Vpn) : Json :=
  .ofEntries [("id", .ofInt64 vpn.id), ("name", .str vpn.name),
    ("sites", .arr (vpn.sites.map SiteKind.toJson))]

end Vpn

/-! ### Collections -/

/-- The two collections of a service document. -/
inductive Collection where
  | sites
  | vpns
  deriving DecidableEq, Repr

/-- The forms of the key of a collection: qualified by the module of the collection where documents
are exchanged, and plain where they are stored. -/
inductive KeyForm where
  | qualified
  | plain
  deriving DecidableEq, Repr

namespace Collection

/-- The key of a collection. -/
def key : KeyForm → Collection → String
  | .qualified, .sites => "site-service:sites"
  | .qualified, .vpns => "vpn-service:vpns"
  | .plain, .sites => "sites"
  | .plain, .vpns => "vpns"

/-- Both collections, in their order. -/
def all : List Collection :=
  [.sites, .vpns]

end Collection

/-- All sites and all VPNs. -/
structure Intent where
  sites : List Site
  vpns : List Vpn
  deriving DecidableEq, Repr

namespace Intent

/-- Reads the sites from the document that holds them. -/
def sitesDecoder : Json.Decoder (List Site) :=
  (Json.Record.required (Collection.key .qualified .sites) (.list Site.decoder)).decoder
    "struct SiteService"

/-- Reads the VPNs from the document that holds them. -/
def vpnsDecoder : Json.Decoder (List Vpn) :=
  (Json.Record.required (Collection.key .qualified .vpns) (.list Vpn.decoder)).decoder
    "struct VpnService"

/-- The document that holds the given sites. -/
def sitesToJson (sites : List Site) : Json :=
  .ofEntries [(Collection.key .qualified .sites, .arr (sites.map Site.toJson))]

/-- The document that holds the given VPNs. -/
def vpnsToJson (vpns : List Vpn) : Json :=
  .ofEntries [(Collection.key .qualified .vpns, .arr (vpns.map Vpn.toJson))]

/-- The intent that a document declares: first its sites are read and then its VPNs. -/
def ofDocument (document : Json) : Except Json.Mismatch Intent :=
  match sitesDecoder.ofJson document with
  | .error mismatch => .error mismatch
  | .ok sites => (fun vpns => ⟨sites, vpns⟩) <$> vpnsDecoder.ofJson document

/-- The VPNs that apply to sites of a kind. -/
def vpnsFor (intent : Intent) (kind : SiteKind) : List Vpn :=
  intent.vpns.filter (·.appliesTo kind)

/-- The number of declared devices. -/
def deviceCount (intent : Intent) : Nat :=
  (intent.sites.flatMap Site.routers).length + (intent.sites.flatMap Site.switches).length

end Intent

end NetworkIntent
