import NetworkIntent.Intent.Basic

/-!
# Consistency of an intent

Three rules about an intent as a whole: no two sites have one id, no two VPNs have one id, and every
kind of sites that a VPN applies to is the kind of some site. A check reports the first breach in
the order of declaration.

## Main definitions

* `Intent.Inconsistency`: a breach of a rule.
* `Intent.firstRepeated?`: the first value of a list that has come before.
* `Intent.checkSiteIds`, `Intent.checkVpnIds`, `Intent.checkSiteKinds`: the three rules.
* `Intent.checkConsistency`: all of them.
-/

set_option autoImplicit false

namespace NetworkIntent.Intent

/-- A breach of one of the rules. -/
inductive Inconsistency where
  | repeatedSiteId (id : Int64)
  | repeatedVpnId (id : Int64)
  | undeclaredKind (vpn : Int64) (kind : SiteKind)
  deriving DecidableEq, Repr

/-- The description of a breach. -/
def Inconsistency.message : Inconsistency → String
  | .repeatedSiteId id => s!"Duplicate site id: {id.toInt}"
  | .repeatedVpnId id => s!"Duplicate VPN id: {id.toInt}"
  | .undeclaredKind vpn kind =>
    s!"VPN {vpn.toInt} references site type {kind.name} which no site declares"

/-- The first value of a list that is among the values before it or among `seen`. -/
def firstRepeated? {α : Type} [DecidableEq α] (seen : List α) : List α → Option α
  | [] => none
  | a :: rest => if a ∈ seen then some a else firstRepeated? (a :: seen) rest

/-- No two sites have one id. -/
def checkSiteIds (sites : List Site) : Except Inconsistency Unit :=
  match firstRepeated? [] (sites.map Site.id) with
  | some id => .error (.repeatedSiteId id)
  | none => .ok ()

/-- No two VPNs have one id. -/
def checkVpnIds (vpns : List Vpn) : Except Inconsistency Unit :=
  match firstRepeated? [] (vpns.map Vpn.id) with
  | some id => .error (.repeatedVpnId id)
  | none => .ok ()

/-- The first kind that a VPN lists although no site is of this kind. -/
def undeclaredKind? (sites : List Site) (vpn : Vpn) : Option Inconsistency :=
  (vpn.sites.find? fun kind => !(sites.map Site.kind).contains kind).map (.undeclaredKind vpn.id)

/-- Every kind that a VPN lists is the kind of some site. -/
def checkSiteKinds (intent : Intent) : Except Inconsistency Unit :=
  match intent.vpns.findSome? (undeclaredKind? intent.sites) with
  | some breach => .error breach
  | none => .ok ()

/-- All rules, in this order. -/
def checkConsistency (intent : Intent) : Except Inconsistency Unit :=
  match checkSiteIds intent.sites with
  | .error breach => .error breach
  | .ok () =>
    match checkVpnIds intent.vpns with
    | .error breach => .error breach
    | .ok () => intent.checkSiteKinds

end NetworkIntent.Intent
