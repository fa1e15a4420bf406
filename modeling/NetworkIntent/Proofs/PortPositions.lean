import NetworkIntent.Proofs.VariablesGate

/-!
# The positions of ports at the gate

A port is recognised by a position of decimal digits, whatever script they are of, while the schema
of variables has the ASCII digits only. So the name of an interface can make the gate reject the
variables of an intent, though names that are no ports are left out without notice: exactly if a
recognised position has a digit beyond ASCII. Nothing else about ports can.

## Main definitions

* `Switching.Document.withoutPorts`: switching variables whose VLANs have no ports.

## Main results

* `Derivation.ensures_ofInterface?_switching`: over any inventory, the ports of VLANs are recognised
  ones.
* `Derivation.vlanOf_filter_isSome`: interfaces that are no ports count for nothing.
* `Compilation.validate_iff_withoutPorts`: the gate judges ports one by one.
* `Compilation.validate_ports_iff`: for which ports the gate rejects variables.
* `Compilation.foreign_digit_rejected`: a name with a digit beyond ASCII that is recognised makes
  the gate reject variables.
-/

set_option autoImplicit false

namespace NetworkIntent

open Schema

variable {σ : Type}

/-- Switching variables whose VLANs have no ports. -/
def Switching.Document.withoutPorts (document : Switching.Document) : Switching.Document :=
  { document with vlans := document.vlans.map fun vlan => { vlan with ports := [] } }

/-! ## The ports that are derived -/

namespace Derivation

/-- Interfaces that are no ports belong to none. -/
theorem portsOf_filter_isSome (interfaces : List Interface) :
    portsOf (interfaces.filter fun interface => (Port.ofInterface? interface.name).isSome) =
      portsOf interfaces := by
  induction interfaces with
  | nil => rfl
  | cons interface rest ih =>
    rw [List.filter_cons]
    rcases hport : Port.ofInterface? interface.name with _ | port
    · rw [Option.isSome_none, if_neg nofun, ih]
      simp only [portsOf, List.filterMap_cons, hport]
    · rw [Option.isSome_some, if_pos rfl]
      simp only [portsOf, List.filterMap_cons, hport]
      exact congrArg _ ih

/-- **Interfaces that are no ports count for nothing**: the VLAN of a VPN is the same without
them. -/
theorem vlanOf_filter_isSome (vpn : Vpn) (tagged : List (SiteKind × List Interface)) :
    vlanOf vpn (tagged.map fun (kind, interfaces) => (kind,
      interfaces.filter fun interface => (Port.ofInterface? interface.name).isSome)) =
      vlanOf vpn tagged := by
  simp only [vlanOf, List.flatMap_map, List.filterMap_map, Function.comp_def, portsOf_filter_isSome]

/-- The ports of a VLAN belong to interfaces on it. -/
theorem exists_of_mem_ports_vlanOf {vpn : Vpn} {tagged : List (SiteKind × List Interface)}
    {port : Port} (h : port ∈ (vlanOf vpn tagged).ports) :
    ∃ name, Port.ofInterface? name = some port := by
  obtain ⟨entry, -, hport⟩ := mem_ports_vlanOf.mp h
  obtain ⟨interface, -, hinterface⟩ := List.mem_filterMap.mp hport
  exact ⟨interface.name, hinterface⟩

/-- **Over any inventory, the ports of the VLANs that are derived are recognised ones.** -/
theorem ensures_ofInterface?_switching (inventory : Inventory σ) (intent : Intent) :
    (switching inventory intent).Ensures fun document => ∀ vlan ∈ document.vlans,
      ∀ port ∈ vlan.ports, ∃ name, Port.ofInterface? name = some port := by
  refine (Action.Ensures.canGive _).bind fun resolved _ => ?_
  have hvlan (vpn : Vpn) : (vlan inventory resolved vpn).Ensures fun vlan =>
      ∀ port ∈ vlan.ports, ∃ name, Port.ofInterface? name = some port :=
    (Action.Ensures.canGive _).bind fun tagged _ =>
      .pure fun port hport => exists_of_mem_ports_vlanOf hport
  refine (Action.Ensures.mapM hvlan intent.vpns).bind fun vlans hvlans => ?_
  refine (Action.Ensures.canGive (roles inventory _)).bind fun roles _ => ?_
  exact .pure (forall_mem_of_forall₂ hvlans)

end Derivation

/-! ## What the gate says about them -/

namespace Compilation

variable {tree : FileTree} {schemas : SchemaDirectory} {document : Json}
  {routing : Routing.Document} {switching : Switching.Document}

/-- Variables obey the schema exactly if they do without their ports, and each of the ports does. -/
theorem isDeployment_iff_withoutPorts (hsorted : document.Sorted) :
    Shipped.IsDeployment (variablesDocument document routing switching) ↔
      Shipped.IsDeployment (variablesDocument document routing switching.withoutPorts) ∧
        ∀ vlan ∈ switching.vlans, ∀ port ∈ vlan.ports, Definition.IsPort port.toJson := by
  have hvlans : (∀ vlan ∈ switching.vlans, Definition.Meets .vlan vlan.toJson) ↔
      (∀ vlan ∈ switching.withoutPorts.vlans, Definition.Meets .vlan vlan.toJson) ∧
        ∀ vlan ∈ switching.vlans, ∀ port ∈ vlan.ports, Definition.IsPort port.toJson := by
    simp only [Switching.Document.withoutPorts, List.forall_mem_map, Switching.meets_vlan_iff,
      forall₂_and]
    simp
  rw [isDeployment_variablesDocument_iff hsorted, isDeployment_variablesDocument_iff hsorted, hvlans]
  constructor
  · rintro ⟨hcollections, hrouting, hswitches, ⟨hbare, hports⟩, hroles⟩
    exact ⟨⟨hcollections, hrouting, hswitches, hbare, hroles⟩, hports⟩
  · rintro ⟨⟨hcollections, hrouting, hswitches, hbare, hroles⟩, hports⟩
    exact ⟨hcollections, hrouting, hswitches, ⟨hbare, hports⟩, hroles⟩

/-- **The gate judges ports one by one**: it accepts variables exactly if it does without their
ports, and each of the ports obeys the schema. -/
theorem validate_iff_withoutPorts (hinstalled : AllInstalled tree schemas)
    (hsorted : document.Sorted) :
    schemas.validate tree .deployment (variablesDocument document routing switching) = .ok () ↔
      schemas.validate tree .deployment
          (variablesDocument document routing switching.withoutPorts) = .ok () ∧
        ∀ vlan ∈ switching.vlans, ∀ port ∈ vlan.ports, Definition.IsPort port.toJson := by
  have haccepted (d : Json) : schemas.validate tree .deployment d = .ok () ↔
      Shipped.IsDeployment d := by
    rw [Grammar.validate_eq_ok_iff (schema_deployment hinstalled),
      Shipped.check_deploymentSchema_eq_nil_iff]
    exact and_iff_left nofun
  rw [haccepted, haccepted]
  exact isDeployment_iff_withoutPorts hsorted

/-- **The positions for which the gate rejects variables.** A recognised port obeys the schema
exactly if its position is an ASCII text, and an interface whose name is no port counts for nothing.
So the gate accepts the variables of an intent, from any inventory, exactly if it does without the
ports of the VLANs and all of their positions are ASCII texts.

**Proof sketch.** A recognised position consists of three numbers of decimal digits; the pattern of
the schema asks for ASCII digits, and these are the decimal digits among the ASCII characters. All
ports of VLANs are recognised ones, and the gate judges ports one by one. -/
theorem validate_ports_iff (hinstalled : AllInstalled tree schemas) (hsorted : document.Sorted)
    (routing : Routing.Document) (inventory : Inventory σ) (intent : Intent)
    (hswitching : (Derivation.switching inventory intent).CanGive switching) :
    (∀ name port, Port.ofInterface? name = some port →
      (Definition.IsPort port.toJson ↔ IsAscii port.position)) ∧
    (∀ vpn tagged, Derivation.vlanOf vpn (tagged.map fun (kind, interfaces) => (kind,
      interfaces.filter fun interface => (Port.ofInterface? interface.name).isSome)) =
        Derivation.vlanOf vpn tagged) ∧
    (schemas.validate tree .deployment (variablesDocument document routing switching) = .ok () ↔
      schemas.validate tree .deployment
          (variablesDocument document routing switching.withoutPorts) = .ok () ∧
        ∀ vlan ∈ switching.vlans, ∀ port ∈ vlan.ports, IsAscii port.position) := by
  have hport (name : String) (port : Port) (h : Port.ofInterface? name = some port) :
      Definition.IsPort port.toJson ↔ IsAscii port.position := by
    rw [Switching.isPort_toJson_iff, Port.isPosition_iff_isAscii h]
  have hrecognised := Derivation.ensures_ofInterface?_switching inventory intent switching hswitching
  refine ⟨hport, Derivation.vlanOf_filter_isSome, ?_⟩
  rw [validate_iff_withoutPorts hinstalled hsorted]
  refine and_congr_right fun _ => forall₂_congr fun vlan hvlan => forall₂_congr fun port hmem => ?_
  obtain ⟨name, hname⟩ := hrecognised vlan hvlan port hmem
  exact hport name port hname

/-- An intent with a site that has a switch, and with a VPN. -/
def hqDocument : Json :=
  .obj [("site-service:sites", .arr [.obj [("id", .int 1), ("name", .str "hq"),
      ("switches", .arr [.str "S1"]), ("type", .str "DC")]]),
    ("vpn-service:vpns", .arr [.obj [("id", .int 10), ("name", .str "data"),
      ("sites", .arr [.str "DC"])]])]

/-- The intent that the document is about. -/
def hqIntent : Intent :=
  ⟨[⟨1, "hq", .dataCentre, [], ["S1"]⟩], [⟨10, "data", [.dataCentre]⟩]⟩

/-- An inventory with the switch, which has one interface. -/
def hqSnapshot (interface : String) : Snapshot where
  devices := [⟨2, "access", "S1", "switch", "hq"⟩]
  interfaces := [⟨20, 2, interface, "data"⟩]
  addresses := []
  roles := ["switch"]

/-- The routing variables of the intent. -/
def hqRouting : Routing.Document :=
  ⟨[], [⟨10, "data", [.dataCentre]⟩], []⟩

/-- The switching variables of the intent, given the sites and ports of its VLAN. -/
def hqSwitching (sites : List SiteKind) (ports : List Port) : Switching.Document :=
  ⟨[⟨"S1", "access", "hq", "switch"⟩], [⟨10, "data", sites, ports⟩], ["switch"]⟩

/-- A name whose port has a digit beyond ASCII. -/
def foreignName : String := "GigabitEthernet1/0/\u0665"

/-- The port of this name. -/
def foreignPort : Port := ⟨.gigabit, "1/0/\u0665"⟩

/-- The switching variables of the intent may be derived with this port. -/
theorem canGive_hqSwitching : (Derivation.switching ((hqSnapshot foreignName).inventory Unit)
    hqIntent).CanGive (hqSwitching [.dataCentre] [foreignPort]) :=
  ⟨(), (), rfl⟩

/-- The gate judges the variables with this port by its position. -/
theorem validate_ports_hqSnapshot :
    AllInstalled schemaTree (.new "schemas") ∧ hqDocument.Sorted ∧
    (Derivation.switching ((hqSnapshot foreignName).inventory Unit) hqIntent).CanGive
      (hqSwitching [.dataCentre] [foreignPort]) ∧
    (Definition.IsPort foreignPort.toJson ↔ IsAscii foreignPort.position) ∧
    ((SchemaDirectory.new "schemas").validate schemaTree .deployment
        (variablesDocument hqDocument hqRouting (hqSwitching [.dataCentre] [foreignPort])) =
          .ok () ↔
      (SchemaDirectory.new "schemas").validate schemaTree .deployment
          (variablesDocument hqDocument hqRouting (hqSwitching [.dataCentre] [])) = .ok () ∧
        IsAscii foreignPort.position) := by
  have hsorted : hqDocument.Sorted := by decide +kernel
  obtain ⟨hport, -, hgate⟩ := validate_ports_iff allInstalled_schemaTree hsorted hqRouting
    ((hqSnapshot foreignName).inventory Unit) hqIntent canGive_hqSwitching
  refine ⟨allInstalled_schemaTree, hsorted, canGive_hqSwitching,
    hport foreignName foreignPort (by decide), ?_⟩
  simpa [hqSwitching, Switching.Document.withoutPorts] using hgate

/-- **A name of an interface makes the gate reject variables**: the intent is accepted and the name
is recognised as a port, though it does not match the pattern of the schema. With the name, all
variables are derived and the gate rejects them; with the name of an interface that is no port it
accepts them. -/
theorem foreign_digit_rejected :
    (SchemaDirectory.new "schemas").validate schemaTree .services hqDocument = .ok () ∧
    Intent.ofDocument hqDocument = .ok hqIntent ∧
    Port.ofInterface? foreignName = some foreignPort ∧ ¬Definition.IsPort foreignPort.toJson ∧
    (((Derivation.routing ((hqSnapshot foreignName).inventory Unit) hqIntent).perform ()).1 =
        .ok hqRouting ∧
      ((Derivation.switching ((hqSnapshot foreignName).inventory Unit) hqIntent).perform ()).1 =
        .ok (hqSwitching [.dataCentre] [foreignPort]) ∧
      (SchemaDirectory.new "schemas").validate schemaTree .deployment
        (variablesDocument hqDocument hqRouting (hqSwitching [.dataCentre] [foreignPort])) ≠
          .ok ()) ∧
    ((Derivation.routing ((hqSnapshot "Vlan10").inventory Unit) hqIntent).perform ()).1 =
        .ok hqRouting ∧
      ((Derivation.switching ((hqSnapshot "Vlan10").inventory Unit) hqIntent).perform ()).1 =
        .ok (hqSwitching [] []) ∧
      (SchemaDirectory.new "schemas").validate schemaTree .deployment
        (variablesDocument hqDocument hqRouting (hqSwitching [] [])) = .ok () := by
  have hname : Port.ofInterface? foreignName = some foreignPort := by decide
  have hport : ¬Definition.IsPort foreignPort.toJson := by
    rw [Switching.isPort_toJson_iff, Port.isPosition_iff_isAscii hname]
    intro hascii
    exact absurd (hascii '\u0665' (by decide)) (by decide)
  have hservices := Grammar.schema_services allInstalled_schemaTree.toInstalled
  have hdeployment := schema_deployment allInstalled_schemaTree
  refine ⟨(Grammar.validate_eq_ok_iff hservices).mpr ⟨by decide +kernel, fun _ => rfl⟩, rfl, hname,
    hport, ⟨rfl, rfl, fun haccepted => ?_⟩, rfl, rfl, ?_⟩
  · have hports := ((validate_iff_withoutPorts allInstalled_schemaTree (by decide +kernel)).mp
      haccepted).2
    exact hport (hports _ (List.mem_singleton_self _) _ (List.mem_singleton_self _))
  · exact (Grammar.validate_eq_ok_iff hdeployment).mpr ⟨by decide +kernel, nofun⟩

end Compilation

end NetworkIntent
