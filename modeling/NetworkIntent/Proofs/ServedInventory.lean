import NetworkIntent.Inventory.Snapshot
import NetworkIntent.Proofs.Query
import NetworkIntent.Proofs.Relevance
import NetworkIntent.Proofs.Request
import NetworkIntent.Proofs.ServedEntries

/-!
# An inventory on the web as a snapshot

A service on the web keeps the things of a snapshot in four lists. It is asked for a list with a
query, it reads the query as filters, and it tells of the entries that meet all of them, in the
order of the snapshot. It may split what it tells over any number of pages, of which each names the
address of the next one; there may be empty pages, so neither the first page nor an empty one tells
that there is nothing more.

Asked in this way, the service gives the answers of the snapshot: a single thing is single among the
entries of all pages, and what is derived from an intent does not depend on which of the two is
asked.

Not every filter has to be answered. The service may refuse the name of a device that it does not
know, and a request with a filter that is too long is not sent at all. So the answers are those of
the snapshot as far as the service answers.

## Main definitions

* `NetBox.Paged`: a request gets the first of several pages.
* `NetBox.Lists`: the service answers requests for a list by filters.
* `NetBox.Serves`: the service keeps the things of a snapshot.

## Main results

* `NetBox.perform_list`: all entries that meet some filters are read, whatever the pages are.
* `NetBox.inventory_agrees`: the service gives the answers of the snapshot.
-/

set_option autoImplicit false

namespace NetworkIntent.NetBox

open Json (Decoder SpellsWhole)
open Percent (readQuery)

variable {σ τ α β : Type}

/-! ## Pages -/

/-- From a state on, a request gets the first of several pages. Each page names the address of the
next one, and the last page names none. -/
inductive Paged (service : NetBox) (network : Http.Network σ) (Shows : Json → α → Prop) :
    Except Http.Fault Http.Request → σ → List (List α) → Prop where
  | last {request : Except Http.Fault Http.Request} {sent : Http.Request} {s t : σ}
      {reply : Http.Reply} {items : List α} (hrequest : request = .ok sent)
      (hsend : (network.send sent).perform s = (.ok reply, t))
      (hpage : GivesPage Shows reply ⟨none, items⟩) :
      Paged service network Shows request s [items]
  | next {request : Except Http.Fault Http.Request} {sent : Http.Request} {s t : σ}
      {reply : Http.Reply} {items : List α} {address : String} {pages : List (List α)}
      (hrequest : request = .ok sent) (hsend : (network.send sent).perform s = (.ok reply, t))
      (hpage : GivesPage Shows reply ⟨some address, items⟩)
      (hrest : Paged service network Shows (service.request address none) t pages) :
      Paged service network Shows request s (items :: pages)

variable {service : NetBox} {network : Http.Network σ} {Shows : Json → α → Prop}
  {request : Except Http.Fault Http.Request} {s : σ} {pages : List (List α)}

/-- There is at least one page. -/
theorem Paged.length_pos (h : Paged service network Shows request s pages) : 0 < pages.length := by
  cases h <;> simp

/-- What is told of entries is told of what is made of them. -/
theorem Paged.map (f : α → β) (h : Paged service network Shows request s pages) :
    Paged service network (fun document b => ∃ a, Shows document a ∧ b = f a) request s
      (pages.map (List.map f)) := by
  have hitems : ∀ {documents : List Json} {items : List α}, List.Forall₂ Shows documents items →
      List.Forall₂ (fun document b => ∃ a, Shows document a ∧ b = f a) documents (items.map f) := by
    intro documents items hall
    exact List.forall₂_map_right_iff.mpr (hall.imp fun _ a ha => ⟨a, ha, rfl⟩)
  induction h with
  | last hrequest hsend hpage =>
    obtain ⟨hsuccess, document, ⟨fields, rfl, hnext, documents, hresults, hall⟩, hbody⟩ := hpage
    exact .last hrequest hsend
      ⟨hsuccess, _, ⟨fields, rfl, hnext, documents, hresults, hitems hall⟩, hbody⟩
  | next hrequest hsend hpage _ ih =>
    obtain ⟨hsuccess, document, ⟨fields, rfl, hnext, documents, hresults, hall⟩, hbody⟩ := hpage
    exact .next hrequest hsend
      ⟨hsuccess, _, ⟨fields, rfl, hnext, documents, hresults, hitems hall⟩, hbody⟩ ih

section Reading

variable {entry : Decoder α} {levels : Nat} (kind : Inventory.Kind) (endpoint : String)

/-- A page that a request gets is read. -/
theorem perform_page (hentry : entry.Scans levels Shows) (hlevels : levels + 2 ≤ Json.maxDepth)
    {sent : Http.Request} {t : σ} {reply : Http.Reply} {p : Page α} (hrequest : request = .ok sent)
    (hsend : (network.send sent).perform s = (.ok reply, t)) (hpage : GivesPage Shows reply p) :
    (page network kind entry endpoint request).perform s = (.ok p, t) := by
  have hask : ∀ tell : Http.Fault → Inventory.Fault,
      ((network.ask request).mapFailure tell).perform s = (.ok reply, t) := by
    intro tell
    have hsent : (network.ask (.ok sent)).perform s = (.ok reply, t) := hsend
    rw [hrequest, Action.perform_mapFailure, hsent]
    rfl
  rw [page, Action.perform_bind_ok (hask _), hpage.1, hpage.decode_eq hentry hlevels]
  rfl

/-- The entries of all pages are read, in the order of the pages. -/
theorem perform_pagesFrom (hentry : entry.Scans levels Shows)
    (hlevels : levels + 2 ≤ Json.maxDepth) (h : Paged service network Shows request s pages)
    {more : Nat} (hmore : pages.length ≤ more + 1) :
    ∃ t, (service.pagesFrom network kind entry endpoint more request).perform s =
      (.ok pages.flatten, t) := by
  induction h generalizing more with
  | @last _ _ _ t _ items hrequest hsend hpage =>
    have hread := perform_page kind endpoint hentry hlevels hrequest hsend hpage
    refine ⟨t, ?_⟩
    cases more with
    | zero =>
      rw [pagesFrom, map_eq_pure_bind, Action.perform_bind_ok hread]
      simp
    | succ more =>
      rw [pagesFrom, Action.perform_bind_ok hread]
      simp
  | @next _ _ _ _ _ items _ rest hrequest hsend hpage hrest ih =>
    have hread := perform_page kind endpoint hentry hlevels hrequest hsend hpage
    have hpos := hrest.length_pos
    rw [List.length_cons] at hmore
    obtain ⟨more, rfl⟩ : ∃ fewer, more = fewer + 1 := ⟨more - 1, by omega⟩
    obtain ⟨u, hu⟩ := ih (Nat.le_of_succ_le_succ hmore)
    refine ⟨u, ?_⟩
    rw [pagesFrom, Action.perform_bind_ok hread]
    dsimp only
    rw [Action.perform_bind_ok hu]
    rfl

end Reading

/-! ## Lists -/

/-- The request for a list at an address, with a query. -/
def listRequest (address : Url) (headers : List (String × String)) (query : Option String) :
    Http.Request :=
  ⟨.get, { address with query := query }, headers, none⟩

/-- A list can be asked for with the filters that the service answers. From any state, if a query
is read as such filters, the service tells of the entries that meet all of them, split over pages
that are worth following. -/
def Lists (service : NetBox) (network : Http.Network σ)
    (answered : List (String × String) → Prop) (endpoint : String) (Shows : Json → α → Prop)
    (entries : List α) (meets : String × String → α → Bool) : Prop :=
  ∃ address headers, service.request (service.addressOf endpoint) none =
      .ok (listRequest address headers none) ∧
    (∀ filters, answered filters →
      (service.request (service.addressOf endpoint) (some filters)).isOk = true) ∧
    ∀ query filters, readQuery (query.getD "") = filters → answered filters →
      ∀ s, ∃ pages, pages.flatten = entries.filter (fun entry => filters.all (meets · entry)) ∧
        pages.length ≤ network.patience s + 1 ∧
        Paged service network Shows (.ok (listRequest address headers query)) s pages

/-- If it can be sent, the request for a list with filters has a query that is read as these
filters. -/
theorem exists_query {endpoint : String} {address : Url} {headers filters : List (String × String)}
    (h : service.request (service.addressOf endpoint) none = .ok (listRequest address headers none))
    (hsent : (service.request (service.addressOf endpoint) (some filters)).isOk = true) :
    ∃ query, readQuery (query.getD "") = filters ∧
      service.request (service.addressOf endpoint) (some filters) =
        .ok (listRequest address headers query) := by
  obtain ⟨url, hread, -, -, hplain⟩ := Http.request_eq_ok_iff.mp h
  rcases hfiltered : service.request (service.addressOf endpoint) (some filters) with _ | sent
  · simp [hfiltered, Except.isOk, Except.toBool] at hsent
  obtain ⟨other, hread', -, -, rfl⟩ := Http.request_eq_ok_iff.mp hfiltered
  obtain rfl := Option.some.inj (hread.symm.trans hread')
  obtain ⟨hurl, hheaders⟩ : { address with query := none } = url.withoutCredentials ∧
      headers = Http.headersTo url service.headers := by
    simpa [listRequest, Url.asked] using hplain
  have hquery : Percent.readQuery ((url.asked (some filters)).query.getD "") = filters := by
    rw [Url.asked, Url.readQuery_addQuery, ← hurl]
    rfl
  refine ⟨(url.asked (some filters)).query, hquery, ?_⟩
  rw [hheaders, listRequest, Url.asked, ← hurl]
  rfl

/-- **All entries that meet some filters are read**, whatever the pages are. -/
theorem perform_list {answered : List (String × String) → Prop} {endpoint : String}
    {entries : List α} {meets : String × String → α → Bool}
    (h : service.Lists network answered endpoint Shows entries meets) {entry : Decoder β}
    {f : α → β} {levels : Nat}
    (hentry : entry.Scans levels fun document b => ∃ a, Shows document a ∧ b = f a)
    (hlevels : levels + 2 ≤ Json.maxDepth) (kind : Inventory.Kind)
    {filters : List (String × String)} (hanswered : answered filters) (s : σ) :
    ∃ t, (service.list network kind entry endpoint filters).perform s =
      (.ok ((entries.filter fun entry => filters.all (meets · entry)).map f), t) := by
  obtain ⟨address, headers, haddress, hsent, hpages⟩ := h
  obtain ⟨query, hquery, hrequest⟩ := exists_query haddress (hsent filters hanswered)
  obtain ⟨pages, hflatten, hlength, hpaged⟩ := hpages query filters hquery hanswered s
  obtain ⟨t, ht⟩ := perform_pagesFrom kind endpoint hentry hlevels (hpaged.map f)
    (by simpa using hlength)
  refine ⟨t, ?_⟩
  rw [list, Action.perform_step, hrequest, ht, ← List.map_flatten, hflatten]

/-! ## Snapshots -/

/-- Whether a device meets a filter. -/
def meetsDevice : String × String → Device → Bool
  | ("serial", serial), device => device.serial = serial
  | _, _ => false

/-- Whether an interface meets a filter: it has the name or the description, or it is one of the
device with the number, or of a device with the name. -/
def meetsInterface (snapshot : Snapshot) : String × String → Interface → Bool
  | ("name", name), interface => interface.name = name
  | ("description", description), interface => interface.description = description
  | ("device_id", number), interface => toString interface.device.toInt = number
  | ("device", name), interface =>
    snapshot.devices.any fun device => device.name = name && device.id = interface.device
  | _, _ => false

/-- Whether an address meets a filter. -/
def meetsAddress : String × String → AssignedAddress → Bool
  | ("interface_id", number), assigned => toString assigned.interface.toInt = number
  | _, _ => false

/-- The service keeps the things of a snapshot, and answers some filters. -/
structure Serves (service : NetBox) (network : Http.Network σ) (snapshot : Snapshot)
    (answered : List (String × String) → Prop) : Prop where
  devices : service.Lists network answered "/api/dcim/devices/" ShowsDevice snapshot.devices
    meetsDevice
  interfaces : service.Lists network answered "/api/dcim/interfaces/" ShowsInterface
    snapshot.interfaces (meetsInterface snapshot)
  addresses : service.Lists network answered "/api/ipam/ip-addresses/" ShowsAddress
    snapshot.addresses meetsAddress
  roles : service.Lists network answered "/api/dcim/device-roles/" ShowsRole snapshot.roles
    fun _ _ => false

/-- A number is written as it is in a document. -/
theorem toString_eq_render (n : Int) : toString n = (Json.int n).render .line := by
  cases n with
  | ofNat n => rfl
  | negSucc n =>
    refine String.toList_inj.mp ?_
    change ("-" ++ Nat.repr (n + 1)).toList = _
    simp only [String.toList_append, Nat.repr_eq_ofList_toDigits, Json.render, String.toList_ofList]
    rfl

/-- A number of 64 bits is within the range of numbers in documents. -/
theorem inRange_toInt (n : Int64) : Json.InRange n.toInt := by
  have hmin := n.le_toInt
  have hmax := n.toInt_lt
  simp only [Json.InRange]
  omega

/-- Numbers are equal if they are written alike, since what is written is read back. -/
theorem toString_toInt_eq_iff {n m : Int64} : toString n.toInt = toString m.toInt ↔ n = m := by
  refine ⟨fun h => ?_, fun h => by rw [h]⟩
  have hread : ∀ k : Int64, Json.parse (Utf8.ofString (toString k.toInt) ++ []) =
      .ok (.int k.toInt) := by
    intro k
    have hstorable : (Json.int k.toInt).Storable :=
      ⟨by simp [Json.Sorted], inRange_toInt k, by simp [Json.depth]⟩
    rw [toString_eq_render]
    exact Json.parse_render .line hstorable rfl
  have hn := hread n
  rw [h, hread m] at hn
  exact (Int64.toInt_inj.mp (Json.int.inj (Except.ok.inj hn))).symm

/-- The filter for a device is met by the interfaces of the devices that it may be. -/
theorem meetsInterface_filter (snapshot : Snapshot) (device : DeviceRef) (interface : Interface) :
    meetsInterface snapshot device.filter interface =
      (snapshot.deviceIds device).contains interface.device := by
  rw [Bool.eq_iff_iff]
  cases device with
  | number id =>
    change decide (toString interface.device.toInt = toString id.toInt) = true ↔ _
    simp only [decide_eq_true_eq, toString_toInt_eq_iff, Snapshot.deviceIds,
      List.contains_iff_mem, List.mem_singleton]
  | named name =>
    change (snapshot.devices.any fun device =>
      device.name = name && device.id = interface.device) = true ↔ _
    simp only [List.any_eq_true, Bool.and_eq_true, decide_eq_true_eq, Snapshot.deviceIds,
      List.contains_iff_mem, List.mem_map, List.mem_filter, and_assoc]

/-! ## Answers -/

section Answers

variable {snapshot : Snapshot} {answered : List (String × String) → Prop}

/-- What is made of all entries that meet some filters does not depend on the state. -/
theorem sameResult_list {γ : Type} {endpoint : String} {entries : List α}
    {meets : String × String → α → Bool}
    (h : service.Lists network answered endpoint Shows entries meets) {entry : Decoder β}
    {f : α → β} {levels : Nat}
    (hentry : entry.Scans levels fun document b => ∃ a, Shows document a ∧ b = f a)
    (hlevels : levels + 2 ≤ Json.maxDepth) (kind : Inventory.Kind)
    {filters : List (String × String)} (hanswered : answered filters)
    {next : List β → Action σ Inventory.Fault γ} {result : Except Inventory.Fault γ}
    (hnext : next ((entries.filter fun entry => filters.all (meets · entry)).map f) =
      Action.ofExcept result) :
    Action.SameResult (service.list network kind entry endpoint filters >>= next)
      (Action.ofExcept result : Action τ Inventory.Fault γ) := by
  intro s t
  obtain ⟨u, hu⟩ := perform_list h hentry hlevels kind hanswered s
  rw [Action.perform_bind_ok hu, hnext]
  rfl

/-- The device with a serial is the one of the snapshot. -/
theorem sameResult_deviceBySerial (h : service.Serves network snapshot answered) {serial : String}
    (hanswered : answered [("serial", serial)]) :
    Action.SameResult ((service.inventory network).deviceBySerial serial)
      ((snapshot.inventory τ).deviceBySerial serial) := by
  have hentry : deviceDecoder.Scans 2 fun document b => ∃ a, ShowsDevice document a ∧ b = id a :=
    scans_device.imp fun _ _ ⟨_, ha, heq⟩ => heq ▸ ha
  refine sameResult_list h.devices hentry (by decide) .device hanswered ?_
  rw [List.map_id]
  simp only [List.all_cons, List.all_nil, Bool.and_true]
  rfl

/-- The interfaces that meet a filter and are of a device are the ones of the snapshot. -/
theorem filter_interfaces (snapshot : Snapshot) (filter : String × String) (device : DeviceRef) :
    (snapshot.interfaces.filter fun interface =>
        [filter, device.filter].all (meetsInterface snapshot · interface)) =
      snapshot.interfacesWhere device (meetsInterface snapshot filter) := by
  refine List.filter_congr fun interface _ => ?_
  simp only [List.all_cons, List.all_nil, Bool.and_true, meetsInterface_filter]
  exact Bool.and_comm _ _

/-- What is made of the interfaces that meet a filter and are of a device does not depend on the
state. -/
theorem sameResult_interfaces {γ : Type} (h : service.Serves network snapshot answered)
    {filter : String × String} {device : DeviceRef} (hanswered : answered [filter, device.filter])
    {next : List Interface → Action σ Inventory.Fault γ} {result : Except Inventory.Fault γ}
    (hnext : next (snapshot.interfacesWhere device (meetsInterface snapshot filter)) =
      Action.ofExcept result) :
    Action.SameResult (service.interfaces network filter device >>= next)
      (Action.ofExcept result : Action τ Inventory.Fault γ) := by
  have hentry : interfaceDecoder.Scans 2 fun document b =>
      ∃ a, ShowsInterface document a ∧ b = id a :=
    scans_interface.imp fun _ _ ⟨_, ha, heq⟩ => heq ▸ ha
  refine sameResult_list h.interfaces hentry (by decide) .interface hanswered ?_
  rw [List.map_id, filter_interfaces, hnext]

/-- The interface of a device with a name is the one of the snapshot. -/
theorem sameResult_interfaceByName (h : service.Serves network snapshot answered) {name : String}
    {device : DeviceRef} (hanswered : answered [("name", name), device.filter]) :
    Action.SameResult ((service.inventory network).interfaceByName name device)
      ((snapshot.inventory τ).interfaceByName name device) :=
  sameResult_interfaces h hanswered rfl

/-- The interface of a device with a description is the one of the snapshot. -/
theorem sameResult_interfaceByDescription (h : service.Serves network snapshot answered)
    {description : String} {device : DeviceRef}
    (hanswered : answered [("description", description), device.filter]) :
    Action.SameResult ((service.inventory network).interfaceByDescription description device)
      ((snapshot.inventory τ).interfaceByDescription description device) :=
  sameResult_interfaces h hanswered rfl

/-- The interfaces of a device with a description are the ones of the snapshot, in their order. -/
theorem sameResult_interfacesByDescription (h : service.Serves network snapshot answered)
    {description : String} {device : DeviceRef}
    (hanswered : answered [("description", description), device.filter]) :
    Action.SameResult ((service.inventory network).interfacesByDescription description device)
      ((snapshot.inventory τ).interfacesByDescription description device) := by
  have hpure : Action.SameResult
      (service.interfaces network ("description", description) device >>= pure)
      ((snapshot.inventory τ).interfacesByDescription description device) :=
    sameResult_interfaces h hanswered rfl
  rw [bind_pure] at hpure
  exact hpure

/-- What is single after a change is the change of what is single. -/
theorem single_map (kind : Inventory.Kind) (query : String) (f : α → β) (items : List α) :
    Inventory.single kind query (items.map f) = (Inventory.single kind query items).map f := by
  match items with
  | [] => rfl
  | [_] => rfl
  | _ :: _ :: _ => simp [Inventory.single, Except.map]

/-- The address of an interface is the one of the snapshot. -/
theorem sameResult_addressOf (h : service.Serves network snapshot answered) {interface : Int64}
    (hanswered : answered [("interface_id", toString interface.toInt)]) :
    Action.SameResult ((service.inventory network).addressOf interface)
      ((snapshot.inventory τ).addressOf interface) := by
  refine sameResult_list h.addresses scans_assignment (by decide) .address hanswered ?_
  have hfilter : (snapshot.addresses.filter fun assigned =>
      [("interface_id", toString interface.toInt)].all (meetsAddress · assigned)) =
      snapshot.addressesOf interface := by
    refine List.filter_congr fun assigned _ => ?_
    simp only [List.all_cons, List.all_nil, Bool.and_true]
    change decide (toString assigned.interface.toInt = toString interface.toInt) = _
    simp only [toString_toInt_eq_iff]
  rw [hfilter, single_map]
  rcases Inventory.single .address (Inventory.addressQuery interface)
    (snapshot.addressesOf interface) with fault | assigned <;> rfl

/-- The known roles among given ones are those of the snapshot, in their order. -/
theorem sameResult_rolesAmong (h : service.Serves network snapshot answered)
    (hanswered : answered []) (present : List String) :
    Action.SameResult ((service.inventory network).rolesAmong present)
      ((snapshot.inventory τ).rolesAmong present) := by
  have hentry : roleDecoder.Scans 1 fun document b => ∃ a, ShowsRole document a ∧ b = id a :=
    scans_role.imp fun _ _ ⟨_, ha, heq⟩ => heq ▸ ha
  refine sameResult_list h.roles hentry (by decide) .role hanswered ?_
  rw [List.map_id]
  simp only [List.all_nil, List.filter_true]
  rfl

/-- The questions of a derivation that the service answers, provided that it answers for the
addresses of the interfaces of the snapshot. -/
def scopeOf (snapshot : Snapshot) (answered : List (String × String) → Prop) : Inventory.Scope where
  serials serial := answered [("serial", serial)]
  texts text := ∀ key ∈ ["name", "description"], ∀ device ∈ snapshot.devices,
    answered [(key, text), ("device_id", toString device.id.toInt)]
  devices device := device ∈ snapshot.devices
  interfaces interface := interface ∈ snapshot.interfaces

/-- On the questions that it answers the service concurs with the snapshot. -/
theorem concurs_snapshot (h : service.Serves network snapshot answered)
    (haddresses : ∀ interface ∈ snapshot.interfaces,
      answered [("interface_id", toString interface.id.toInt)])
    (hroles : answered []) :
    Inventory.Concurs (fun _ _ => True) (scopeOf snapshot answered) (service.inventory network)
      (snapshot.inventory τ) where
  deviceBySerial _ hserial :=
    (sameResult_deviceBySerial h hserial).agrees
      (Inventory.agreement_single _ _ (.refl _) fun _ => List.mem_of_mem_filter)
  interfaceByName _ device hname hdevice :=
    (sameResult_interfaceByName h (hname "name" (by simp) device hdevice)).agrees
      (Inventory.agreement_single _ _ (.refl _) fun _ => List.mem_of_mem_filter)
  interfaceByDescription _ device hdescription hdevice :=
    (sameResult_interfaceByDescription h
      (hdescription "description" (by simp) device hdevice)).agrees
        (Inventory.agreement_single _ _ (.refl _) fun _ => List.mem_of_mem_filter)
  interfacesByDescription _ device hdescription hdevice :=
    (sameResult_interfacesByDescription h
      (hdescription "description" (by simp) device hdevice)).agrees (.ok (.refl _))
  addressOf interface hinterface :=
    Action.sameResult_iff_agrees.mp (sameResult_addressOf h (haddresses interface hinterface))
  rolesAmong present := Action.sameResult_iff_agrees.mp (sameResult_rolesAmong h hroles present)

/-- **A service that keeps the things of a snapshot gives the answers of the snapshot**, whatever
pages it splits its lists into: every question whose filters it answers has the same result, be it
the single thing that was asked for or the failure with its question and count. So the variables
that are derived from an intent are the same, if the service answers all questions about it.

**Proof sketch.** Each question asks for one list. The entries that meet its filters are read from
all pages; they are the ones that the snapshot selects, in the same order, and so the same is made
of them. The derivation only asks these questions. -/
theorem inventory_agrees (h : service.Serves network snapshot answered) :
    let served := service.inventory network
    let stored := snapshot.inventory τ
    (∀ serial, answered [("serial", serial)] →
        Action.SameResult (served.deviceBySerial serial) (stored.deviceBySerial serial)) ∧
      (∀ name device, answered [("name", name), device.filter] →
        Action.SameResult (served.interfaceByName name device)
          (stored.interfaceByName name device)) ∧
      (∀ description device, answered [("description", description), device.filter] →
        Action.SameResult (served.interfaceByDescription description device)
            (stored.interfaceByDescription description device) ∧
          Action.SameResult (served.interfacesByDescription description device)
            (stored.interfacesByDescription description device)) ∧
      (∀ interface : Int64, answered [("interface_id", toString interface.toInt)] →
        Action.SameResult (served.addressOf interface) (stored.addressOf interface)) ∧
      (answered [] → ∀ present,
        Action.SameResult (served.rolesAmong present) (stored.rolesAmong present)) ∧
      ∀ intent, (scopeOf snapshot answered).Covers intent →
        (∀ interface ∈ snapshot.interfaces,
          answered [("interface_id", toString interface.id.toInt)]) →
        answered [] →
        Action.SameResult (Derivation.routing served intent) (Derivation.routing stored intent) ∧
          Action.SameResult (Derivation.switching served intent)
            (Derivation.switching stored intent) := by
  refine ⟨fun _ hanswered => sameResult_deviceBySerial h hanswered,
    fun _ _ hanswered => sameResult_interfaceByName h hanswered,
    fun _ _ hanswered => ⟨sameResult_interfaceByDescription h hanswered,
      sameResult_interfacesByDescription h hanswered⟩,
    fun _ hanswered => sameResult_addressOf h hanswered,
    fun hanswered present => sameResult_rolesAmong h hanswered present, ?_⟩
  intro intent hcovers haddresses hroles
  have hconcurs := concurs_snapshot (τ := τ) h haddresses hroles
  exact ⟨Action.sameResult_iff_agrees.mpr (Derivation.agrees_routing hconcurs hcovers),
    Action.sameResult_iff_agrees.mpr (Derivation.agrees_switching hconcurs hcovers)⟩

end Answers

/-! ### Two devices with one name -/

section Twins

/-- A router and a switch with one name, each of which has an interface with one description. -/
def twinSnapshot : Snapshot where
  devices := [⟨1, "edge", "S1", "C9KV", "zurich"⟩, ⟨2, "edge", "S2", "C9300", ""⟩]
  interfaces := [⟨10, 1, "Sdwan-system-intf", ""⟩, ⟨11, 1, "Gi1", "WAN"⟩, ⟨12, 1, "Gi2", "INFRA"⟩,
    ⟨13, 1, "Gi3", "guest & lab"⟩, ⟨14, 2, "GigabitEthernet1/0/1", "guest & lab"⟩]
  addresses := [⟨100, 10, "10.0.0.1/32"⟩, ⟨101, 11, "192.0.2.1/24"⟩, ⟨102, 12, "10.1.0.1/24"⟩,
    ⟨103, 13, "10.2.0.1/24"⟩]
  roles := ["C9300", "C9KV"]

/-- An intent for them. -/
def twinIntent : Intent where
  sites := [⟨1, "zurich", .branch, ["S1"], ["S2"]⟩]
  vpns := [⟨10, "guest & lab", [.branch]⟩]

/-- The service with this snapshot. -/
def twinService : NetBox :=
  ⟨⟨"http://[::1]", "token", 30, true⟩⟩

/-- The lists of filters that the service answers. -/
def twinFilters : List (List (String × String)) :=
  [[], [("serial", "S1")], [("serial", "S2")], [("description", "guest & lab"), ("device", "edge")]] ++
    (twinSnapshot.interfaces.map fun interface =>
      [("interface_id", toString interface.id.toInt)]) ++
    (["name", "description"].flatMap fun key =>
      ["Sdwan-system-intf", "WAN", "INFRA", "guest & lab"].flatMap fun text =>
        twinSnapshot.devices.map fun device =>
          [(key, text), ("device_id", toString device.id.toInt)])

/-- The address of a list. -/
def twinAddress (endpoint : String) : Url :=
  ⟨"http", some ⟨.none, some (.v6 ⟨[0, 0, 0, 0, 0, 0, 0, 1], rfl⟩), none⟩, endpoint, none, none⟩

/-- A reference to something with a name. -/
def referenceDocument (reference : Reference) : Json :=
  .obj [("id", .int reference.id.toInt), ("name", .str reference.name)]

/-- A device as the service tells of it. -/
def deviceDocument (device : Device) : Json :=
  .obj [("id", .int device.id.toInt), ("name", .str device.name), ("serial", .str device.serial),
    ("device_role", referenceDocument ⟨1, device.role⟩), ("site", referenceDocument ⟨1, device.site⟩)]

/-- An interface as the service tells of it. -/
def interfaceDocument (interface : Interface) : Json :=
  .obj [("id", .int interface.id.toInt), ("name", .str interface.name),
    ("device", referenceDocument ⟨interface.device, "edge"⟩),
    ("description", .str interface.description)]

/-- An address as the service tells of it. -/
def addressDocument (assigned : AssignedAddress) : Json :=
  .obj [("id", .int assigned.id.toInt), ("address", .str assigned.address),
    ("assigned_object_id", .int assigned.interface.toInt)]

/-- A role as the service tells of it. -/
def roleDocument (role : String) : Json :=
  .obj [("name", .str role)]

/-- A page as the service gives it. -/
def pageDocument (next : Option String) (documents : List Json) : Json :=
  .obj [("count", .int 3), ("next", next.elim .null .str), ("results", .arr documents)]

/-- The entries of a list that meet some filters. -/
def twinDocuments (endpoint : String) (filters : List (String × String)) : List Json :=
  if endpoint = "/api/dcim/devices/" then
    (twinSnapshot.devices.filter fun device => filters.all (meetsDevice · device)).map
      deviceDocument
  else if endpoint = "/api/dcim/interfaces/" then
    (twinSnapshot.interfaces.filter fun interface =>
      filters.all (meetsInterface twinSnapshot · interface)).map interfaceDocument
  else if endpoint = "/api/ipam/ip-addresses/" then
    (twinSnapshot.addresses.filter fun assigned => filters.all (meetsAddress · assigned)).map
      addressDocument
  else (twinSnapshot.roles.filter fun _ => filters.all fun _ => false).map roleDocument

/-- The network with this service, which gives every list on two pages: the first page has one entry
and names the address of the other one, which it has ready until it is asked again. -/
def twinNetwork : Http.Network (List Json) where
  send request := .step fun ready =>
    let reply (document : Json) : Http.Reply := ⟨200, Utf8.ofString (document.render .line)⟩
    if request.url.path = "/next" then (.ok (reply (pageDocument none ready)), ready)
    else
      let documents := twinDocuments request.url.path (readQuery (request.url.query.getD ""))
      (.ok (reply (pageDocument (some "http://[::1]/next") (documents.take 1))), documents.drop 1)
  patience _ := 1

/-- Documents that tell of entries make up a page. -/
theorem givesPage_twin {document : α → Json} {items : List α}
    (hdocument : ∀ a, Shows (document a) a ∧ (document a).Whole) (next : Option String) :
    GivesPage Shows ⟨200, Utf8.ofString ((pageDocument next (items.map document)).render .line)⟩
      ⟨next, items⟩ := by
  have hshows : List.Forall₂ Shows (items.map document) items :=
    List.forall₂_map_left_iff.mpr (List.forall₂_same.mpr fun a _ => (hdocument a).1)
  have hwhole : (pageDocument next (items.map document)).Whole := by
    have hitems : Json.WholeItems (items.map document) := by
      rw [Json.wholeItems_iff]
      intro _ hmem
      obtain ⟨a, -, rfl⟩ := List.mem_map.mp hmem
      exact (hdocument a).2
    cases next <;> simp [pageDocument, Json.Whole, Json.WholeFields, Json.InRange, hitems]
  exact ⟨rfl, _, ⟨_, rfl, .inl rfl, _, rfl, hshows⟩, Json.spellsWhole_render .line hwhole⟩

/-- A list of the service is given on its two pages. -/
theorem lists_twin {endpoint : String} {entries : List α} {meets : String × String → α → Bool}
    {document : α → Json} (hdocument : ∀ a, Shows (document a) a ∧ (document a).Whole)
    (hdocuments : ∀ filters, twinDocuments endpoint filters =
      (entries.filter fun entry => filters.all (meets · entry)).map document)
    (hrequest : twinService.request (twinService.addressOf endpoint) none =
      .ok (listRequest (twinAddress endpoint) twinService.headers none))
    (hsent : ∀ filters ∈ twinFilters,
      (twinService.request (twinService.addressOf endpoint) (some filters)).isOk = true)
    (hendpoint : endpoint ≠ "/next") :
    twinService.Lists twinNetwork (· ∈ twinFilters) endpoint Shows entries meets := by
  refine ⟨twinAddress endpoint, twinService.headers, hrequest, hsent, ?_⟩
  rintro query filters rfl - ready
  generalize hitems : (entries.filter fun entry =>
    (readQuery (query.getD "")).all (meets · entry)) = items
  have hfirst : (twinNetwork.send
      (listRequest (twinAddress endpoint) twinService.headers query)).perform
      ready = (.ok ⟨200, Utf8.ofString ((pageDocument (some "http://[::1]/next")
        ((items.take 1).map document)).render .line)⟩, (items.drop 1).map document) := by
    simp only [twinNetwork, Action.perform_step, listRequest, twinAddress, if_neg hendpoint,
      hdocuments, hitems, List.map_take, List.map_drop]
  have hsecond : (twinNetwork.send
      (listRequest (twinAddress "/next") twinService.headers none)).perform
      ((items.drop 1).map document) = (.ok ⟨200, Utf8.ofString ((pageDocument none
        ((items.drop 1).map document)).render .line)⟩, (items.drop 1).map document) := rfl
  have hnext : twinService.request "http://[::1]/next" none =
      .ok (listRequest (twinAddress "/next") twinService.headers none) := by decide +kernel
  have hflatten : [items.take 1, items.drop 1].flatten = items := by
    simp only [List.flatten_cons, List.flatten_nil, List.append_nil, List.take_append_drop]
  refine ⟨[items.take 1, items.drop 1], hflatten, Nat.le_refl 2, ?_⟩
  exact .next rfl hfirst (givesPage_twin hdocument _)
    (.last hnext hsecond (givesPage_twin hdocument _))

/-- The service keeps the things of the snapshot. -/
theorem serves_twin : twinService.Serves twinNetwork twinSnapshot (· ∈ twinFilters) where
  devices := by
    have hdocument : ∀ device, ShowsDevice (deviceDocument device) device ∧
        (deviceDocument device).Whole := by
      intro device
      refine ⟨⟨_, rfl, rfl, .inl (.inl rfl), .inl rfl, ?_, ?_⟩, ?_⟩
      · exact ⟨1, _, rfl, _, rfl, rfl, .inl rfl⟩
      · exact ⟨1, _, rfl, _, rfl, rfl, .inl rfl⟩
      · have hone : Json.InRange 1 := inRange_toInt 1
        simp [deviceDocument, referenceDocument, Json.Whole, Json.WholeFields, inRange_toInt, hone]
    refine lists_twin hdocument (fun _ => rfl) ?_ ?_ (by decide)
    · decide +kernel
    · decide +kernel
  interfaces := by
    have hdocument : ∀ interface, ShowsInterface (interfaceDocument interface) interface ∧
        (interfaceDocument interface).Whole := by
      intro interface
      refine ⟨⟨_, rfl, rfl, ⟨"edge", _, rfl, _, rfl, rfl, .inl rfl⟩, rfl, .inl rfl⟩, ?_⟩
      simp [interfaceDocument, referenceDocument, Json.Whole, Json.WholeFields, inRange_toInt]
    refine lists_twin hdocument (fun _ => rfl) ?_ ?_ (by decide)
    · decide +kernel
    · decide +kernel
  addresses := by
    have hdocument : ∀ assigned, ShowsAddress (addressDocument assigned) assigned ∧
        (addressDocument assigned).Whole := by
      intro assigned
      refine ⟨⟨_, rfl, rfl, rfl, rfl⟩, ?_⟩
      simp [addressDocument, Json.Whole, Json.WholeFields, inRange_toInt]
    refine lists_twin hdocument (fun _ => rfl) ?_ ?_ (by decide)
    · decide +kernel
    · decide +kernel
  roles := by
    have hdocument : ∀ role, ShowsRole (roleDocument role) role ∧ (roleDocument role).Whole := by
      intro role
      refine ⟨⟨_, rfl, rfl⟩, ?_⟩
      simp [roleDocument, Json.Whole, Json.WholeFields]
    refine lists_twin hdocument (fun _ => rfl) ?_ ?_ (by decide)
    · decide +kernel
    · decide +kernel

/-- The service answers the questions about the intent. -/
theorem covers_twin : (scopeOf twinSnapshot (· ∈ twinFilters)).Covers twinIntent := by
  refine ⟨?_, ?_, ?_, ?_⟩ <;>
  · simp only [scopeOf]
    decide +kernel

/-- Two interfaces with the description are found at the service, one on each page. The serial is
that of one device only. What is derived from the intent is what is derived with the snapshot. -/
theorem inventory_agrees_twins :
    twinService.Serves twinNetwork twinSnapshot (· ∈ twinFilters) ∧
      (((twinService.inventory twinNetwork).interfaceByDescription "guest & lab"
        (.named "edge")).perform []).1 =
        .error (.ambiguous .interface "description=guest & lab device=edge" 2) ∧
      (((twinService.inventory twinNetwork).deviceBySerial "S2").perform []).1 =
        .ok ⟨2, "edge", "S2", "C9300", ""⟩ ∧
      ((Derivation.routing (twinService.inventory twinNetwork) twinIntent).perform []).1 =
        ((Derivation.routing (twinSnapshot.inventory Unit) twinIntent).perform ()).1 ∧
      ((Derivation.routing (twinSnapshot.inventory Unit) twinIntent).perform ()).1.isOk = true ∧
      ((Derivation.switching (twinService.inventory twinNetwork) twinIntent).perform []).1 =
        ((Derivation.switching (twinSnapshot.inventory Unit) twinIntent).perform ()).1 ∧
      ((Derivation.switching (twinSnapshot.inventory Unit) twinIntent).perform ()).1.isOk = true := by
  obtain ⟨hserial, -, hdescription, -, -, hderived⟩ := inventory_agrees (τ := Unit) serves_twin
  obtain ⟨hrouting, hswitching⟩ :=
    hderived twinIntent covers_twin (by decide +kernel) (by decide +kernel)
  obtain ⟨hsingle, -⟩ := hdescription "guest & lab" (.named "edge") (by decide)
  have hfound : ((twinSnapshot.inventory Unit).interfaceByDescription "guest & lab"
      (.named "edge")).perform () =
        (.error (.ambiguous .interface "description=guest & lab device=edge" 2), ()) := by
    decide +kernel
  have hdevice : ((twinSnapshot.inventory Unit).deviceBySerial "S2").perform () =
      (.ok ⟨2, "edge", "S2", "C9300", ""⟩, ()) := by
    decide +kernel
  refine ⟨serves_twin, ?_, ?_, hrouting [] (), by decide +kernel, hswitching [] (),
    by decide +kernel⟩
  · rw [hsingle [] (), hfound]
  · rw [hserial "S2" (by decide) [] (), hdevice]

end Twins

end NetworkIntent.NetBox
