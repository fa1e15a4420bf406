import Mathlib.Data.List.DropRight
import NetworkIntent.Http.Script
import NetworkIntent.Inventory.NetBox
import NetworkIntent.Proofs.Action
import NetworkIntent.Proofs.BaseAddress
import NetworkIntent.Proofs.Request
import NetworkIntent.Publication.GitLab
import NetworkIntent.ServiceDatabase

/-!
# Slashes at the end of a base

Three services are reached at a base that is configured. Version control and the database of
services leave out the slashes at its end before they go on, so their requests and results do not
depend on how many there are. The inventory goes on right after the base: each slash at its end
stands in every address that is asked, which is another path for the server, and where nobody
replies the results show it.

## Main definitions

* `Url.slashes`: some slashes.
* `NetBox.slashed`: a service at a base with more slashes.
* `NetBox.Offered`: what can be done with a service.
* `NetBox.Indifferent`: what is done is the same with more slashes, whatever the network.

## Main results

* `GitLab.control_congr`, `ServiceDatabase.source_congr`: slashes at the end do not matter.
* `NetBox.exists_read?_slashed`: the addresses of the inventory keep all slashes.
* `NetBox.Offered.indifferent_iff`: nothing that the inventory offers is the same with more slashes.
* `trailing_slashes`: for which services slashes at the end matter.
-/

set_option autoImplicit false

namespace NetworkIntent

namespace Url

/-! ## Slashes -/

/-- Some slashes. -/
def slashes (n : ℕ) : String :=
  String.ofList (List.replicate n '/')

@[simp] theorem slashes_zero : slashes 0 = "" := rfl

@[simp] theorem length_slashes (n : ℕ) : (slashes n).length = n := by
  rw [slashes, String.length_ofList, List.length_replicate]

/-- A slash after slashes might as well come first. -/
theorem slashes_append_slash (n : ℕ) (more : String) :
    slashes n ++ ("/" ++ more) = "/" ++ (slashes n ++ more) := by
  have hlist : List.replicate n '/' ++ '/' :: more.toList =
      '/' :: (List.replicate n '/' ++ more.toList) := by
    rw [List.append_cons, ← List.replicate_succ', List.replicate_succ, List.cons_append]
  refine String.toList_inj.mp ?_
  simpa [slashes] using hlist

/-- No slash at the end of a text is kept. -/
theorem trimSlashes_append_slashes (base : String) (n : ℕ) :
    trimSlashes (base ++ slashes n) = trimSlashes base := by
  have hreverse : (base ++ slashes n).toList.reverse =
      List.replicate n '/' ++ base.toList.reverse := by
    simp [slashes]
  have hall : ∀ c ∈ List.replicate n '/', decide (c = '/') = true := by
    intro c hc
    exact decide_eq_true (List.eq_of_mem_replicate hc)
  rw [trimSlashes, trimSlashes, hreverse, List.dropWhile_append_of_pos hall]

/-- A text without slashes at its end is left as it is. -/
theorem trimSlashes_trimSlashes (base : String) :
    trimSlashes (trimSlashes base) = trimSlashes base := by
  simp [trimSlashes, List.dropWhile_idempotent]

/-- Slashes before a text that follows a base are kept there. -/
theorem isPathText_slashes {cs : List Char} (h : IsPathText cs) (n : ℕ) :
    IsPathText (List.replicate n '/' ++ cs) := by
  induction n with
  | zero => exact h
  | succ n ih =>
    rw [List.replicate_succ, List.cons_append]
    exact ih.slash

/-! ## Addresses with pairs -/

/-- A query with more pairs shows all of the text at the end of the address. -/
theorem length_text_addQuery (url : Url) (pairs : List (String × String)) {s t : String}
    (hs : s ≠ "") (ht : t ≠ "") :
    ((url.extend s).addQuery pairs).text.length + t.length =
      ((url.extend t).addQuery pairs).text.length + s.length := by
  obtain ⟨scheme, authority, path, query, fragment⟩ := url
  by_cases hadded : Percent.query pairs = "" <;> cases fragment <;> cases query
  all_goals
    simp [extend, addQuery, text, target, ToString.toString, hadded, hs, ht]
    omega

/-- The text of an address to which a request goes, without the credentials and with the pairs of
the request. -/
def askedText (pairs : Option (List (String × String))) (url : Url) : String :=
  if url.host?.isNone then url.text
  else
    match pairs with
    | none => url.withoutCredentials.text
    | some pairs => (url.withoutCredentials.addQuery pairs).text

/-- A request shows all of the text at the end of the address. -/
theorem length_askedText (url : Url) (pairs : Option (List (String × String))) {s t : String}
    (hs : s ≠ "") (ht : t ≠ "") :
    (askedText pairs (url.extend s)).length + t.length =
      (askedText pairs (url.extend t)).length + s.length := by
  simp only [askedText, host?_extend]
  split
  · simp only [text_extend, String.length_append]
    omega
  · cases pairs with
    | none =>
      simp only [withoutCredentials_extend, text_extend, String.length_append]
      omega
    | some pairs =>
      simp only [withoutCredentials_extend]
      exact length_text_addQuery _ pairs hs ht

end Url

/-! ## Requests that nobody answers -/

namespace Http

/-- A fault that shows an address. -/
def Fault.Shows (address : String) : Fault → Prop
  | .noHost shown | .noReply shown => shown = address
  | .noAddress | .unreadable => False

/-- The message of a fault that shows an address. -/
theorem Fault.Shows.message_eq {fault : Fault} {s : String} (h : fault.Shows s) :
    fault.message = "builder error for url (" ++ s ++ ")" ∨
      fault.message = "error sending request for url (" ++ s ++ ")" := by
  cases fault with
  | noHost shown => exact .inl (by rw [← show shown = s from h]; rfl)
  | noReply shown => exact .inr (by rw [← show shown = s from h]; rfl)
  | noAddress | unreadable => exact absurd h id

/-- The message of a fault tells the address that it shows. -/
theorem Fault.Shows.eq_of_message {fault other : Fault} {s t : String} (h : fault.Shows s)
    (h' : other.Shows t) (hmessage : fault.message = other.message) : s = t := by
  -- the two messages start with different characters
  have hdiffer : ∀ s t : String, "builder error for url (" ++ s ++ ")" ≠
      "error sending request for url (" ++ t ++ ")" := by
    intro s t heq
    have hfirst := congrArg (fun message => message.toList.head?) heq
    simp at hfirst
  rcases h.message_eq with hs | hs <;> rcases h'.message_eq with ht | ht <;>
    rw [hs, ht] at hmessage
  · simpa [String.append_assoc] using hmessage
  · exact absurd hmessage (hdiffer s t)
  · exact absurd hmessage.symm (hdiffer t s)
  · simpa [String.append_assoc] using hmessage

/-- **A request that nobody answers fails and shows its address.** -/
theorem exists_shows_ask_silent {σ : Type} {address : String} {url : Url}
    (h : Url.read? address = some url) (method : Method) (pairs : Option (List (String × String)))
    (headers : List (String × String)) (body : Option String) (s : σ) :
    ∃ fault : Fault, fault.Shows (url.askedText pairs) ∧
      ((Network.silent σ).ask (request method address pairs headers body)).perform s =
        (.error fault, s) := by
  rw [request_eq, h]
  dsimp only
  by_cases hhost : url.host?.isNone = true
  · exact ⟨.noHost url.text, by simp [Fault.Shows, Url.askedText, hhost], by rw [if_pos hhost]; rfl⟩
  · have hasked : (url.asked pairs).text = url.askedText pairs := by
      cases pairs <;> rw [Url.askedText, if_neg hhost] <;> rfl
    rw [if_neg hhost]
    split
    · exact ⟨.noReply (url.asked pairs).text, hasked, rfl⟩
    · exact ⟨.noHost (url.asked pairs).text, hasked, rfl⟩

end Http

/-! ## Version control and the database of services -/

/-- The settings of a project at another base. -/
def GitLabSettings.withBase (settings : GitLabSettings) (base : String) : GitLabSettings :=
  { settings with baseUrl := base }

/-- The settings of a database at another base. -/
def ServiceDatabaseSettings.withBase (settings : ServiceDatabaseSettings) (base : String) :
    ServiceDatabaseSettings :=
  { settings with baseUrl := base }

/-- **The version control of a project does not depend on slashes at the end of the base.** -/
theorem GitLab.control_congr {σ : Type} {project other : GitLab}
    (hbase : Url.trimSlashes project.settings.baseUrl = Url.trimSlashes other.settings.baseUrl)
    (hproject : project.settings.project = other.settings.project)
    (htoken : project.settings.token = other.settings.token) (network : Http.Network σ) :
    project.control network = other.control network := by
  have haddress : project.addressOf = other.addressOf := by
    funext part
    rw [addressOf, addressOf, hbase, hproject]
  have hfile : project.fileAddress = other.fileAddress := by
    funext path
    rw [fileAddress, fileAddress, haddress]
  have hheaders : project.headers = other.headers := by rw [headers, headers, htoken]
  have hplain : project.plain = other.plain := by
    funext method address pairs
    rw [plain, plain, hheaders]
  have hdocument : project.withDocument = other.withDocument := by
    funext method address document
    rw [withDocument, withDocument, hheaders]
  rw [control, control, haddress, hfile, hplain, hdocument]

/-- Neither does whether the project can be reached. -/
theorem GitLab.map_control_connect_congr {σ : Type} {settings other : GitLabSettings}
    (hbase : Url.trimSlashes settings.baseUrl = Url.trimSlashes other.baseUrl)
    (hproject : settings.project = other.project) (htoken : settings.token = other.token)
    (network : Http.Network σ) :
    (connect settings).map (·.control network) = (connect other).map (·.control network) := by
  have hcontrol : (GitLab.mk settings).control network = (GitLab.mk other).control network :=
    control_congr hbase hproject htoken network
  rw [connect, connect, htoken]
  split
  · simp only [Except.map, hcontrol]
  · rfl

/-- **The database as a source does not depend on slashes at the end of the base.** -/
theorem ServiceDatabase.source_congr {σ : Type} {database other : ServiceDatabase}
    (hbase : Url.trimSlashes database.settings.baseUrl = Url.trimSlashes other.settings.baseUrl)
    (network : Http.Network σ) : database.source network = other.source network := by
  have haddress : database.resourceAddress = other.resourceAddress := by
    funext resource
    rw [resourceAddress, resourceAddress, hbase]
  have hfetch : database.fetch network = other.fetch network := by
    funext resource
    rw [fetch, fetch, haddress]
  rw [source, source, hfetch]

/-! ## Addresses of the inventory -/

namespace NetBox

variable {σ α : Type} {service : NetBox} {url : Url}

/-- The service at a base with more slashes at its end. -/
def slashed (service : NetBox) (n : ℕ) : NetBox :=
  ⟨{ service.settings with baseUrl := service.settings.baseUrl ++ Url.slashes n }⟩

@[simp] theorem slashed_zero (service : NetBox) : service.slashed 0 = service := by
  rw [slashed, Url.slashes_zero, String.append_empty]

/-- The endpoints of a service: a slash, and a text that is kept as it is. -/
def IsEndpoint (endpoint : String) : Prop :=
  ∃ more : String, Url.IsPathText more.toList ∧ endpoint = "/" ++ more

theorem IsEndpoint.ne_empty {endpoint : String} (h : IsEndpoint endpoint) : endpoint ≠ "" := by
  obtain ⟨more, -, rfl⟩ := h
  simp

/-- **What is read from the addresses of a service**: all slashes at the end of the base are kept
before the endpoint. -/
theorem exists_read?_slashed (hbase : Url.IsBase service.settings.baseUrl url) :
    ∃ path : String, ∀ (n : ℕ) (endpoint : String), IsEndpoint endpoint →
      Url.read? ((service.slashed n).addressOf endpoint) =
        some ((url.withPath path).extend (Url.slashes n ++ endpoint)) := by
  obtain ⟨path, hpath⟩ := hbase.exists_read?
  refine ⟨path, ?_⟩
  rintro n _ ⟨more, hmore, rfl⟩
  have hslashes := Url.slashes_append_slash n more
  have htext : Url.IsPathText (Url.slashes n ++ more).toList := by
    rw [String.toList_append, Url.slashes, String.toList_ofList]
    exact Url.isPathText_slashes hmore n
  rw [hslashes, ← hpath _ htext, addressOf, slashed]
  dsimp only
  rw [String.append_assoc, hslashes, String.append_assoc]

/-! ## Operations of the inventory -/

/-- An action fails, and its message shows an address after the given text. -/
def FailsShowing (start address : String) (action : Action σ Inventory.Fault α) (s : σ) : Prop :=
  ∃ fault : Http.Fault, fault.Shows address ∧
    action.perform s = (.error (.unreachable (start ++ fault.message)), s)

/-- An action that fails shows one address. -/
theorem FailsShowing.eq {start address other : String} {action : Action σ Inventory.Fault α}
    {s : σ} (h : FailsShowing start address action s) (h' : FailsShowing start other action s) :
    address = other := by
  obtain ⟨fault, hshows, hperform⟩ := h
  obtain ⟨fault', hshows', hperform'⟩ := h'
  rw [hperform] at hperform'
  have hmessage : start ++ fault.message = start ++ fault'.message := by
    injection hperform' with herror
    injection herror with herror
    injection herror
  exact hshows.eq_of_message hshows' (by simpa using hmessage)

/-- Nothing follows an action that fails. -/
theorem FailsShowing.bind {β : Type} {start address : String}
    {action : Action σ Inventory.Fault α} {s : σ} (h : FailsShowing start address action s)
    (next : α → Action σ Inventory.Fault β) : FailsShowing start address (action >>= next) s := by
  obtain ⟨fault, hshows, hperform⟩ := h
  exact ⟨fault, hshows, Action.perform_bind_error hperform next⟩

/-- Where nobody replies, a check of the service shows its address. -/
theorem failsShowing_checkHealth
    (h : Url.read? (service.addressOf "/api/status/") = some url) (s : σ) :
    FailsShowing "NetBox health check failed: " (url.askedText none)
      (service.checkHealth (Http.Network.silent σ)) s := by
  obtain ⟨fault, hshows, hperform⟩ :=
    Http.exists_shows_ask_silent h .get none service.headers none s
  refine ⟨fault, hshows, ?_⟩
  unfold checkHealth
  refine Action.perform_bind_error ?_ _
  rw [Action.perform_mapFailure, NetBox.request, hperform]
  rfl

/-- Where nobody replies, a list shows its address. -/
theorem failsShowing_list {endpoint : String}
    (h : Url.read? (service.addressOf endpoint) = some url) (kind : Inventory.Kind)
    (entry : Json.Decoder α) (filters : List (String × String)) (s : σ) :
    FailsShowing "NetBox API error: " (url.askedText (some filters))
      (service.list (Http.Network.silent σ) kind entry endpoint filters) s := by
  obtain ⟨fault, hshows, hperform⟩ :=
    Http.exists_shows_ask_silent h .get (some filters) service.headers none s
  refine ⟨fault, hshows, ?_⟩
  have hpage : (page (Http.Network.silent σ) kind entry endpoint
      (service.request (service.addressOf endpoint) (some filters))).perform s =
        (.error (.unreachable ("NetBox API error: " ++ fault.message)), s) := by
    unfold page
    refine Action.perform_bind_error ?_ _
    rw [Action.perform_mapFailure, NetBox.request, hperform]
    rfl
  rw [list, Action.perform_step]
  change (Page.results <$> page (Http.Network.silent σ) kind entry endpoint
    (service.request (service.addressOf endpoint) (some filters))).perform s = _
  rw [map_eq_pure_bind]
  exact Action.perform_bind_error hpage _

/-- A request shows how many slashes there are before an endpoint. -/
theorem eq_zero_of_askedText {pairs : Option (List (String × String))} {n : ℕ} {endpoint : String}
    (hne : endpoint ≠ "")
    (h : (url.extend (Url.slashes n ++ endpoint)).askedText pairs =
      (url.extend endpoint).askedText pairs) : n = 0 := by
  have hslashed : Url.slashes n ++ endpoint ≠ "" := by simp [hne]
  have hlength := Url.length_askedText url pairs hslashed hne
  rw [h, String.length_append, Url.length_slashes] at hlength
  omega

/-- Something that is done with a service over a network. -/
abbrev Operation (α : Type) :=
  NetBox → (σ : Type) → Http.Network σ → Action σ Inventory.Fault α

/-- What can be done with a service: it is checked, something is listed, or it is asked one of the
questions of an inventory. -/
inductive Offered : {α : Type} → Operation α → Prop
  | checkHealth : Offered fun service _ network => service.checkHealth network
  | list {α : Type} (kind : Inventory.Kind) (entry : Json.Decoder α) (endpoint : String)
      (filters : List (String × String)) (hendpoint : IsEndpoint endpoint) :
      Offered fun service _ network => service.list network kind entry endpoint filters
  | deviceBySerial (serial : String) :
      Offered fun service _ network => (service.inventory network).deviceBySerial serial
  | interfaceByName (name : String) (device : DeviceRef) :
      Offered fun service _ network => (service.inventory network).interfaceByName name device
  | interfaceByDescription (description : String) (device : DeviceRef) :
      Offered fun service _ network =>
        (service.inventory network).interfaceByDescription description device
  | interfacesByDescription (description : String) (device : DeviceRef) :
      Offered fun service _ network =>
        (service.inventory network).interfacesByDescription description device
  | addressOf (interface : Int64) :
      Offered fun service _ network => (service.inventory network).addressOf interface
  | rolesAmong (present : List String) :
      Offered fun service _ network => (service.inventory network).rolesAmong present

/-- An operation is the same for a service at a base with more slashes, whatever the network. -/
def Indifferent (service : NetBox) (n : ℕ) (operation : Operation α) : Prop :=
  ∀ (σ : Type) (network : Http.Network σ),
    operation (service.slashed n) σ network = operation service σ network

/-- **An operation that shows the address of an endpoint where nobody replies is the same only
without more slashes.**

**Proof sketch.** The addresses of the endpoint differ by the slashes, and so do the messages of the
operation in the network in which nobody replies. -/
theorem indifferent_iff (hbase : Url.IsBase service.settings.baseUrl url)
    {endpoint : String} (hendpoint : IsEndpoint endpoint) (start : String)
    (pairs : Option (List (String × String))) {operation : Operation α}
    (hshows : ∀ {service : NetBox} {url : Url}, Url.read? (service.addressOf endpoint) = some url →
      FailsShowing start (url.askedText pairs) (operation service Unit (.silent Unit)) ())
    (n : ℕ) : service.Indifferent n operation ↔ n = 0 := by
  constructor
  · intro h
    obtain ⟨path, hpath⟩ := exists_read?_slashed hbase
    have hplain := hpath 0 endpoint hendpoint
    rw [slashed_zero, Url.slashes_zero, String.empty_append] at hplain
    have hshowsSlashed := hshows (hpath n endpoint hendpoint)
    rw [h Unit (.silent Unit)] at hshowsSlashed
    exact eq_zero_of_askedText hendpoint.ne_empty (hshowsSlashed.eq (hshows hplain))
  · rintro rfl σ network
    rw [slashed_zero]

/-- What goes on from a list is the same only without more slashes. -/
theorem bind_indifferent_iff {β : Type} (hbase : Url.IsBase service.settings.baseUrl url)
    {endpoint : String} (hendpoint : IsEndpoint endpoint) (kind : Inventory.Kind)
    (entry : Json.Decoder α) (filters : List (String × String))
    (next : (σ : Type) → List α → Action σ Inventory.Fault β) (n : ℕ) :
    (service.Indifferent n fun service σ network =>
      service.list network kind entry endpoint filters >>= next σ) ↔ n = 0 := by
  refine indifferent_iff hbase hendpoint "NetBox API error: " (some filters) ?_ n
  intro service url h
  exact (failsShowing_list h kind entry filters ()).bind (next Unit)

/-- **What can be done with a service is the same only without more slashes.** -/
theorem Offered.indifferent_iff {operation : Operation α} (h : Offered operation)
    (hbase : Url.IsBase service.settings.baseUrl url) (n : ℕ) :
    service.Indifferent n operation ↔ n = 0 := by
  have hdevices : IsEndpoint "/api/dcim/devices/" :=
    ⟨"api/dcim/devices/", by decide, by decide⟩
  have hinterfaces : IsEndpoint "/api/dcim/interfaces/" :=
    ⟨"api/dcim/interfaces/", by decide, by decide⟩
  have haddresses : IsEndpoint "/api/ipam/ip-addresses/" :=
    ⟨"api/ipam/ip-addresses/", by decide, by decide⟩
  have hroles : IsEndpoint "/api/dcim/device-roles/" :=
    ⟨"api/dcim/device-roles/", by decide, by decide⟩
  have hlist : ∀ {α : Type} {endpoint : String}, IsEndpoint endpoint →
      ∀ (kind : Inventory.Kind) (entry : Json.Decoder α) (filters : List (String × String)),
        (service.Indifferent n fun service _ network =>
          service.list network kind entry endpoint filters) ↔ n = 0 := by
    intro α endpoint hendpoint kind entry filters
    refine NetBox.indifferent_iff hbase hendpoint "NetBox API error: " (some filters) ?_ n
    intro service url h
    exact failsShowing_list h kind entry filters ()
  cases h with
  | checkHealth =>
    have hstatus : IsEndpoint "/api/status/" :=
      ⟨"api/status/", by decide, by decide⟩
    refine NetBox.indifferent_iff hbase hstatus "NetBox health check failed: " none ?_ n
    intro service url h
    exact failsShowing_checkHealth h ()
  | list kind entry endpoint filters hendpoint => exact hlist hendpoint kind entry filters
  | deviceBySerial serial =>
    exact bind_indifferent_iff hbase hdevices .device deviceDecoder [("serial", serial)] _ n
  | interfaceByName name device =>
    exact bind_indifferent_iff hbase hinterfaces .interface interfaceDecoder
      [("name", name), device.filter] _ n
  | interfaceByDescription description device =>
    exact bind_indifferent_iff hbase hinterfaces .interface interfaceDecoder
      [("description", description), device.filter] _ n
  | interfacesByDescription description device =>
    exact hlist hinterfaces .interface interfaceDecoder
      [("description", description), device.filter]
  | addressOf interface =>
    exact bind_indifferent_iff hbase haddresses .address assignmentDecoder
      [("interface_id", toString interface.toInt)] _ n
  | rolesAmong present => exact bind_indifferent_iff hbase hroles .role roleDecoder [] _ n

end NetBox

/-! ## Slashes at the end of bases -/

/-- **Slashes at the end of a base** make no difference to version control and to the database of
services: nothing is asked otherwise, and nothing is answered otherwise, whoever answers. The
inventory keeps all of them. At a base that can be used, each of its addresses has them before the
endpoint, and the check of the service, each list and each question is the same in all networks only
if there are none. -/
theorem trailing_slashes (gitLab : GitLabSettings) (database : ServiceDatabaseSettings)
    {service : NetBox} {url : Url} (hbase : Url.IsBase service.settings.baseUrl url) :
    (∀ (n : ℕ) (σ : Type) (network : Http.Network σ),
      (GitLab.connect (gitLab.withBase (gitLab.baseUrl ++ Url.slashes n))).map
          (·.control network) =
        (GitLab.connect (gitLab.withBase (Url.trimSlashes gitLab.baseUrl))).map
          (·.control network)) ∧
    (∀ (n : ℕ) (σ : Type) (network : Http.Network σ),
      (ServiceDatabase.mk (database.withBase (database.baseUrl ++ Url.slashes n))).source
          network =
        (ServiceDatabase.mk (database.withBase (Url.trimSlashes database.baseUrl))).source
          network) ∧
    (∃ start front : String, ∀ (n : ℕ) (endpoint : String), NetBox.IsEndpoint endpoint →
      ∃ address : Url, Url.read? ((service.slashed n).addressOf endpoint) = some address ∧
        address.text = start ++ (Url.slashes n ++ endpoint) ∧
        (url.fragment = none → address.target = front ++ (Url.slashes n ++ endpoint))) ∧
    ∀ {α : Type} {operation : NetBox.Operation α}, NetBox.Offered operation →
      ∀ n : ℕ, service.Indifferent n operation ↔ n = 0 := by
  have htrim : ∀ (base : String) (n : ℕ),
      Url.trimSlashes (base ++ Url.slashes n) = Url.trimSlashes (Url.trimSlashes base) := by
    intro base n
    rw [Url.trimSlashes_append_slashes, Url.trimSlashes_trimSlashes]
  refine ⟨?_, ?_, ?_, fun hoffered n => hoffered.indifferent_iff hbase n⟩
  · intro n σ network
    refine GitLab.map_control_connect_congr ?_ ?_ ?_ network
    · exact htrim gitLab.baseUrl n
    · rfl
    · rfl
  · intro n σ network
    refine ServiceDatabase.source_congr ?_ network
    exact htrim database.baseUrl n
  · obtain ⟨path, hpath⟩ := NetBox.exists_read?_slashed hbase
    refine ⟨(url.withPath path).text, (url.withPath path).target, ?_⟩
    intro n endpoint hendpoint
    refine ⟨_, hpath n endpoint hendpoint, Url.text_extend _ _, fun hfragment => ?_⟩
    refine Url.target_extend ?_ _
    exact hfragment

/-- A service on the computer itself. -/
def loopbackService : NetBox :=
  ⟨⟨"http://[::1]", "token", 30, true⟩⟩

/-- A base at which a slash at the end matters to the inventory only. -/
theorem trailing_slashes_loopback :
    Url.IsBase loopbackService.settings.baseUrl Url.loopback ∧
      (ServiceDatabase.mk ⟨"http://[::1]//", 30⟩).source Http.Script.network =
        (ServiceDatabase.mk ⟨"http://[::1]", 30⟩).source Http.Script.network ∧
      ¬loopbackService.Indifferent 1 (fun service _ network => service.checkHealth network) ∧
      ∃ start : String, ∃ address : Url,
        Url.read? ((loopbackService.slashed 1).addressOf "/api/status/") = some address ∧
          address.text = start ++ (Url.slashes 1 ++ "/api/status/") := by
  have hbase : Url.IsBase loopbackService.settings.baseUrl Url.loopback := Url.isBase_loopback
  have hstatus : NetBox.IsEndpoint "/api/status/" :=
    ⟨"api/status/", by decide, by decide⟩
  obtain ⟨-, hdatabase, ⟨start, front, hread⟩, hindifferent⟩ :=
    trailing_slashes ⟨"http://[::1]", "token", "7", "sites.json", "vpns.json", 30⟩
      ⟨"http://[::1]", 30⟩ hbase
  obtain ⟨address, haddress, htext, -⟩ := hread 1 "/api/status/" hstatus
  have htrim : Url.trimSlashes "http://[::1]" = "http://[::1]" := by decide
  have hslashes : "http://[::1]" ++ Url.slashes 2 = "http://[::1]//" := by decide
  refine ⟨hbase, ?_, ?_, start, address, haddress, htext⟩
  · have hsame := hdatabase 2 _ Http.Script.network
    simpa only [ServiceDatabaseSettings.withBase, htrim, hslashes] using hsame
  · rw [hindifferent .checkHealth 1]
    decide

/-- **The check of a service at a base with a slash at its end requests another address**, from a
server that answers both requests. -/
theorem doubled_slash_requested :
    let script : Http.Script := ⟨Url.loopback, true, [.reply ⟨200, []⟩], []⟩
    let checked (service : NetBox) : List String :=
      ((service.checkHealth Http.Script.network).perform script).2.requests.map (·.url.target)
    checked loopbackService = ["/api/status/"] ∧
      checked (loopbackService.slashed 1) = ["//api/status/"] := by
  decide +kernel

end NetworkIntent
