import NetworkIntent.Http.Script
import NetworkIntent.Proofs.Action
import NetworkIntent.Proofs.Request
import NetworkIntent.Proofs.ServedEntries

/-!
# Walking through the pages of a list

The service decides how many pages a list has: each page may name the address of a next one, and
nothing keeps the pages from naming each other in a circle. What ends the walk is that replies run
out. So the walk is described here without any bound, page by page, as it is seen from outside: the
requests that are made, what becomes of them, and the entries gathered or the first fault. Whatever
the prepared replies of a server are, the entries of a list are found on such a walk.

## Main definitions

* `NetBox.Gets`: what becomes of one request for a page.
* `NetBox.Walks`: what becomes of a list from a request on.
* `Http.Network.Tires`: every success uses up some patience.
* `Http.Script.Took`: what a server got and used up.
* `NetBox.Traverses`: an action makes its result of all entries of a list.

## Main results

* `NetBox.Gets.eq_of_givesPage`: a page is what the document in the reply tells.
* `NetBox.exists_walks`: in a network that tires, all pages of a list are walked through.
* `NetBox.Walks.took`, `NetBox.Walks.length_le`: what a walk uses up.
* `NetBox.lists_traversed`: lists and questions for a single thing are answered by such walks.
-/

set_option autoImplicit false

namespace NetworkIntent

/-! ## Replies that run out -/

namespace Http

variable {σ : Type}

/-- Every success leaves less patience. So there are no more successes than there is patience. -/
def Network.Tires (network : Network σ) : Prop :=
  ∀ {request : Request} {s t : σ} {reply : Reply},
    (network.send request).perform s = (.ok reply, t) → reply.isSuccess = true →
      network.patience t < network.patience s

namespace Script

/-- From one state to another, a server got those of the requests that reach it, and gave one of its
prepared replies to each of them, as long as there were any. -/
structure Took (s : Script) (requests : List Request) (t : Script) : Prop where
  isReached_eq : t.isReached = s.isReached
  requests_eq : t.requests = s.requests ++ requests.filter s.isReached
  turns_eq : t.turns = s.turns.drop (requests.filter s.isReached).length

/-- Without requests a server stays as it is. -/
theorem Took.nil (s : Script) : s.Took [] s :=
  ⟨rfl, by simp, by simp⟩

/-- A server takes requests one after the other. -/
theorem Took.append {s t u : Script} {requests more : List Request} (h : s.Took requests t)
    (h' : t.Took more u) : s.Took (requests ++ more) u where
  isReached_eq := h'.isReached_eq.trans h.isReached_eq
  requests_eq := by
    rw [h'.requests_eq, h.requests_eq, h.isReached_eq, List.filter_append, List.append_assoc]
  turns_eq := by
    rw [h'.turns_eq, h.turns_eq, h.isReached_eq, List.drop_drop, List.filter_append,
      List.length_append]

/-- A server takes a request that it is sent. -/
theorem took_send (request : Request) (s : Script) : s.Took [request] (send request s).2 := by
  unfold send
  by_cases h : s.isReached request = true
  · have hfilter : [request].filter s.isReached = [request] := by simp [h]
    rw [if_pos h]
    dsimp only
    split
    · next hturns => exact ⟨rfl, by rw [hfilter], by simp [hturns]⟩
    · next hturns => exact ⟨rfl, by rw [hfilter], by simp [hturns, hfilter]⟩
    · next hturns => exact ⟨rfl, by rw [hfilter], by simp [hturns, hfilter]⟩
  · have hfilter : [request].filter s.isReached = [] := by simp [h]
    rw [if_neg h]
    exact ⟨rfl, by simp [hfilter], by simp [hfilter]⟩

/-- A success is a prepared reply. -/
theorem length_turns_of_success {request : Request} {s t : Script} {reply : Reply}
    (h : (network.send request).perform s = (.ok reply, t)) (hsuccess : reply.isSuccess = true) :
    t.turns.length + 1 = s.turns.length := by
  change send request s = _ at h
  unfold send at h
  split at h
  · dsimp only at h
    split at h
    · obtain ⟨hreply, -⟩ := Prod.mk.inj h
      obtain rfl := Except.ok.inj hreply
      exact absurd hsuccess (by decide)
    · next hturns =>
      obtain ⟨-, rfl⟩ := Prod.mk.inj h
      rw [hturns, List.length_cons]
    · cases (Prod.mk.inj h).1
  · cases (Prod.mk.inj h).1

/-- The replies of a server run out. -/
theorem tires_network : network.Tires := by
  intro request s t reply h hsuccess
  have hlength := length_turns_of_success h hsuccess
  show t.turns.length + 1 < s.turns.length + 1
  omega

end Script

end Http

namespace NetBox

open Json (Decoder)

variable {σ α β : Type}

/-! ## One page -/

/-- What becomes of a request for a page: the requests that are made, the page or a fault, and the
state after it. -/
inductive Gets (network : Http.Network σ) (kind : Inventory.Kind) (entry : Decoder α)
    (endpoint : String) : Except Http.Fault Http.Request → σ → List Http.Request →
      Except Inventory.Fault (Page α) → σ → Prop where
  /-- Without an address of the web no request is made. -/
  | unsent (fault : Http.Fault) (s : σ) :
    Gets network kind entry endpoint (.error fault) s []
      (.error (.unreachable s!"NetBox API error: {fault.message}")) s
  /-- Nobody replies. -/
  | unanswered {request : Http.Request} {s t : σ} {fault : Http.Fault}
    (hsend : (network.send request).perform s = (.error fault, t)) :
    Gets network kind entry endpoint (.ok request) s [request]
      (.error (.unreachable s!"NetBox API error: {fault.message}")) t
  /-- The reply tells no success. -/
  | refused {request : Http.Request} {s t : σ} {reply : Http.Reply}
    (hsend : (network.send request).perform s = (.ok reply, t))
    (hrefusal : reply.isSuccess = false) :
    Gets network kind entry endpoint (.ok request) s [request]
      (.error (.unreachable
        s!"NetBox API returned {Http.statusText reply.status} for {endpoint}: {reply.text}")) t
  /-- The reply is no page. -/
  | unreadable {request : Http.Request} {s t : σ} {reply : Http.Reply} {fault : Http.Fault}
    (hsend : (network.send request).perform s = (.ok reply, t)) (hsuccess : reply.isSuccess = true)
    (hread : reply.decode (pageDecoder entry) = .error fault) :
    Gets network kind entry endpoint (.ok request) s [request]
      (.error (.malformed kind fault.message)) t
  /-- The reply is a page. -/
  | page {request : Http.Request} {s t : σ} {reply : Http.Reply} {page : Page α}
    (hsend : (network.send request).perform s = (.ok reply, t)) (hsuccess : reply.isSuccess = true)
    (hread : reply.decode (pageDecoder entry) = .ok page) :
    Gets network kind entry endpoint (.ok request) s [request] (.ok page) t

variable {service : NetBox} {network : Http.Network σ} {kind : Inventory.Kind} {entry : Decoder α}
  {endpoint : String} {request : Except Http.Fault Http.Request} {s t : σ}
  {requests : List Http.Request}

/-- Something becomes of every request for a page. -/
theorem exists_gets (network : Http.Network σ) (kind : Inventory.Kind) (entry : Decoder α)
    (endpoint : String) (request : Except Http.Fault Http.Request) (s : σ) :
    ∃ requests outcome t, Gets network kind entry endpoint request s requests outcome t ∧
      (page network kind entry endpoint request).perform s = (outcome, t) := by
  have hask : ∀ (answer : Except Http.Fault Http.Reply) (t : σ),
      (network.ask request).perform s = (answer, t) → ∀ tell : Http.Fault → Inventory.Fault,
      ((network.ask request).mapFailure tell).perform s = (answer.mapError tell, t) := by
    intro answer t h tell
    rw [Action.perform_mapFailure, h]
  unfold page
  cases request with
  | error fault =>
    refine ⟨[], _, s, .unsent fault s, ?_⟩
    rw [Action.perform_bind_error (hask (.error fault) s rfl _)]
  | ok request =>
    rcases hsend : (network.send request).perform s with ⟨fault | reply, t⟩
    · refine ⟨[request], _, t, .unanswered hsend, ?_⟩
      rw [Action.perform_bind_error (hask (.error fault) t hsend _)]
    · have hreply := hask (.ok reply) t hsend
      cases hsuccess : reply.isSuccess with
      | false =>
        refine ⟨[request], _, t, .refused hsend hsuccess, ?_⟩
        rw [Action.perform_bind_ok (hreply _), hsuccess]
        rfl
      | true =>
        cases hread : reply.decode (pageDecoder entry) with
        | error fault =>
          refine ⟨[request], _, t, .unreadable hsend hsuccess hread, ?_⟩
          rw [Action.perform_bind_ok (hreply _), hsuccess, hread]
          rfl
        | ok page =>
          refine ⟨[request], _, t, .page hsend hsuccess hread, ?_⟩
          rw [Action.perform_bind_ok (hreply _), hsuccess, hread]
          rfl

/-- **A page is what the document in the reply tells**: the address of the next page is the one that
it gives under `next`, where it may give none, and the entries are those that it gives under
`results`, in their order. -/
theorem Gets.eq_of_givesPage {Shows : Json → α → Prop} {levels : Nat} {sent : Http.Request}
    {reply : Http.Reply} {page : Page α} {u : σ} {outcome : Except Inventory.Fault (Page α)}
    (h : Gets network kind entry endpoint (.ok sent) s requests outcome t)
    (hsend : (network.send sent).perform s = (.ok reply, u)) (hgives : GivesPage Shows reply page)
    (hentry : entry.Scans levels Shows) (hlevels : levels + 2 ≤ Json.maxDepth) :
    requests = [sent] ∧ outcome = .ok page ∧ t = u := by
  have hdecode : reply.decode (pageDecoder entry) = .ok page := hgives.decode_eq hentry hlevels
  -- the service answers a request in one way only, so the reply is the one that was read
  cases h with
  | unanswered hfailed => cases hsend.symm.trans hfailed
  | refused hother hrefusal =>
    cases hsend.symm.trans hother
    exact absurd hgives.1 (by simp [hrefusal])
  | unreadable hother _ hread =>
    cases hsend.symm.trans hother
    cases hdecode.symm.trans hread
  | page hother _ hread =>
    cases hsend.symm.trans hother
    cases hdecode.symm.trans hread
    exact ⟨rfl, rfl, rfl⟩

/-- A page uses up some patience. -/
theorem Gets.patience_lt (hnetwork : network.Tires) {page : Page α}
    (h : Gets network kind entry endpoint request s requests (.ok page) t) :
    network.patience t < network.patience s := by
  cases h with
  | page hsend hsuccess _ => exact hnetwork hsend hsuccess

/-! ## All pages -/

/-- What becomes of a list from the request for its first page on: the requests that are made, the
entries of each page or the first fault, and the state in the end. The address that a page names is
asked for next, and the walk ends with a page that names none. -/
inductive Walks (service : NetBox) (network : Http.Network σ) (kind : Inventory.Kind)
    (entry : Decoder α) (endpoint : String) : Except Http.Fault Http.Request → σ →
      List Http.Request → Except Inventory.Fault (List (List α)) → σ → Prop where
  | fault {request : Except Http.Fault Http.Request} {s t : σ} {requests : List Http.Request}
    {fault : Inventory.Fault}
    (hget : Gets network kind entry endpoint request s requests (.error fault) t) :
    Walks service network kind entry endpoint request s requests (.error fault) t
  | last {request : Except Http.Fault Http.Request} {s t : σ} {requests : List Http.Request}
    {items : List α}
    (hget : Gets network kind entry endpoint request s requests (.ok ⟨none, items⟩) t) :
    Walks service network kind entry endpoint request s requests (.ok [items]) t
  | next {request : Except Http.Fault Http.Request} {s t u : σ} {requests more : List Http.Request}
    {address : String} {items : List α} {outcome : Except Inventory.Fault (List (List α))}
    (hget : Gets network kind entry endpoint request s requests (.ok ⟨some address, items⟩) t)
    (hrest : Walks service network kind entry endpoint (service.request address none) t more
      outcome u) :
    Walks service network kind entry endpoint request s (requests ++ more)
      (outcome.map (items :: ·)) u

/-- **All pages of a list are walked through** in a network that tires, if as many pages are
followed as there is patience.

**Proof sketch.** Induction on the number of pages to be followed. A page leaves less patience, so
that there is enough of it for the rest of the walk. Without patience there is no success, hence no
page, and the walk ends with a fault. -/
theorem exists_walks (service : NetBox) (kind : Inventory.Kind) (entry : Decoder α)
    (endpoint : String) (hnetwork : network.Tires) {more : Nat}
    (request : Except Http.Fault Http.Request) {s : σ} (hmore : network.patience s ≤ more) :
    ∃ requests outcome last,
      service.Walks network kind entry endpoint request s requests outcome last ∧
      (service.pagesFrom network kind entry endpoint more request).perform s =
        (outcome.map List.flatten, last) := by
  induction more generalizing request s with
  | zero =>
    obtain ⟨requests, outcome, t, hget, hperform⟩ :=
      exists_gets network kind entry endpoint request s
    cases outcome with
    | error fault =>
      refine ⟨requests, .error fault, t, .fault hget, ?_⟩
      rw [pagesFrom, map_eq_pure_bind, Action.perform_bind_error hperform]
      rfl
    | ok page =>
      have hless := hget.patience_lt hnetwork
      omega
  | succ more ih =>
    obtain ⟨requests, outcome, t, hget, hperform⟩ :=
      exists_gets network kind entry endpoint request s
    cases outcome with
    | error fault =>
      refine ⟨requests, .error fault, t, .fault hget, ?_⟩
      rw [pagesFrom, Action.perform_bind_error hperform]
      rfl
    | ok page =>
      obtain ⟨next, items⟩ := page
      cases next with
      | none =>
        refine ⟨requests, .ok [items], t, .last hget, ?_⟩
        rw [pagesFrom, Action.perform_bind_ok hperform]
        simp [Except.map]
      | some address =>
        have hless := hget.patience_lt hnetwork
        obtain ⟨others, outcome, last, hwalk, hrest⟩ :=
          ih (service.request address none) (s := t) (by omega)
        refine ⟨requests ++ others, outcome.map (items :: ·), last, .next hget hwalk, ?_⟩
        rw [pagesFrom, Action.perform_bind_ok hperform]
        dsimp only
        rw [Action.perform_bind, hrest]
        cases outcome with
        | error fault => rfl
        | ok pages => simp [Except.map]

/-! ## Walks with a server -/

section Server

variable {request : Except Http.Fault Http.Request} {script last : Http.Script}

/-- A server takes the request for a page. -/
theorem Gets.took {outcome : Except Inventory.Fault (Page α)}
    (h : Gets Http.Script.network kind entry endpoint request script requests outcome last) :
    script.Took requests last := by
  have hsent : ∀ {sent : Http.Request} {answer : Except Http.Fault Http.Reply}
      {t : Http.Script}, (Http.Script.network.send sent).perform script = (answer, t) →
      script.Took [sent] t := by
    intro sent answer t hsend
    have htook := Http.Script.took_send sent script
    rwa [show Http.Script.send sent script = (answer, t) from hsend] at htook
  cases h with
  | unsent fault => exact .nil script
  | unanswered hsend => exact hsent hsend
  | refused hsend => exact hsent hsend
  | unreadable hsend => exact hsent hsend
  | page hsend => exact hsent hsend

/-- For a page there is one request at most. -/
theorem Gets.length_le {outcome : Except Inventory.Fault (Page α)}
    (h : Gets network kind entry endpoint request s requests outcome t) :
    requests.length ≤ 1 := by
  cases h <;> simp

/-- A page is a prepared reply. -/
theorem Gets.length_turns {page : Page α}
    (h : Gets Http.Script.network kind entry endpoint request script requests (.ok page) last) :
    last.turns.length + 1 = script.turns.length := by
  cases h with
  | page hsend hsuccess _ => exact Http.Script.length_turns_of_success hsend hsuccess

/-- A server takes the requests of a walk, one after the other. -/
theorem Walks.took {outcome : Except Inventory.Fault (List (List α))}
    (h : service.Walks Http.Script.network kind entry endpoint request script requests outcome
      last) :
    script.Took requests last := by
  induction h with
  | fault hget => exact hget.took
  | last hget => exact hget.took
  | next hget _ ih => exact hget.took.append ih

/-- There is no more than one request for each prepared reply, and one when none is left. -/
theorem Walks.length_le {outcome : Except Inventory.Fault (List (List α))}
    (h : service.Walks Http.Script.network kind entry endpoint request script requests outcome
      last) :
    requests.length ≤ script.turns.length + 1 := by
  induction h with
  | fault hget => exact Nat.le_trans hget.length_le (by omega)
  | last hget => exact Nat.le_trans hget.length_le (by omega)
  | next hget _ ih =>
    have hone := hget.length_le
    have hturns := hget.length_turns
    rw [List.length_append]
    omega

/-- Performed with a server, an action walks through the pages of a list, from the request with the
filters on, and makes its result of the entries of all pages, in their order. -/
def Traverses (service : NetBox) (script : Http.Script) (kind : Inventory.Kind) (entry : Decoder α)
    (endpoint : String) (filters : List (String × String))
    (finish : List α → Except Inventory.Fault β)
    (action : Action Http.Script Inventory.Fault β) : Prop :=
  ∃ requests outcome last,
    service.Walks Http.Script.network kind entry endpoint
      (service.request (service.addressOf endpoint) (some filters)) script requests outcome last ∧
    action.perform script = (outcome.bind fun pages => finish pages.flatten, last) ∧
    script.Took requests last ∧ requests.length ≤ script.turns.length + 1

/-- The entries of a list are those of all its pages. -/
theorem traverses_list (service : NetBox) (script : Http.Script) (kind : Inventory.Kind)
    (entry : Decoder α) (endpoint : String) (filters : List (String × String)) :
    service.Traverses script kind entry endpoint filters .ok
      (service.list Http.Script.network kind entry endpoint filters) := by
  obtain ⟨requests, outcome, last, hwalk, hperform⟩ := exists_walks service kind entry endpoint
    Http.Script.tires_network (service.request (service.addressOf endpoint) (some filters))
    (Nat.le_refl (Http.Script.network.patience script))
  refine ⟨requests, outcome, last, hwalk, ?_, hwalk.took, hwalk.length_le⟩
  rw [list, Action.perform_step, hperform]
  cases outcome <;> rfl

/-- What is made of the entries of a list is made of those of all its pages. -/
theorem Traverses.bind {γ : Type} {filters : List (String × String)}
    {finish : List α → Except Inventory.Fault β} {action : Action Http.Script Inventory.Fault β}
    (h : service.Traverses script kind entry endpoint filters finish action)
    (next : β → Except Inventory.Fault γ) :
    service.Traverses script kind entry endpoint filters (fun items => (finish items).bind next)
      (action >>= fun b => Action.ofExcept (next b)) := by
  obtain ⟨requests, outcome, last, hwalk, hperform, htook, hlength⟩ := h
  refine ⟨requests, outcome, last, hwalk, ?_, htook, hlength⟩
  rw [Action.perform_bind, hperform]
  cases outcome with
  | error fault => rfl
  | ok pages =>
    dsimp only [Except.bind]
    cases finish pages.flatten <;> rfl

/-- **Lists are read page by page, to the last page or the first fault.** Whatever replies a server
is prepared to give, a list is asked for with its filters, and then one page after the other, each
at just the address that the page before it names, without the credentials that it may have; an
address that is none of the web is not asked for. The result has the entries of all pages, in their
order, if all of them can be read, and else it is the first fault. So a single thing is single among
the entries of all pages. The server gives one reply to each request, as long as there are any, and
it gets no more than one request when none is left.

**Proof sketch.** A server has as many successes left as it has prepared replies, so it tires, and the
walk described by `Walks` is found (`exists_walks`). What the server got and used up on the way is
added up request by request. -/
theorem lists_traversed (service : NetBox) (script : Http.Script) :
    (∀ {α : Type} (kind : Inventory.Kind) (entry : Decoder α) (endpoint : String)
      (filters : List (String × String)),
      service.Traverses script kind entry endpoint filters .ok
        (service.list Http.Script.network kind entry endpoint filters)) ∧
    (∀ serial,
      service.Traverses script .device deviceDecoder "/api/dcim/devices/" [("serial", serial)]
        (Inventory.single .device (Inventory.serialQuery serial))
        ((service.inventory Http.Script.network).deviceBySerial serial)) ∧
    (∀ name device,
      service.Traverses script .interface interfaceDecoder "/api/dcim/interfaces/"
        [("name", name), device.filter]
        (Inventory.single .interface (Inventory.interfaceQuery ("name", name) device))
        ((service.inventory Http.Script.network).interfaceByName name device)) ∧
    (∀ description device,
      service.Traverses script .interface interfaceDecoder "/api/dcim/interfaces/"
        [("description", description), device.filter]
        (Inventory.single .interface
          (Inventory.interfaceQuery ("description", description) device))
        ((service.inventory Http.Script.network).interfaceByDescription description device)) ∧
    (∀ interface,
      service.Traverses script .address assignmentDecoder "/api/ipam/ip-addresses/"
        [("interface_id", toString interface.toInt)]
        (fun found => (Inventory.single .address (Inventory.addressQuery interface) found).map
          fun assignment =>
            ⟨assignment.id, assignment.interface.getD interface, assignment.address⟩)
        ((service.inventory Http.Script.network).addressOf interface)) ∧
    ∀ address pairs request, service.request address pairs = .ok request ↔
      ∃ url, Url.read? address = some url ∧ url.host?.isSome = true ∧
        (url.asked pairs).isWeb = true ∧
        request = ⟨.get, url.asked pairs, Http.headersTo url service.headers, none⟩ := by
  refine ⟨fun kind entry endpoint filters =>
      service.traverses_list script kind entry endpoint filters,
    fun serial => ?_, fun name device => ?_, fun description device => ?_, fun interface => ?_,
    fun address pairs request => Http.request_eq_ok_iff⟩
  · exact (service.traverses_list script .device deviceDecoder _ _).bind _
  · exact (service.traverses_list script .interface interfaceDecoder _ _).bind _
  · exact (service.traverses_list script .interface interfaceDecoder _ _).bind _
  · let told (assignment : Assignment) : AssignedAddress :=
      ⟨assignment.id, assignment.interface.getD interface, assignment.address⟩
    have htold : ∀ found : Except Inventory.Fault Assignment,
        (Action.ofExcept found >>= fun assignment => pure (told assignment) :
          Action Http.Script Inventory.Fault AssignedAddress) =
            Action.ofExcept (found.map told) := by
      intro found
      cases found <;> rfl
    have htraverses := (service.traverses_list script .address assignmentDecoder
      "/api/ipam/ip-addresses/" [("interface_id", toString interface.toInt)]).bind fun found =>
        (Inventory.single .address (Inventory.addressQuery interface) found).map told
    simp only [← htold] at htraverses
    exact htraverses

end Server

end NetBox

end NetworkIntent
