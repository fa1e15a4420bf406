import NetworkIntent.Http.Message
import NetworkIntent.Proofs.Query

/-!
# Requests

A request to an address goes to the address without the name and the password of a user, which are
sent in a header, and with pairs added to its query. Nothing else is made of what it is made from:
its method, its other headers and its body are those that are asked for.

## Main definitions

* `Url.asked`: where a request to an address goes.
* `Url.GoesTo`: what a host sees of where a request goes.
* `Http.Sendable`: requests can be sent to an address.

## Main results

* `Url.goesTo_asked`: a request goes to its address, with the pairs after those of the address.
* `Http.request_eq`, `Http.request_eq_ok_iff`: the request that is made.
* `Http.mem_headersTo_iff`, `Http.mem_headersTo_authorization_iff`: the headers that are sent.
-/

set_option autoImplicit false

namespace NetworkIntent

/-- Where a request to an address goes: to the address without its credentials, with pairs added to
its query. -/
def Url.asked (pairs : Option (List (String × String))) (url : Url) : Url :=
  match pairs with
  | none => url.withoutCredentials
  | some pairs => url.withoutCredentials.addQuery pairs

/-- What a host sees of where a request goes: it is the scheme, the host with its port and the path
of an address, and the pairs of its query are those of the address and then some others. -/
structure Url.GoesTo (asked url : Url) (pairs : List (String × String)) : Prop where
  scheme : asked.scheme = url.scheme
  host : asked.authority.map (fun authority => (authority.host, authority.port)) =
    url.authority.map fun authority => (authority.host, authority.port)
  path : asked.path = url.path
  query : Percent.readQuery (asked.query.getD "") = Percent.readQuery (url.query.getD "") ++ pairs

/-- The credentials are no part of where a request goes. -/
theorem Url.goesTo_withoutCredentials (url : Url) : url.withoutCredentials.GoesTo url [] := by
  have hquery : ∀ query : String, Percent.readQuery query = Percent.readQuery query ++ [] :=
    fun query => (List.append_nil _).symm
  unfold withoutCredentials
  split
  · exact ⟨rfl, rfl, rfl, hquery _⟩
  · next authority hauthority =>
    split
    · exact ⟨rfl, by rw [hauthority]; rfl, rfl, hquery _⟩
    · exact ⟨rfl, rfl, rfl, hquery _⟩

/-- **A request goes to its address**, and its pairs come after those of the address. -/
theorem Url.goesTo_asked (pairs : Option (List (String × String))) (url : Url) :
    (url.asked pairs).GoesTo url (pairs.getD []) := by
  have hplain := url.goesTo_withoutCredentials
  cases pairs with
  | none => exact hplain
  | some pairs =>
    refine ⟨hplain.scheme, hplain.host, hplain.path, ?_⟩
    rw [Url.asked, readQuery_addQuery, hplain.query, List.append_nil]
    rfl

namespace Http

variable {method : Method} {address : String} {pairs : Option (List (String × String))}
  {headers : List (String × String)} {body : Option String}

/-- What becomes of what a request is made from. -/
theorem request_eq (method : Method) (address : String) (pairs : Option (List (String × String)))
    (headers : List (String × String)) (body : Option String) :
    request method address pairs headers body =
      match Url.read? address with
      | none => .error .noAddress
      | some url =>
        if url.host?.isNone then .error (.noHost url.text)
        else if (url.asked pairs).isWeb then
          .ok ⟨method, url.asked pairs, headersTo url headers, body⟩
        else .error (.noHost (url.asked pairs).text) := by
  unfold request
  cases pairs <;> rfl

/-- **A request is made exactly if its address is one of the web**, and then it has the method and
the body that are asked for. -/
theorem request_eq_ok_iff {sent : Request} :
    request method address pairs headers body = .ok sent ↔
      ∃ url, Url.read? address = some url ∧ url.host?.isSome = true ∧
        (url.asked pairs).isWeb = true ∧
        sent = ⟨method, url.asked pairs, headersTo url headers, body⟩ := by
  rw [request_eq]
  cases hread : Url.read? address with
  | none => simp
  | some url =>
    simp only [Option.some.injEq, exists_eq_left', Option.isNone_iff_eq_none,
      Option.isSome_iff_ne_none]
    by_cases hhost : url.host? = none
    · simp [hhost]
    · rw [if_neg hhost]
      by_cases hweb : (url.asked pairs).isWeb = true
      · simp [hhost, hweb, eq_comm]
      · simp [hweb]

/-- Requests with the pairs can be sent to an address. -/
def Sendable (address : String) (pairs : Option (List (String × String))) : Prop :=
  ∃ url, Url.read? address = some url ∧ url.host?.isSome = true ∧ (url.asked pairs).isWeb = true

instance : Decidable (Sendable address pairs) :=
  decidable_of_iff
    ((Url.read? address).any fun url => url.host?.isSome && (url.asked pairs).isWeb) (by
      simp [Sendable, Option.any_eq_true])

/-- A request is made to an address to which requests can be sent. -/
theorem Sendable.exists_request (h : Sendable address pairs) :
    ∃ sent, request method address pairs headers body = .ok sent := by
  obtain ⟨url, hread, hhost, hweb⟩ := h
  exact ⟨_, request_eq_ok_iff.mpr ⟨url, hread, hhost, hweb, rfl⟩⟩

/-- **Headers that do not authorize are sent to every address.** -/
theorem mem_headersTo_iff {name value : String} (url : Url) (hname : name ≠ "authorization") :
    (name, value) ∈ headersTo url headers ↔ (name, value) ∈ headers := by
  unfold headersTo
  cases url.authority with
  | none => rfl
  | some authority =>
    dsimp only
    split
    · simp [hname]
    · rfl

/-- **Credentials in an address authorize**, and no other header does. -/
theorem mem_headersTo_authorization_iff {value : String} {url : Url} {authority : Authority}
    (hauthority : url.authority = some authority)
    (hreadable : authority.credentials.areReadable = true) :
    ("authorization", value) ∈ headersTo url headers ↔
      value = basicAuthorization authority.credentials := by
  rw [headersTo, hauthority]
  dsimp only
  rw [if_pos hreadable]
  simp

example : basicAuthorization ⟨"us%20er", "pass"⟩ = "Basic dXMgZXI6cGFzcw==" := by
  decide +kernel

end Http

end NetworkIntent
