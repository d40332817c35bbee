import UnitConversion.Proofs.Server.Availability
import UnitConversion.Proofs.Web.Redirection
import UnitConversion.Proofs.Web.Routing

/-!
# Requests that no endpoint serves

The server has something to say at five kinds of paths, and takes what is posted at one of them. Every
other request is told that its method or command is unknown, with three exceptions: a request for the
methods of a path is answered with them, in some order; a path that is known with its slashes merged is redirected;
and the body is left out where only the headers are wanted.

* `IsServed`: the requests that an endpoint serves.
* `respond_of_not_served`: the answers to all others.
* `unsupported_answered`: what is sent to them under the default settings.
-/

namespace UnitConversion

/-! ## Headers -/

namespace Response

/-- A header that is there stays. -/
theorem header?_addHeader {r : Response} {name : String} {value : Text}
    (h : r.header? name = some value) (other : String) (new : Text) :
    (r.addHeader other new).header? name = some value := by
  have hEntry : r.headers.lookup name = some value := h
  rw [header?, addHeader, Association.lookup_putNew, List.lookup_append, hEntry]
  rfl

theorem header?_addHeaders {r : Response} {name : String} {value : Text}
    (h : r.header? name = some value) (headers : List (String × Text)) :
    (r.addHeaders headers).header? name = some value := by
  unfold addHeaders
  induction headers generalizing r with
  | nil => exact h
  | cons header rest ih => exact ih (header?_addHeader h header.1 header.2)

end Response

/-! ## Requests by their path -/

open Endpoint

/-- An endpoint serves the method at the path: there is a page to get, or a conversion can be posted. -/
inductive IsServed : Method → List Char → Prop where
  | page {method : Method} {e : Endpoint} {path : List Char} (hPath : LiesAt true e path)
      (hPage : e ≠ .file) (hMethod : method = .get ∨ method = .head) : IsServed method path
  | posted {path : List Char} (hPath : LiesAt true .conversion path) : IsServed .post path

theorem not_isServed_of_ofPath? {method : Method} {path : List Char} (hNowhere : ofPath? true path = none) :
    ¬ IsServed method path := by
  have hNoPath (e : Endpoint) : ¬ LiesAt true e path := fun hPath => by
    rw [ofPath?_eq_some_iff.mpr hPath] at hNowhere
    cases hNowhere
  intro hServed
  cases hServed with
  | page hPath => exact hNoPath _ hPath
  | posted hPath => exact hNoPath _ hPath

/-- The request is for the methods of its path. -/
def Request.AsksMethods (r : Request) (e : Endpoint) : Prop :=
  r.method = .options ∧ LiesAt true e r.path

/-- The path of the request is known to its method with its slashes merged only. -/
def Request.IsMergeable (platform : Platform) (r : Request) : Prop :=
  ¬ Known true r.method r.path ∧ Known true r.method (betterPath platform r.path)

namespace Application

variable {app : Application} {r : Request}

theorem finish_header? {response : Response} {name : String} {value : Text}
    (h : response.header? name = some value) (r : Request) (freshId : Text) :
    (app.finish r freshId response).header? name = some value := by
  have hAdded := Response.header?_addHeader
    (Response.header?_addHeaders h app.profile.headers) "X-Request-ID" (requestId r freshId)
  unfold finish
  dsimp only
  split
  · exact hAdded
  · exact hAdded

theorem serve_of_options (hMethod : r.method = .options) (e : Endpoint) :
    app.serve e r = .ok ((Response.page 200 "").addHeader "Allow" (e.allowed app.platform)) := by
  simp only [serve, hMethod]

theorem serve_file (hMethod : r.method ≠ .options) : app.serve .file r = .ok unsupported := by
  unfold serve
  split <;> simp_all

theorem respond_of_liesAt {e : Endpoint} (hPath : LiesAt app.hasPlain e r.path)
    (hMethod : r.method ∈ e.methods) : app.respond r = app.serve e r := by
  rw [respond, (isRouter_route _ _).known hPath hMethod]

section Plain

variable (hPlain : app.hasPlain = true)

include hPlain

theorem respond_of_known {e : Endpoint} (hPath : LiesAt true e r.path) (hMethod : r.method ∈ e.methods) :
    app.respond r = app.serve e r := by
  rw [← hPlain] at hPath
  exact respond_of_liesAt hPath hMethod

/-- A known path that is not asked for its methods, and not served, is that of a file. There is none. -/
theorem respond_of_known_of_not_served (hUnserved : ¬ IsServed r.method r.path)
    (hMethods : ∀ e, ¬ r.AsksMethods e) (hKnown : Known true r.method r.path) :
    app.respond r = .ok unsupported := by
  obtain ⟨e, hPath, hMethod⟩ := hKnown
  have hNotOptions : r.method ≠ .options := fun hOptions => hMethods e ⟨hOptions, hPath⟩
  rw [respond_of_known hPlain hPath hMethod]
  by_cases hFile : e = .file
  · subst hFile
    exact serve_file hNotOptions
  · exfalso
    have hCases : (r.method = .get ∨ r.method = .head) ∨ (r.method = .post ∧ e = .conversion) := by
      cases e <;> simp_all [methods, or_assoc]
    rcases hCases with hGet | ⟨hPost, rfl⟩
    · exact hUnserved (.page hPath hFile hGet)
    · rw [hPost] at hUnserved
      exact hUnserved (.posted hPath)

theorem respond_of_mergeable (hMergeable : r.IsMergeable app.platform) :
    app.respond r = (Response.redirection r (betterPath app.platform r.path)).mapError .redirection := by
  rw [respond, hPlain, (isRouter_route _ _).mergeable hMergeable.1 hMergeable.2]

theorem respond_of_not_served (hUnserved : ¬ IsServed r.method r.path)
    (hMethods : ∀ e, ¬ r.AsksMethods e) (hMergeable : ¬ r.IsMergeable app.platform) :
    app.respond r = .ok unsupported := by
  by_cases hKnown : Known true r.method r.path
  · exact respond_of_known_of_not_served hPlain hUnserved hMethods hKnown
  · have hNotMerged : ¬ Known true r.method (betterPath app.platform r.path) := fun h => hMergeable ⟨hKnown, h⟩
    rw [respond, hPlain, (isRouter_route _ _).unknown hKnown hNotMerged]

/-- The methods of a path are told to who asks for them. -/
theorem handle_of_asksMethods {e : Endpoint} (hMethods : r.AsksMethods e) (freshId : Text) :
    ∃ sent, app.handle freshId r = .ok sent ∧ sent.status = 200 ∧
      (∃ names, names.Perm (e.methods.map (·.name)) ∧
        sent.header? "Allow" = some ((Text.ofString ", ").intercalate names)) ∧ sent.body = "" := by
  obtain ⟨hOptions, hPath⟩ := hMethods
  have hKnown : r.method ∈ e.methods := by
    rw [hOptions]
    exact e.options_mem_methods
  have hRespond := respond_of_known hPlain hPath hKnown
  rw [serve_of_options hOptions] at hRespond
  have hListed := app.platform.listing_perm (e.methods.map (·.name))
  refine ⟨_, handle_of_ok hRespond freshId, ?_, ⟨_, hListed, finish_header? rfl r freshId⟩, ?_⟩
  · rw [finish_status]
    rfl
  · rw [finish_text]
    exact ite_self ""

/-- On the local host a path is redirected if its merged form is known. -/
theorem handle_of_mergeable (hMergeable : r.IsMergeable app.platform) (hScheme : r.scheme = "http")
    (hHost : r.authority = Location.localHost) (hLine : hasLineBreak r.query = false)
    (freshId : Text) : ∃ sent, app.handle freshId r = .ok sent ∧ sent.status = 308 := by
  obtain ⟨e, hMerged, -⟩ := hMergeable.2
  obtain ⟨path, hBetter⟩ := exists_of_liesAt hMerged
  obtain ⟨response, hWritten, hStatus⟩ := Response.exists_redirection hScheme hHost hLine path
  have hRespond := respond_of_mergeable hPlain hMergeable
  rw [hBetter, hWritten] at hRespond
  refine ⟨_, handle_of_ok hRespond freshId, ?_⟩
  rw [finish_status]
  exact hStatus

theorem handle_of_not_served (hUnserved : ¬ IsServed r.method r.path)
    (hMethods : ∀ e, ¬ r.AsksMethods e) (hMergeable : ¬ r.IsMergeable app.platform) (freshId : Text) :
    ∃ sent, app.handle freshId r = .ok sent ∧ sent.status = 501 ∧
      sent.header? "Content-Type" = some "text/plain; charset=utf-8" ∧
      sent.body = if r.wantsHeadersOnly then "" else "Unknown method or command used!" := by
  have hRespond := respond_of_not_served hPlain hUnserved hMethods hMergeable
  refine ⟨_, handle_of_ok hRespond freshId, ?_, finish_header? rfl r freshId, finish_text r freshId _⟩
  rw [finish_status]
  rfl

end Plain

/-- **Requests that are not supported.** Under the default settings, a request that no endpoint serves is
answered with the methods of its path, in some order, if it asks for them, with a redirection if its path is
known when its slashes are merged, and with the text that its method or command is unknown in all other cases.
The redirection can always be written on the local host. -/
theorem unsupported_answered {platform : Platform} {env : Environment} {freshSecret profileName : Text}
    (hCreated : create platform env freshSecret defaultSettings profileName = .ok app)
    (hUnserved : ¬ IsServed r.method r.path) (freshId : Text) :
    (∀ e, r.AsksMethods e → ∃ sent, app.handle freshId r = .ok sent ∧ sent.status = 200 ∧
      (∃ names, names.Perm (e.methods.map (·.name)) ∧
        sent.header? "Allow" = some ((Text.ofString ", ").intercalate names)) ∧ sent.body = "") ∧
    (r.IsMergeable platform →
      app.respond r = (Response.redirection r (betterPath platform r.path)).mapError .redirection ∧
      (r.scheme = "http" → r.authority = Location.localHost → hasLineBreak r.query = false →
        ∃ sent, app.handle freshId r = .ok sent ∧ sent.status = 308)) ∧
    ((∀ e, ¬ r.AsksMethods e) → ¬ r.IsMergeable platform →
      ∃ sent, app.handle freshId r = .ok sent ∧ sent.status = 501 ∧
        sent.header? "Content-Type" = some "text/plain; charset=utf-8" ∧
        sent.body = if r.wantsHeadersOnly then "" else "Unknown method or command used!") := by
  obtain rfl := platform_of_create hCreated
  obtain ⟨hPlain, -⟩ := plain_of_defaultSettings hCreated
  refine ⟨fun e hMethods => handle_of_asksMethods hPlain hMethods freshId,
    fun hMergeable => ⟨respond_of_mergeable hPlain hMergeable, fun hScheme hHost hLine => ?_⟩,
    fun hMethods hMergeable => ?_⟩
  · exact handle_of_mergeable hPlain hMergeable hScheme hHost hLine freshId
  · exact handle_of_not_served hPlain hUnserved hMethods hMergeable freshId

end Application

namespace Standard

/-- A request with nothing but a method and a path. -/
def bareRequest (methodName : Text) (path : String) : Request :=
  { conversionRequest "" with methodName := methodName, rawPath := path.toList }

/-- To delete is not supported anywhere. -/
theorem unsupported_answered_delete :
    ∃ app, Application.create Standard.platform [] [] Application.defaultSettings [] = .ok app ∧
      ∃ sent, app.handle [] (bareRequest "DELETE" "/convert") = .ok sent ∧ sent.status = 501 ∧
        sent.body = "Unknown method or command used!" := by
  obtain ⟨app, hCreated⟩ := exists_application
  have hMethod : (bareRequest "DELETE" "/convert").method = .other "DELETE" := by rfl
  have hUnserved : ¬ IsServed (bareRequest "DELETE" "/convert").method
      (bareRequest "DELETE" "/convert").path := by
    rw [hMethod]
    intro hServed
    cases hServed with
    | page hPath hPage hMethods => simp at hMethods
  have hUnknown (path : List Char) : ¬ Known true (bareRequest "DELETE" "/convert").method path := by
    rw [hMethod]
    rintro ⟨e, -, hKnown⟩
    cases e <;> simp [methods] at hKnown
  obtain ⟨-, -, hAnswered⟩ := Application.unsupported_answered hCreated hUnserved []
  have hMethods : ∀ e, ¬ (bareRequest "DELETE" "/convert").AsksMethods e := by
    rintro e ⟨hOptions, -⟩
    rw [hMethod] at hOptions
    cases hOptions
  obtain ⟨sent, hSent, hStatus, -, hBody⟩ := hAnswered hMethods fun h => hUnknown _ h.2
  exact ⟨app, hCreated, sent, hSent, hStatus, hBody⟩

/-- The methods of a path are asked for with success, a path with two slashes in a row is redirected, and
no text is sent to who wants the headers only. -/
theorem unsupported_exceptions :
    ∃ app, Application.create Standard.platform [] [] Application.defaultSettings [] = .ok app ∧
      (¬ IsServed .options "/convert".toList ∧
        ∃ sent, app.handle [] (bareRequest "OPTIONS" "/convert") = .ok sent ∧ sent.status = 200) ∧
      (¬ IsServed .get "/api//unit_converter/groups".toList ∧
        ∃ sent, app.handle [] (bareRequest "GET" "/api//unit_converter/groups") = .ok sent ∧
          sent.status = 308) ∧
      ¬ IsServed .head "/nowhere".toList ∧
        ∃ sent, app.handle [] (bareRequest "HEAD" "/nowhere") = .ok sent ∧ sent.body = "" := by
  obtain ⟨app, hCreated⟩ := exists_application
  obtain ⟨hPlain, -⟩ := Application.plain_of_defaultSettings hCreated
  refine ⟨app, hCreated, ⟨?_, ?_⟩, ⟨not_isServed_of_ofPath? rfl, ?_⟩, not_isServed_of_ofPath? rfl, ?_⟩
  · intro hServed
    cases hServed with
    | page hPath hPage hMethods => simp at hMethods
  · have hMethods : (bareRequest "OPTIONS" "/convert").AsksMethods .plainConversion :=
      ⟨rfl, .plainConversion rfl⟩
    obtain ⟨sent, hSent, hStatus, -⟩ := Application.handle_of_asksMethods hPlain hMethods []
    exact ⟨sent, hSent, hStatus⟩
  · have hMerged : betterPath app.platform (bareRequest "GET" "/api//unit_converter/groups").path =
        "/api/unit_converter/groups".toList :=
      app.platform.mergeSlashes_eq "/api//unit_converter/groups".toList rfl
    have hMergeable : (bareRequest "GET" "/api//unit_converter/groups").IsMergeable app.platform := by
      refine ⟨find?_eq_none_iff.mp rfl, .groups, ?_, by decide⟩
      rw [hMerged]
      exact .groups
    exact Application.handle_of_mergeable hPlain hMergeable rfl rfl rfl []
  · have hUnserved : ¬ IsServed (bareRequest "HEAD" "/nowhere").method
        (bareRequest "HEAD" "/nowhere").path := not_isServed_of_ofPath? rfl
    have hMethods : ∀ e, ¬ (bareRequest "HEAD" "/nowhere").AsksMethods e := by
      rintro e ⟨hOptions, -⟩
      cases hOptions
    have hMerged : betterPath app.platform (bareRequest "HEAD" "/nowhere").path = "/nowhere".toList :=
      app.platform.mergeSlashes_eq "/nowhere".toList rfl
    have hMergeable : ¬ (bareRequest "HEAD" "/nowhere").IsMergeable app.platform := by
      rintro ⟨-, hKnown⟩
      rw [hMerged] at hKnown
      exact find?_eq_none_iff.mp rfl hKnown
    obtain ⟨sent, hSent, -, -, hBody⟩ :=
      Application.handle_of_not_served hPlain hUnserved hMethods hMergeable []
    exact ⟨sent, hSent, hBody⟩

end Standard

end UnitConversion
