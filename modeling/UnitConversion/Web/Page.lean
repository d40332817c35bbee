import UnitConversion.Web.Endpoint
import UnitConversion.Web.Response

/-!
# Pages

The two answers that are HTML pages: the redirection to another path, and the refusal of a body that
is too long.
-/

namespace UnitConversion

namespace Page

/-- A character as HTML text. -/
def escapeChar : Char → String
  | '&' => "&amp;"
  | '<' => "&lt;"
  | '>' => "&gt;"
  | '\'' => "&#39;"
  | '"' => "&#34;"
  | c => c.toString

/-- A text as HTML. -/
def escape (s : String) : String := String.join (s.toList.map escapeChar)

/-- A page with a title for the window, a heading and a paragraph of HTML. -/
def html (title heading paragraph : String) : String :=
  "<!doctype html>\n<html lang=en>\n" ++
    s!"<title>{title}</title>\n<h1>{heading}</h1>\n<p>{paragraph}\n"

end Page

namespace Response

/-- The characters that stand unescaped in a path that a request is sent to. -/
def isPlainInPath (c : Char) : Bool :=
  Percent.isUnreserved c || "!$&'()*+,/:;=@".toList.contains c

/-- The location of a path on the host of a request, with its query as it came. -/
def locationOf (r : Request) (path : List Char) : Location where
  scheme := r.scheme
  authority := r.host
  path := Text.ofChars (Percent.encode isPlainInPath path)
  query := Text.ofString r.query
  fragment := []

/-- Why a redirection cannot be written. -/
inductive RedirectionError where
  | lineBreak
  | location (e : LocationError)
deriving DecidableEq, Repr

def RedirectionError.message : RedirectionError → Text
  | .lineBreak => lineBreakMessage
  | .location e => e.message

/-- The redirection of a request to another path. -/
def redirection (r : Request) (path : List Char) : Except RedirectionError Response := do
  let location := (locationOf r path).text
  if hasLineBreak location then throw .lineBreak
  let written ← (Location.ascii location).mapError .location
  let shown := Page.escape (String.ofList location.replacing)
  let paragraph := "You should be redirected automatically to the target URL: " ++
    s!"<a href=\"{shown}\">{shown}</a>. If not, click the link."
  let page := page 308 (Page.html "Redirecting..." "Redirecting..." paragraph)
  return page.addHeader "Location" written

/-- The refusal of a body that is too long. -/
def bodyTooLong : Response :=
  page 413 (Page.html "413 Request Entity Too Large" "Request Entity Too Large"
    "The data value transmitted exceeds the capacity limit.</p>")

end Response

end UnitConversion
