import UnitConversion.Text.Broken
import UnitConversion.Text.Digits
import UnitConversion.Web.Address
import UnitConversion.Web.Host
import UnitConversion.Web.Percent

/-!
# Locations

A location has a scheme, an authority, a path, a query and a fragment. The authority names a host, and
may name a user and a port.

* `Location.ofText`: the parts of a text. Only brackets and look-alike characters in the authority are
  refused.
* `Location.text`: the text of parts.
* `Location.ascii`: the location with all parts in ASCII.
-/

namespace UnitConversion

/-- Why a text is no location, or has no ASCII form. -/
inductive LocationError where
  | brackets
  | futureAddress
  | noAddress (text : Text)
  | bracketedVersionFour
  | ambiguous (authority : Text)
  | port (text : Text)
  | portOutOfRange
  | host (e : HostError)
  | broken (e : BrokenText)
deriving DecidableEq, Repr

def LocationError.message : LocationError → Text
  | .brackets => "Invalid IPv6 URL"
  | .futureAddress => "IPvFuture address is invalid"
  | .noAddress text =>
    Text.ofChars (Text.literal text) ++ " does not appear to be an IPv4 or IPv6 address"
  | .bracketedVersionFour => "An IPv4 address cannot be in brackets"
  | .ambiguous authority =>
    "netloc '" ++ authority ++ "' contains invalid characters under NFKC normalization"
  | .port text =>
    "Port could not be cast to integer value as " ++ Text.ofChars (Text.literal text)
  | .portOutOfRange => "Port out of range 0-65535"
  | .host e => e.message
  | .broken e => e.message

/-! ## Cutting texts -/

namespace Text

/-- The parts of a text before and behind the first occurrence of a character. -/
def cutFirst (c : Char) (t : Text) : Option (Text × Text) :=
  match t.dropWhile (· != .char c) with
  | [] => none
  | _ :: rest => some (t.takeWhile (· != .char c), rest)

/-- The parts of a text before and behind the last occurrence of a character. -/
def cutLast (c : Char) (t : Text) : Option (Text × Text) :=
  (cutFirst c t.reverse).map fun (after, before) => (before.reverse, after.reverse)

end Text

/-! ## The authority -/

/-- The parts of an authority. -/
structure Authority where
  user : Text
  password : Text
  host : Text
  port : Text

namespace Authority

/-- The host and the port behind the user. A host in brackets may have colons. -/
def hostAndPort (t : Text) : Text × Text :=
  match Text.cutFirst '[' t with
  | some (_, bracketed) =>
    let (host, rest) := (Text.cutFirst ']' bracketed).getD (bracketed, [])
    (host, ((Text.cutFirst ':' rest).map (·.2)).getD [])
  | none => (Text.cutFirst ':' t).getD (t, [])

/-- The parts of an authority. -/
def ofText (t : Text) : Authority :=
  let (info, rest) := (Text.cutLast '@' t).getD ([], t)
  let (user, password) := (Text.cutFirst ':' info).getD (info, [])
  let (host, port) := hostAndPort rest
  { user, password, host, port }

/-- Characters that look like one of those that end an authority. -/
def lookAlikes : List Nat :=
  [0x2047, 0x2048, 0x2049, 0x2100, 0x2101, 0x2105, 0x2106, 0x2A74, 0xFE13, 0xFE16, 0xFE55, 0xFE56,
    0xFE5F, 0xFE6B, 0xFF03, 0xFF0F, 0xFF1A, 0xFF1F, 0xFF20]

/-- An address in brackets with a version of its own: a letter, digits, a point and anything. -/
def isFutureAddress (t : Text) : Bool :=
  match t with
  | .char 'v' :: rest =>
    let digits := rest.takeWhile fun p => (p.char?.bind Text.hexValue?).isSome
    match rest.drop digits.length with
    | .char '.' :: p :: more =>
      !digits.isEmpty && !((p :: more).contains (.char '\n'))
    | _ => false
  | _ => false

/-- Checks the address in brackets. -/
def checkAddress (t : Text) : Except LocationError Unit :=
  if t.head? = some (.char 'v') then
    if isFutureAddress t then .ok () else .error .futureAddress
  else if Address.isVersionFour t.replacing then .error .bracketedVersionFour
  else if Address.isVersionSix t.replacing then .ok ()
  else .error (.noAddress t)

/-- Checks the brackets and the characters of an authority. -/
def check (t : Text) : Except LocationError Unit := do
  match Text.cutFirst '[' t, t.contains (.char ']') with
  | none, false => pure ()
  | some (_, rest), true => checkAddress ((Text.cutFirst ']' rest).getD (rest, [])).1
  | _, _ => throw .brackets
  if t.any fun p => lookAlikes.contains p.code then throw (.ambiguous t)

/-- The text of the port, if there is one other than zero. -/
def portText? (a : Authority) : Except LocationError (Option String) :=
  if a.port.isEmpty then .ok none
  else match a.port.chars?.filter (·.all Char.isDigit) with
    | none => .error (.port a.port)
    | some digits =>
      let n := Nat.ofDigitChars 10 digits 0
      if 65535 < n then .error .portOutOfRange
      else .ok (if n = 0 then none else some (toString n))

/-- The name of the host in lower case. The zone of an address keeps its case. -/
def hostName (a : Authority) : Text :=
  match Text.cutFirst '%' a.host with
  | some (name, zone) => Text.lowerCase name ++ .char '%' :: zone
  | none => Text.lowerCase a.host

end Authority

/-! ## Locations -/

/-- The parts of a location. -/
structure Location where
  scheme : Text
  authority : Text
  path : Text
  query : Text
  fragment : Text

namespace Location

/-- The characters of schemes. -/
def isSchemeChar (p : CodePoint) : Bool :=
  p.char?.any fun c => c.isAlphanum || ['+', '-', '.'].contains c

/-- The scheme of a text in lower case, and what follows it. -/
def splitScheme (t : Text) : Text × Text :=
  match Text.cutFirst ':' t with
  | some (.char c :: scheme, rest) =>
    if c.isAlpha && scheme.all isSchemeChar then (Text.lowerCase (.char c :: scheme), rest)
    else ([], t)
  | _ => ([], t)

/-- The authority of a text behind two slashes, and what follows it. -/
def splitAuthority (t : Text) : Text × Text :=
  match t with
  | .char '/' :: .char '/' :: rest =>
    let ends (p : CodePoint) : Bool := p == .char '/' || p == .char '?' || p == .char '#'
    (rest.takeWhile (!ends ·), rest.dropWhile (!ends ·))
  | _ => ([], t)

/-- The parts of a text. Controls and spaces in front and all tabs and line ends are left out. -/
def ofText (t : Text) : Except LocationError Location := do
  let t := (t.dropWhile (·.code ≤ 0x20)).filter fun p => !([0x9, 0xA, 0xD].contains p.code)
  let (scheme, rest) := splitScheme t
  let (authority, rest) := splitAuthority rest
  Authority.check authority
  let (rest, fragment) := (Text.cutFirst '#' rest).getD (rest, [])
  let (path, query) := (Text.cutFirst '?' rest).getD (rest, [])
  return { scheme, authority, path, query, fragment }

/-- The schemes of locations that have an authority even if it is empty. -/
def networkSchemes : List Text :=
  ["ftp", "http", "gopher", "nntp", "telnet", "imap", "wais", "file", "mms", "https", "shttp",
    "snews", "prospero", "rtsp", "rtsps", "rtspu", "rsync", "svn", "svn+ssh", "sftp", "nfs", "git",
    "git+ssh", "ws", "wss"]

/-- A part behind its mark, or nothing if it is empty. -/
def marked (mark : Char) (part : Text) : Text := if part.isEmpty then [] else .char mark :: part

/-- The text of a location. -/
def text (l : Location) : Text :=
  let slashes : Text := "//"
  let hasAuthority := !l.authority.isEmpty || networkSchemes.contains l.scheme ||
    slashes.isPrefixOf l.path
  let path : Text :=
    if hasAuthority then
      slashes ++ l.authority ++
        if l.path.isEmpty || l.path.head? = some (.char '/') then l.path else .char '/' :: l.path
    else l.path
  (if l.scheme.isEmpty then [] else l.scheme ++ [.char ':']) ++ path ++ marked '?' l.query ++
    marked '#' l.fragment

/-! ## The ASCII form -/

/-- A part with all characters escaped but those that are plain in it. -/
def encodePart (plain : String) (t : Text) : Except LocationError Text := do
  let cs ← t.requireWhole.mapError .broken
  return .ofChars (Percent.encode (fun c => Percent.isUnreserved c || plain.toList.contains c) cs)

/-- The authority in ASCII. -/
def asciiAuthority (t : Text) : Except LocationError Text := do
  let a := Authority.ofText t
  let host ← (Host.ascii a.hostName).mapError .host
  let host := if host.contains ':' then '[' :: host ++ [']'] else host
  let port := match ← a.portText? with
    | some n => Text.ofString (":" ++ n)
    | none => []
  let user ← encodePart "%!$&'()*+,;=" a.user
  let password ← if a.user.isEmpty then pure [] else encodePart "%!$&'()*+,;=" a.password
  let info := if user.isEmpty then [] else user ++ marked ':' password ++ [.char '@']
  return info ++ Text.ofChars host ++ port

/-- The location that a text stands for, in ASCII. -/
def ascii (t : Text) : Except LocationError Text := do
  let l ← ofText t
  let path ← encodePart "%!$&'()*+,/:;=@" l.path
  let query ← encodePart "%!$&'()*+,/:;=?@" l.query
  let fragment ← encodePart "%!#$&'()*+,/:;=?@" l.fragment
  let authority ← asciiAuthority l.authority
  return text { scheme := l.scheme, authority, path, query, fragment }

end Location

end UnitConversion
