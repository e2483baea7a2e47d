import PageCrawl.Url.Host

/-!
# Addresses

An address with its parts, each in the form in which it is sent: escaped, with names in lower case
and the port left out where it is the usual one. `Url.text` puts the parts together.
-/

namespace PageCrawl

/-- The path of an address. -/
inductive UrlPath
  /-- Segments, each behind a slash. -/
  | segments (list : List String)
  /-- A text that has no segments. -/
  | plain (text : String)
deriving Repr, DecidableEq, Inhabited

/-- An address. -/
structure Url where
  scheme : String
  username : String := ""
  password : String := ""
  /-- The host, if the address names one; it may be empty. -/
  host : Option Host := none
  /-- The port, unless it is the usual one. -/
  port : Option Nat := none
  path : UrlPath := .segments []
  query : Option String := none
  fragment : Option String := none
deriving Repr, DecidableEq, Inhabited

namespace UrlPath

/-- A path as it stands in an address. -/
def text : UrlPath → String
  | .segments list => String.join (list.map ("/" ++ ·))
  | .plain s => s

end UrlPath

namespace Url

/-- The schemes whose hosts are looked up, with their usual ports. -/
def usualPorts : List (String × Option Nat) :=
  [("http", some 80), ("https", some 443), ("ws", some 80), ("wss", some 443), ("ftp", some 21),
   ("file", none)]

/-- Whether addresses of a scheme always have a host and a path of segments. -/
def isSpecial (scheme : String) : Bool := (usualPorts.lookup scheme).isSome

/-- The usual port of a scheme. -/
def usualPort? (scheme : String) : Option Nat := (usualPorts.lookup scheme).join

/-- Name and password as they stand before the host. -/
def credentials (u : Url) : String :=
  if u.username.isEmpty && u.password.isEmpty then ""
  else if u.password.isEmpty then u.username ++ "@"
  else u.username ++ ":" ++ u.password ++ "@"

/-- Host and port, with what stands before them. A path that begins with two slashes is kept apart
from the scheme by a segment that says nothing. -/
def authority (u : Url) : String :=
  match u.host with
  | some h =>
    "//" ++ u.credentials ++ h.written ++ ((u.port.map fun p => ":" ++ p.repr).getD "")
  | none =>
    match u.path with
    | .segments ("" :: _ :: _) => "/."
    | _ => ""

/-- An address as text. -/
def text (u : Url) : String :=
  u.scheme ++ ":" ++ u.authority ++ u.path.text
    ++ ((u.query.map ("?" ++ ·)).getD "") ++ ((u.fragment.map ("#" ++ ·)).getD "")

/-- The address without name and password. -/
def withoutCredentials (u : Url) : Url := { u with username := "", password := "" }

/-- Whether pages are fetched by this scheme. -/
def isHttp (u : Url) : Bool := u.scheme == "http" || u.scheme == "https"

end Url

end PageCrawl
