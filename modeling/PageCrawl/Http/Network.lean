import PageCrawl.Http.Status
import PageCrawl.Url.Basic

/-!
# Networks

What lies between a session and pages: the tables for names of hosts, the client that sends
requests, and the servers that answer them. None of these is part of this program. So all that
fetches pages takes a `Network` and asks nothing of it: what comes of a request is for the network
to say.

An exchange starts from the addresses that calls before it have asked for. No two calls of a run
have the same ones before them, so a network can answer each call in its own way, as servers do
whose pages change while several workers ask for them.

`Network.unreachable` is the network of a machine without a connection.
-/

namespace PageCrawl

/-- The addresses that were reached, latest first. -/
abbrev Hits := List String

namespace Http

/-- What a client makes of an answer. -/
structure Response where
  status : Nat
  /-- The text of the body, or why it cannot be read: the causes, the outermost first. -/
  text : Except (List String) String
deriving Repr, Inhabited

/-- What came of a request. -/
structure Exchange where
  /-- The response, or why there is none: the causes, the outermost first. -/
  result : Except (List String) Response
  /-- The addresses that were reached for it, latest first. -/
  hits : Hits
  /-- How long it took, in milliseconds. -/
  time : Nat
deriving Repr, Inhabited

end Http

/-- What a session is connected to. -/
structure Network where
  /-- How the names of hosts are written. -/
  naming : Naming
  /-- What comes of a request for an address in the time allowed, in milliseconds, after the
  addresses that were asked for before, latest first. -/
  send (allowed : Nat) (earlier : List String) (url : Url) : Http.Exchange

namespace Network

/-- What happens to a request if no connection can be made: it is not sent, for one of two
reasons. -/
def unreachable : Network where
  naming := Url.Domain.toAscii
  send _ _ url :=
    let address := url.withoutCredentials.text
    let causes :=
      if url.isHttp then
        ["error sending request for url (" ++ address ++ ")", "client error (Connect)",
         "tcp connect error", "Network is unreachable (os error 101)"]
      else ["builder error for url (" ++ address ++ ")", "URL scheme is not allowed"]
    ⟨.error causes, [], 0⟩

end Network

end PageCrawl
