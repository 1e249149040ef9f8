import CloudScope.Dispatch.Action

/-!
# Requests fit for the wire

The method and the names of headers are tokens, and their values hold no control characters but the
tab. A request is examined in that order, header by header, and the first fault is reported.
-/

namespace CloudScope

/-- Whether a character may stand in a token. -/
def isTokenChar (c : Char) : Bool :=
  c.isAlphanum || "!#$%&'*+-.^_`|~".toList.contains c

def isToken (s : String) : Bool :=
  !s.isEmpty && s.toList.all isTokenChar

/-- Whether a text may be the value of a header. -/
def isHeaderValue (s : String) : Bool :=
  s.toList.all fun c => c == '\t' || (0x20 ≤ c.toNat && c != '\x7f')

/-- Why a request does not go over the wire. -/
inductive WireFault where
  | method (name : String)
  | headerName (name : String)
  | headerValue (name : String)
  /-- The address cannot be reached. -/
  | unreachable (url : String)
deriving DecidableEq, Repr

/-- The wording of a fault. A bad value is told with the name in lower case. -/
def WireFault.message : WireFault → String
  | .method name => "Invalid HTTP method: " ++ name
  | .headerName name => "Invalid header name: " ++ name
  | .headerValue name => "Invalid value for header " ++ foldName name
  | .unreachable url => "Failed to send request to " ++ url

def headerFault? (e : String × String) : Option WireFault :=
  if !isToken e.1 then some (.headerName e.1)
  else if !isHeaderValue e.2 then some (.headerValue e.1)
  else none

def Request.wireFault? (r : Request) : Option WireFault :=
  if !isToken r.method then some (.method r.method) else r.headers.toList.findSome? headerFault?

/-- Exchanges requests where there is no network: none gets an answer. -/
def unconnected {σ : Type} (r : Request) : Action σ Report Response :=
  let fault := r.wireFault?.getD (.unreachable r.url)
  throw ⟨fault.message, []⟩

end CloudScope
