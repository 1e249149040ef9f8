import CloudScope.Error
import CloudScope.Http.Message
import CloudScope.Text.Blank
import CloudScope.Text.Percent

/-!
# Scopes in headers

A scope travels in two channels. `X-Scope` holds its text and is read first. `X-Auth-Token` may hold
a token, a delimiter and the text of a scope, for hops that pass on no other header. Values are read
without the blanks around them and with their escapes resolved.
-/

namespace CloudScope

def scopeHeader : String := "X-Scope"

/-- The header that holds a token, and a scope behind it. -/
def tokenHeader : String := "X-Auth-Token"

/-- The header that holds the token a request is about. -/
def subjectTokenHeader : String := "X-Subject-Token"

/-- The header that names the cloud of the identity service. -/
def identityCloudHeader : String := "X-Identity-Cloud"

/-- The header that holds the address of the identity service. -/
def identityUrlHeader : String := "X-Identity-Url"

/-- What stands between a token and the scope behind it. -/
def delimiter : List Char := "!SCOPE!".toList

/-- The token and the scope text behind it, parted at the first delimiter. -/
def splitToken : List Char → List Char × Option (List Char)
  | [] => ([], none)
  | c :: rest =>
    match delimiter.isPrefixOf? (c :: rest) with
    | some scope => ([], some scope)
    | none => (c :: (splitToken rest).1, (splitToken rest).2)

/-- A token with a scope text behind it. -/
def joinToken (token : List Char) (s : Scope) : String :=
  String.ofList (token ++ delimiter) ++ s.text

/-- Reads the text of a scope found in a header. -/
def readScope (header : String) (text : List Char) : Except ScopeError Scope :=
  match Scope.ofText (String.ofList text) with
  | .ok s => .ok s
  | .error fault => .error (.malformedHeader header (.scope fault))

namespace Headers

def carried? (h : Headers) (name : String) : Except ScopeError (Option (List Char)) :=
  match h.get? name with
  | none => .ok none
  | some raw =>
    match Percent.decode (Text.trim raw.toList) with
    | .ok text => .ok (some text)
    | .error fault => .error (.malformedHeader name (.escape fault))

def scope? (h : Headers) : Except ScopeError (Option Scope) := do
  match ← h.carried? scopeHeader with
  | some text => return some (← readScope scopeHeader text)
  | none =>
    let some text ← h.carried? tokenHeader | return none
    match (splitToken text).2 with
    | some scope => return some (← readScope tokenHeader scope)
    | none => return none

/-- Puts the text of a scope under `X-Scope`. -/
def setScope (h : Headers) (s : Scope) : Headers :=
  h.insert scopeHeader s.text

/-- Puts a scope into both channels, in place of the scope behind the token. `X-Scope` is set
before the token is read, and stays set when that fails. -/
def writeScope (h : Headers) (s : Scope) : Except ScopeError Unit × Headers :=
  let marked := h.setScope s
  match marked.carried? tokenHeader with
  | .error e => (.error e, marked)
  | .ok none => (.ok (), marked)
  | .ok (some text) => (.ok (), marked.insert tokenHeader (joinToken (splitToken text).1 s))

/-- Takes the scope behind a token away, and says whether there was one. -/
def stripToken (h : Headers) (name : String) : Except ScopeError (Headers × Bool) := do
  let some text ← h.carried? name | return (h, false)
  match splitToken text with
  | (_, none) => return (h, false)
  | (token, some _) => return (h.insert name (String.ofList token), true)

end Headers

/-- Gives a service type a value in the scopes that a request carries, each channel for itself. -/
def Request.updateScope (r : Request) (serviceType value : String) :
    Except ScopeError Request := do
  let marked ← match ← r.headers.carried? scopeHeader with
    | none => pure r.headers
    | some text =>
      let scope ← readScope scopeHeader text
      pure (r.headers.setScope (scope.insert serviceType value))
  let headers ← match (← r.headers.carried? tokenHeader).map splitToken with
    | some (token, some text) =>
      let scope ← readScope tokenHeader text
      pure (marked.insert tokenHeader (joinToken token (scope.insert serviceType value)))
    | _ => pure marked
  return { r with headers }

end CloudScope
