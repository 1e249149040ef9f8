import CloudScope.Text.Percent
import CloudScope.Url.Address
import CloudScope.Url.HostName

/-!
# Absolute URLs

Decides which texts are absolute URLs by the rules of the URL standard, and names their scheme.
Blanks at the ends and line breaks inside do not count. What follows the authority is free.
-/

namespace CloudScope.Url

open Text

/-- The schemes that fix how the rest of a URL is read. -/
inductive SchemeClass where
  | file
  /-- A scheme whose URLs always have a host. -/
  | web
  | other
deriving DecidableEq, Repr

/-- The class of a scheme in lower case. -/
def schemeClass : String → SchemeClass
  | "file" => .file
  | "http" | "https" | "ws" | "wss" | "ftp" => .web
  | _ => .other

/-- The text without control characters and spaces at its ends, and without tabs and line breaks. -/
def clean (s : List Char) : List Char :=
  let isEdge (c : Char) : Bool := c.toNat ≤ 0x20
  let inner := ((s.dropWhile isEdge).reverse.dropWhile isEdge).reverse
  inner.filter fun c => c != '\t' && c != '\n' && c != '\r'

/-- Whether a character may stand in a scheme behind its first letter. -/
def isSchemeChar (c : Char) : Bool :=
  c.isAlphanum || c == '+' || c == '-' || c == '.'

/-- The scheme in lower case and what follows its colon. -/
def splitScheme? (s : List Char) : Option (String × List Char) :=
  match s with
  | c :: _ =>
    if c.isAlpha then
      match s.dropWhile isSchemeChar with
      | ':' :: rest => some (String.ofList ((s.takeWhile isSchemeChar).map Char.toLower), rest)
      | _ => none
    else none
  | [] => none

/-! ## Hosts -/

/-- Whether a text is a host of a web address or of a file. -/
def isHost (host : List Char) : Bool :=
  match bracketed? host with
  | some inner => inner.any isGroupAddress
  | none =>
    match Percent.decode host with
    | .error _ => false
    | .ok name =>
      match HostName.labels? name with
      | none | some [[]] => false
      | some labels => !endsInNumber labels || isNumericAddress labels

/-- Whether a text is a host of a scheme that fixes nothing. -/
def isOpaqueHost (host : List Char) : Bool :=
  match bracketed? host with
  | some inner => inner.any isGroupAddress
  | none => !host.any HostName.forbiddenInHost.contains

/-! ## Authorities -/

/-- Whether a character ends the authority of a URL. -/
def endsAuthority (backslash : Bool) (c : Char) : Bool :=
  c == '/' || c == '?' || c == '#' || (backslash && c == '\\')

/-- Takes the host off the front of what follows the user: it ends at a colon outside brackets. -/
def splitHost (inside : Bool) : List Char → List Char × List Char
  | [] => ([], [])
  | ':' :: rest =>
    if inside then
      let (host, more) := splitHost inside rest
      (':' :: host, more)
    else ([], ':' :: rest)
  | c :: rest =>
    let (host, more) := splitHost (if c = '[' then true else if c = ']' then false else inside) rest
    (c :: host, more)

/-- Whether a text is a decimal number below 65536, or empty. A backslash ends it. -/
def isShortNumber (s : List Char) : Bool :=
  let digits := s.takeWhile (· != '\\')
  digits.all Char.isDigit && valueOf 10 digits < 65536

/-- The user in front of a host, up to the last at sign, and what follows it. -/
def splitUser (authority : List Char) : Option (List Char) × List Char :=
  if authority.contains '@' then
    (some (authority.reverse.dropWhile (· != '@')).reverse.dropLast,
      (authority.reverse.takeWhile (· != '@')).reverse)
  else (none, authority)

/-- Whether what follows two slashes has a sound authority: a host, perhaps a user before it and a
number behind a colon after it. Outside the web the host may be empty if no number follows it and
no user stands before it; neither a bare at sign at the end of the URL nor one behind a bare colon
makes a user. -/
def isAuthority (web : Bool) (s : List Char) : Bool :=
  let authority := s.takeWhile fun c => !endsAuthority web c
  let (user, address) := splitUser authority
  let (host, suffix) := splitHost false address
  let soundHost := if web then isHost host else isOpaqueHost host
  let soundSuffix :=
    match suffix with
    | ':' :: digits => isShortNumber digits
    | _ => true
  let soundUser :=
    match user with
    | none | some [':'] => true
    | some user => user.isEmpty && authority.length == s.length
  if host.isEmpty then !web && suffix.isEmpty && soundUser else soundHost && soundSuffix

/-- Whether a text is a drive letter with its colon. -/
def isDrive (s : List Char) : Bool :=
  match s with
  | [c, ':'] | [c, '|'] => c.isAlpha
  | _ => false

/-- Whether what follows the scheme of a file is sound: two slashes bring a host, which may be
empty. -/
def isFileTail (s : List Char) : Bool :=
  match s with
  | a :: b :: rest =>
    if (a = '/' ∨ a = '\\') ∧ (b = '/' ∨ b = '\\') then
      let host := rest.takeWhile fun c => !endsAuthority true c
      host.isEmpty || isDrive host || isHost host
    else true
  | _ => true

/-- The scheme of an absolute URL, in lower case. -/
def scheme? (text : String) : Option String := do
  let (scheme, rest) ← splitScheme? (clean text.toList)
  let sound :=
    match schemeClass scheme with
    | .file => isFileTail rest
    | .web => isAuthority true (rest.dropWhile fun c => c == '/' || c == '\\')
    | .other =>
      match rest with
      | '/' :: '/' :: rest => isAuthority false rest
      | _ => true
  if sound then some scheme else none

/-- Whether a text is an absolute URL. -/
def isAbsolute (text : String) : Bool :=
  (scheme? text).isSome

end CloudScope.Url
