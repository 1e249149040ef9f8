import CloudScope.Catalog.Basic
import CloudScope.CommandLine.Arguments
import CloudScope.Expr.Basic
import CloudScope.Http.Message
import CloudScope.Scope.Text

/-!
# Output of the commands

Each result has a table for people and a JSON value for programs. The columns of a table are as wide
as their names say, or as wide as what stands in them.
-/

namespace CloudScope.CommandLine

/-- A text filled with spaces to a width in characters. -/
def padded (width : Nat) (s : String) : String :=
  s ++ String.ofList (List.replicate (width - s.length) ' ')

def rule (width : Nat) : String :=
  String.ofList (List.replicate width '-')

def textOfLines (lines : List String) : String :=
  String.join (lines.map (· ++ "\n"))

def textOfJson (j : Json) : String :=
  j.pretty ++ "\n"

/-- A line of the table of a catalog. -/
def serviceLine (serviceType cloud interface url : String) : String :=
  padded 14 serviceType ++ " " ++ padded 14 cloud ++ " " ++ padded 10 interface ++ " " ++ url

def catalogText (c : Catalog) : Format → String
  | .table =>
    if c.services.isEmpty then textOfLines ["Catalog is empty."]
    else
      textOfLines <| serviceLine "Service Type" "Cloud" "Interface" "URL" :: rule 70 ::
        c.services.map fun s => serviceLine s.serviceType s.cloud (s.interface.getD "-") s.url
  | .json =>
    textOfJson <| .array <| c.services.map fun s =>
      .ofFields [("service_type", .string s.serviceType), ("cloud", .string s.cloud),
        ("interface", (s.interface.map Json.string).getD .null), ("url", .string s.url)]

def scopeText (s : Scope) : Format → String
  | .table =>
    if s.isEmpty then
      textOfLines ["Shell scope is empty.",
        "Set OS_REGION_NAME, OS_SCOPE_<SERVICE> or pass --scope."]
    else
      textOfLines <| (padded 14 "Service Type" ++ " Scope") :: rule 40 ::
        s.toList.map fun e => padded 14 e.1 ++ " " ++ e.2
  | .json => textOfJson s.toJson

def exprText (e : Expr) : Format → String
  | .table =>
    textOfLines ["Tree:      " ++ e.text, "Endpoints: " ++ ", ".intercalate e.endpoints]
  | .json =>
    textOfJson <| .ofFields [("tree", .string e.text), ("atomic", .boolean e.isEndpoint),
      ("endpoints", .array (e.endpoints.map .string))]

def requestsText (requests : List Request) : Format → String
  | .table =>
    textOfLines <| requests.flatMap fun r =>
      r.text :: r.headers.toList.map fun e => "  " ++ e.1 ++ ": " ++ e.2
  | .json =>
    textOfJson <| .array <| requests.map fun r =>
      .ofFields [("method", .string r.method), ("url", .string r.url),
        ("headers", .ofFields (r.headers.toList.map fun e => (e.1, .string e.2)))]

/-- A response as output. Without one there is no table. -/
def responseText? : Option Response → Format → Option String
  | some r, .table =>
    let body := if r.body = "" then [] else ["", r.body]
    some (textOfLines ((toString r.status ++ " " ++ r.url) :: body))
  | none, .table => none
  | some r, .json =>
    some <| textOfJson <| .ofFields [("status", .number (toString r.status)),
      ("url", .string r.url), ("body", .string r.body)]
  | none, .json => some (textOfJson .null)

end CloudScope.CommandLine
