import CloudScope.CommandLine.Output
import CloudScope.Dispatch.Sender
import CloudScope.Settings.Basic
import CloudScope.Settings.Shell
import CloudScope.Url

/-!
# Commands

A command runs on a host, which holds files and variables and exchanges requests. It comes to the
text of its output or to a failure, never to both.
-/

namespace CloudScope.CommandLine

structure Host (m : Type → Type) where
  /-- The text of the file at a path. -/
  read : String → m (Except ReadFault String)
  /-- The value of a variable. -/
  variableValue : String → m (Option String)
  /-- Exchanges a request for its response. -/
  transport : Request → Action Unit Report Response

/-- Puts a name behind the path of a directory. -/
def joinPath (directory name : String) : String :=
  if directory.toList.getLast? = some '/' then directory ++ name else directory ++ "/" ++ name

/-- Where settings lie if nothing else is said. -/
def defaultPath (configHome home : Option String) : Option String :=
  let absolute := configHome.filter fun path => path.toList.head? = some '/'
  let directory := absolute <|> (home.filter (· ≠ "")).map (joinPath · ".config")
  directory.map fun directory => joinPath (joinPath directory "oidscope") "config.toml"

/-- The request of an order, with its method in upper case and without the blanks around names and
values of headers. -/
def Order.request (order : Order) : Except Report Request := do
  if !Url.isAbsolute order.url then throw ⟨"Invalid request URL: " ++ order.url, []⟩
  let headers ← order.headers.mapM fun raw =>
    match raw.toList.dropWhile (· ≠ ':') with
    | [] => throw (⟨"Invalid header '" ++ raw ++ "', expected 'Name: value'", []⟩ : Report)
    | _ :: value =>
      pure (String.ofList (Text.trim (raw.toList.takeWhile (· ≠ ':'))),
        String.ofList (Text.trim value))
  return { method := order.method.map Char.toUpper, url := order.url,
           headers := Headers.ofList headers }

/-- What a command comes to on a host. -/
abbrev Outcome (m : Type → Type) := ExceptT Report m

namespace Invocation

variable {m : Type → Type} [Monad m] (inv : Invocation) (host : Host m)

def settings : Outcome m Settings := do
  let configHome ← host.variableValue "XDG_CONFIG_HOME"
  let home ← host.variableValue "HOME"
  match inv.config <|> defaultPath configHome home with
  | none => return {}
  | some path =>
    match Settings.ofFile path (← host.read path) with
    | .ok settings => return settings
    | .error e => throw e.report

/-- The catalog of an invocation, whose settings are given. -/
def loadCatalog (settings : Settings) : Outcome m Catalog := do
  let location := inv.catalog.getD settings.location
  let loaded ← (Catalog.load host.read location : m (Except Catalog.LoadError Catalog))
  match loaded with
  | .ok catalog => return catalog
  | .error e => throw e.report

/-- The shell scope of an invocation, whose settings are given. -/
def shellScope (settings : Settings) : Outcome m Scope := do
  let names := Shell.regionVariable :: Shell.serviceTypes.map Shell.variableOf
  let values ← names.mapM fun name => return (name, ← host.variableValue name)
  let environment := Shell.ofVariables fun name => (values.lookup name).join
  match Shell.resolve environment settings.scope inv.scope with
  | .ok scope => return scope
  | .error e => throw (e.report.above "Invalid --scope value")

/-- The catalog, the session and the request of an order. -/
def prepare (order : Order) : Outcome m (Catalog × Session Unit × Request) := do
  let settings ← inv.settings host
  let catalog ← inv.loadCatalog host settings
  let scope ← inv.shellScope host settings
  match order.request with
  | .ok request => return (catalog, ⟨.ofShell scope, ()⟩, request)
  | .error report => throw report

/-- The requests that an order comes to, one for each endpoint. -/
def interpret (order : Order) : Outcome m (List Request) := do
  let (catalog, session, request) ← inv.prepare host order
  match (catalog.dryRun request session).1 with
  | .ok requests => return requests
  | .error e => throw e.report

/-- The response that an order comes to. -/
def send (order : Order) : Outcome m (Option Response) := do
  let (catalog, session, request) ← inv.prepare host order
  let sender : Sender Unit :=
    { catalog, transport := host.transport, interceptors := [.injector] }
  match (sender.send request session).1 with
  | .ok response => return response
  | .error e => throw e.report

def run : Outcome m String := do
  match inv.command with
  | .catalog => return catalogText (← inv.loadCatalog host (← inv.settings host)) inv.format
  | .scope => return scopeText (← inv.shellScope host (← inv.settings host)) inv.format
  | .parse expression =>
    match Expr.parse expression with
    | .ok e => return exprText e inv.format
    | .error e => throw (ScopeError.parse e).report
  | .interpret order => return requestsText (← inv.interpret host order) inv.format
  | .send order =>
    match responseText? (← inv.send host order) inv.format with
    | some text => return text
    | none => throw ⟨"No endpoint of the scope answered successfully", []⟩

end Invocation

end CloudScope.CommandLine
