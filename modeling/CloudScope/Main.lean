import CloudScope.CommandLine.Commands
import CloudScope.Http.WireForm

/-!
# The program

Runs the command of the command line on the files and variables of the machine. Output goes to
standard output; failures go to standard error, with status 1, or 2 for arguments that are no
command.
-/

namespace CloudScope.CommandLine

/-- Why a file cannot be read, as the machine tells it. -/
def readFaultOf : IO.Error → ReadFault
  | .noFileOrDirectory .. => .missing
  | .inappropriateType _ code details =>
    if code = 21 then .isDirectory else if code = 20 then .notDirectory else .other details
  | .invalidArgument _ code details => if code = 36 then .nameTooLong else .other details
  | e => .other (toString e)

/-- The machine that the program runs on. -/
def machine : Host IO where
  read path := do
    match Files.pathFault? path with
    | some fault => return .error fault
    | none =>
      match ← (IO.FS.readBinFile path).toBaseIO with
      | .ok bytes => return textOfBytes bytes.toList
      | .error e => return .error (readFaultOf e)
  variableValue name := IO.getEnv name
  transport := unconnected

def usage : List String :=
  ["Scope resolution across collaborating clouds",
   "",
   "Commands:",
   "  catalog                 list the services of the catalog",
   "  scope                   show the shell scope",
   "  parse <EXPRESSION>      show how a scope expression is read",
   "  interpret <URL>         show the request for every endpoint of its scope",
   "  send <URL>              dispatch a request and send it",
   "",
   "Options:",
   "  --config <PATH>         file of settings",
   "  --catalog <LOCATION>    location of the catalog",
   "  --scope <JSON>          entries of the shell scope",
   "  -f, --format <FORMAT>   table or json",
   "  -X, --method <METHOD>   method of the request",
   "  -H, --header <HEADER>   header of the request, Name: value"]

/-- Runs the program and gives its status. -/
def runProgram (args : List String) : IO UInt32 := do
  match parse args with
  | .error .help =>
    IO.print (textOfLines usage)
    return 0
  | .error .malformed =>
    IO.eprint (textOfLines usage)
    return 2
  | .ok inv =>
    match ← (inv.run machine).run with
    | .ok output =>
      IO.print output
      return 0
    | .error report =>
      IO.eprint (textOfLines (("Error: " ++ report.message) :: report.lines.tail))
      return 1

end CloudScope.CommandLine

def main (args : List String) : IO UInt32 :=
  CloudScope.CommandLine.runProgram args
