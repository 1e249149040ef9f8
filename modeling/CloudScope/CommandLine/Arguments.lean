/-!
# Arguments of the command line

An invocation is options, the name of a command, and the options and operands of the command.
Options that hold for all commands may stand on either side of the name, and what stands behind it
wins. An option is `--name value`, `--name=value`, `-n value`, `-nvalue` or `-n=value`; a value that
starts with a hyphen is taken for an option unless it is attached, and `--` ends the options.
-/

namespace CloudScope.CommandLine

inductive Format where
  | table
  | json
deriving DecidableEq, Repr

def Format.ofName? : String → Option Format
  | "table" => some .table
  | "json" => some .json
  | _ => none

/-- A request as it is asked for. -/
structure Order where
  url : String
  method : String := "GET"
  /-- Headers in the form `Name: value`. -/
  headers : List String := []
deriving DecidableEq, Repr

inductive Command where
  | catalog
  | scope
  | parse (expression : String)
  | interpret (order : Order)
  | send (order : Order)
deriving DecidableEq, Repr

/-- A command with what holds for all commands. -/
structure Invocation where
  command : Command
  /-- The path of the settings. -/
  config : Option String := none
  /-- The location of the catalog. -/
  catalog : Option String := none
  /-- The text of a scope. -/
  scope : Option String := none
  format : Format := .table
deriving DecidableEq, Repr

inductive Misuse where
  /-- Help is asked for. -/
  | help
  | malformed
deriving DecidableEq, Repr

/-! ## Words -/

/-- The options, all of which take a value. -/
inductive Flag where
  | config
  | catalog
  | scope
  | format
  | method
  | header
deriving DecidableEq, Repr

def Flag.ofName? : String → Option Flag
  | "config" => some .config
  | "catalog" => some .catalog
  | "scope" => some .scope
  | "format" => some .format
  | "method" => some .method
  | "header" => some .header
  | _ => none

def Flag.ofLetter? : Char → Option Flag
  | 'f' => some .format
  | 'X' => some .method
  | 'H' => some .header
  | _ => none

/-- Whether an option holds for all commands. -/
def Flag.isGlobal : Flag → Bool
  | .method | .header => false
  | _ => true

inductive Word where
  | operand
  | endOfOptions
  | help
  /-- An option whose value is the next word. -/
  | flag (f : Flag)
  /-- An option with its value. -/
  | attached (f : Flag) (value : List Char)
  | unknown
deriving DecidableEq, Repr

/-- The word that two hyphens and some characters are. -/
def longWord (chars : List Char) : Word :=
  let name := String.ofList (chars.takeWhile (· ≠ '='))
  match Flag.ofName? name, chars.dropWhile (· ≠ '=') with
  | some f, [] => .flag f
  | some f, _ :: value => .attached f value
  | none, [] => if name = "help" then .help else .unknown
  | none, _ :: _ => .unknown

/-- The word that a hyphen, a letter and some characters are. -/
def shortWord (letter : Char) (chars : List Char) : Word :=
  match Flag.ofLetter? letter, chars with
  | some f, [] => .flag f
  | some f, '=' :: value => .attached f value
  | some f, value => .attached f value
  | none, _ => if letter = 'h' then .help else .unknown

def Word.ofChars : List Char → Word
  | ['-', '-'] => .endOfOptions
  | '-' :: '-' :: chars => longWord chars
  | '-' :: letter :: chars => shortWord letter chars
  | _ => .operand

inductive Item where
  | option (f : Flag) (value : String)
  | operand (text : String)
  | endOfOptions
  | help
deriving DecidableEq, Repr

/-- The items of a list of words, up to a call for help. -/
def items : List String → Except Misuse (List Item)
  | [] => .ok []
  | word :: rest =>
    match Word.ofChars word.toList with
    | .operand => (items rest).map (.operand word :: ·)
    | .endOfOptions => .ok (.endOfOptions :: rest.map .operand)
    | .help => .ok [.help]
    | .unknown => .error .malformed
    | .attached f value => (items rest).map (.option f (String.ofList value) :: ·)
    | .flag f =>
      match rest with
      | [] => .error .malformed
      | value :: rest =>
        match Word.ofChars value.toList with
        | .operand => (items rest).map (.option f value :: ·)
        | _ => .error .malformed

/-! ## Levels -/

/-- The values of an option on one level, in their order. -/
def valuesOf (f : Flag) : List Item → List String
  | [] => []
  | .option g value :: rest => if g = f then value :: valuesOf f rest else valuesOf f rest
  | _ :: rest => valuesOf f rest

def operandsOf : List Item → List String
  | [] => []
  | .operand text :: rest => text :: operandsOf rest
  | _ :: rest => operandsOf rest

/-- Whether an option may have a value. -/
def Flag.admits (f : Flag) (value : String) : Bool :=
  match f with
  | .config => value ≠ ""
  | .format => (Format.ofName? value).isSome
  | _ => true

/-- Whether the options of a level are all allowed there, each given once unless it is a header. -/
def wellFormed (allowed : Flag → Bool) (level : List Item) : Bool :=
  (level.all fun
    | .option f value => allowed f && f.admits value
    | _ => true) &&
  [Flag.config, .catalog, .scope, .format, .method].all fun f => (valuesOf f level).length ≤ 1

/-- The level in front of the name of a command, the name, and what follows it. -/
def splitAtName (level : List Item) : List Item → List Item × Option (String × List Item)
  | [] => (level, none)
  | .operand name :: rest => (level, some (name, rest))
  | item :: rest => splitAtName (level ++ [item]) rest

/-- The commands by name, made of their level. -/
def commandOf (name : String) (level : List Item) : Except Misuse Command :=
  let order (url : String) : Order :=
    { url, method := (valuesOf .method level).head?.getD "GET", headers := valuesOf .header level }
  match name, operandsOf level with
  | "catalog", [] => .ok .catalog
  | "scope", [] => .ok .scope
  | "parse", [expression] => .ok (.parse expression)
  | "interpret", [url] => .ok (.interpret (order url))
  | "send", [url] => .ok (.send (order url))
  | _, _ => .error .malformed

def commandNames : List String := ["catalog", "scope", "parse", "interpret", "send"]

def allowedFor (name : String) (f : Flag) : Bool :=
  f.isGlobal || name = "interpret" || name = "send"

/-- The greatest number of operands of a command. -/
def maxOperands (name : String) : Nat :=
  if name = "catalog" ∨ name = "scope" then 0 else 1

/-- Whether some items name what there is help about. -/
def isHelpTopic : List Item → Bool
  | [] => true
  | [.operand name] => name = "help" || commandNames.contains name
  | [.operand "help", .operand name] => name = "help" || commandNames.contains name
  | _ => false

/-- The invocation that a list of words is. -/
def parse (words : List String) : Except Misuse Invocation := do
  let (front, named) := splitAtName [] (← items words)
  if !wellFormed Flag.isGlobal front then throw .malformed
  if front.contains .help then throw .help
  let some (name, level) := named | throw .malformed
  if front.contains .endOfOptions then throw .malformed
  if name = "help" then
    throw (if isHelpTopic level then .help else .malformed)
  if !(commandNames.contains name && wellFormed (allowedFor name) level) then throw .malformed
  if maxOperands name < (operandsOf level).length then throw .malformed
  if level.contains .help then throw .help
  let command ← commandOf name level
  let last (f : Flag) : Option String := (valuesOf f (front ++ level)).getLast?
  return { command, config := last .config, catalog := last .catalog, scope := last .scope,
           format := ((last .format).bind Format.ofName?).getD .table }

end CloudScope.CommandLine
