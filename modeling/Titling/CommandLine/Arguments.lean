/-! The arguments of the command line: options with values, flags, and one command. -/

namespace Titling.CommandLine

/-- What is asked of the `title` command; a page without any of its three options has no title. -/
structure Options where
  layoutTitle : Option String := none
  layoutExpression : Option String := none
  layoutPattern : Option String := none
  contentTitle : Option String := none
  contentExpression : Option String := none
  contentPattern : Option String := none
  assignments : List String := []
  escape : Option Bool := none
deriving DecidableEq, Repr

/-- Tells whether any part of a title is given. -/
def Options.hasTitle (options : Options) : Bool :=
  [options.layoutTitle, options.layoutExpression, options.layoutPattern, options.contentTitle,
   options.contentExpression, options.contentPattern].any Option.isSome

/-- A whole call of the program. -/
structure Invocation where
  verbose : Bool := false
  options : Options := {}
deriving DecidableEq, Repr

/-- What becomes of arguments: a call, or an error in the use of the program. -/
inductive Parsed where
  | call (invocation : Invocation)
  | help
  | usageError
deriving DecidableEq, Repr

/-- What ends the options. -/
def endOfOptions : String := "--"

/-- Tells whether an argument is an option; a single dash is not. -/
def isOption (argument : String) : Bool :=
  argument.startsWith "-" && argument != "-"

/-- An option's name and the value attached to it by an equals sign. -/
def splitOption (argument : String) : String × Option String :=
  let chars := argument.toList
  -- Only the first equals sign counts, so a value may hold further ones.
  let name := chars.takeWhile (· ≠ '=')
  match chars.drop name.length with
  | _ :: value => (String.ofList name, some (String.ofList value))
  | [] => (argument, none)

/-- How an option with a value changes what is asked; `none` if there is no such option. -/
def setValue? (name : String) : Option (Options → String → Options) :=
  match name with
  | "--layout-title" => some fun options value => { options with layoutTitle := some value }
  | "--layout-expr" => some fun options value => { options with layoutExpression := some value }
  | "--layout-pattern" => some fun options value => { options with layoutPattern := some value }
  | "--content-title" => some fun options value => { options with contentTitle := some value }
  | "--content-expr" => some fun options value => { options with contentExpression := some value }
  | "--pattern" => some fun options value => { options with contentPattern := some value }
  -- Of the others the last one counts, but variables are gathered in their order.
  | "--var" => some fun options value =>
    { options with assignments := options.assignments ++ [value] }
  | _ => none

/-- How a flag changes what is asked; `none` if there is no such flag. -/
def setFlag? (name : String) : Option (Options → Options) :=
  match name with
  | "--escape" => some fun options => { options with escape := some true }
  | "--no-escape" => some fun options => { options with escape := some false }
  | _ => none

/-- The name of the flag that asks for help. -/
def helpFlag : String := "--help"

/--
Reads the arguments of the `title` command, which has none but options. A value may be any argument,
and of repeated options the last one wins. Help is given only if all else can be read.
-/
def parseOptions (help : Bool) (options : Options) : List String → Option (Bool × Options)
  | [] => some (help, options)
  | argument :: rest =>
    -- Nothing may stand behind the end of the options, as the command takes no other arguments.
    if argument = endOfOptions then if rest.isEmpty then some (help, options) else none
    else if isOption argument then
      let (name, attached) := splitOption argument
      match setValue? name, setFlag? name, attached, rest with
      | some set, _, some value, rest => parseOptions help (set options value) rest
      -- The next argument is the value whatever it looks like.
      | some set, _, none, value :: rest => parseOptions help (set options value) rest
      | none, some set, none, rest => parseOptions help (set options) rest
      | none, none, none, rest => if name = helpFlag then parseOptions true options rest else none
      | _, _, _, _ => none
    else none

/-- Tells whether an argument asks for debugging output, by name or by one or more letters. -/
def isVerbose (argument : String) : Bool :=
  argument == "--verbose" || (match argument.toList with
    | '-' :: 'v' :: letters => letters.all (· == 'v')
    | _ => false)

/-- The call of a command with its arguments. -/
def parseCommand (verbose : Bool) : List String → Parsed
  | "title" :: arguments =>
    match parseOptions false {} arguments with
    | some (false, options) => .call { verbose, options }
    | some (true, _) => .help
    | none => .usageError
  | _ => .usageError

/-- Reads the arguments in front of the command, and then those of the command. -/
def parse (verbose : Bool) : List String → Parsed
  | [] => .usageError
  | argument :: rest =>
    if argument = endOfOptions then parseCommand verbose rest
    else if isVerbose argument then parse true rest
    else if argument = helpFlag then .help
    else parseCommand verbose (argument :: rest)

end Titling.CommandLine
