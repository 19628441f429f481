/-!
# Options of a command line

Reading the arguments of a command up to the first word that is no option. An option has a long
name, after two dashes, and perhaps a letter, after one; letters can be joined. A value follows the
long name after an equals sign or as the next argument, which must not start with a dash unless it
is one.

The reader only collects what is given (`Given`). It stops at the first fault, and at an option that
asks for the version or for help.
-/

namespace ConfigBar.CommandLine

/-- What an option takes. -/
inductive Arity where
  /-- Nothing; it may be given once. -/
  | flag
  /-- Nothing; it may be given any number of times. -/
  | counted
  /-- A value that passes a check; it may be given once. -/
  | value (isValid : String → Bool)
  /-- It asks for the version. -/
  | version
  /-- It asks for help. -/
  | help

/-- An option. -/
structure OptionSpec where
  name : String
  letter : Option Char
  arity : Arity

/-- The options that are given, with their values, in order. -/
abbrev Given := List (String × String)

/-- How reading arguments ends. -/
inductive Scan where
  | finished (given : Given)
  /-- A word that is no option, and the arguments after it. -/
  | word (given : Given) (word : String) (rest : List String)
  | version
  | help
  | fault
  deriving DecidableEq, Repr

namespace Given

/-- Is an option given? -/
def has (g : Given) (name : String) : Bool := g.any fun e => e.1 == name

/-- The value of an option. -/
def value? (g : Given) (name : String) : Option String :=
  (g.find? fun e => e.1 == name).map Prod.snd

/-- How often an option is given. -/
def count (g : Given) (name : String) : Nat := (g.filter fun e => e.1 == name).length

end Given

/-- What one option leads to. -/
inductive Step where
  | given (name value : String)
  /-- The next argument is the value. -/
  | pending (name : String) (isValid : String → Bool)
  | version
  | help
  | fault

/-- What an option without a value of its own leads to. -/
def OptionSpec.step (o : OptionSpec) (given : Given) : Step :=
  match o.arity with
  | .flag => if given.has o.name then .fault else .given o.name ""
  | .counted => .given o.name ""
  | .value isValid => if given.has o.name then .fault else .pending o.name isValid
  | .version => .version
  | .help => .help

/-- What a long option leads to; `text` is what stands after the two dashes. -/
def longStep (specs : List OptionSpec) (given : Given) (text : List Char) : Step :=
  let name := String.ofList (text.takeWhile (· != '='))
  match specs.find? fun o => o.name == name, text.dropWhile (· != '=') with
  | none, _ => .fault
  | some o, [] => o.step given
  | some o, _ :: value =>
    match o.step given with
    | .pending name isValid =>
      let value := String.ofList value
      if isValid value then .given name value else .fault
    | _ => .fault

/-- What letters lead to: options without a value, or the first one that ends the reading. -/
def letterSteps (specs : List OptionSpec) (given : Given) : List Char → Except Scan Given
  | [] => .ok given
  | c :: cs =>
    match specs.find? fun o => o.letter == some c with
    | none => .error .fault
    | some o =>
      match o.step given with
      | .given name value => letterSteps specs (given ++ [(name, value)]) cs
      | .version => .error .version
      | .help => .error .help
      | _ => .error .fault

/-- Can an argument be the value of the option before it? -/
def isValue (arg : String) : Bool :=
  match arg.toList with
  | '-' :: _ :: _ => false
  | _ => true

/-- Reads arguments. -/
def scan (specs : List OptionSpec) (given : Given) : List String → Scan
  | [] => .finished given
  | arg :: args =>
    match arg.toList with
    | ['-', '-'] => if args.isEmpty then .finished given else .fault
    | '-' :: '-' :: text =>
      match longStep specs given text, args with
      | .given name value, args => scan specs (given ++ [(name, value)]) args
      | .pending name isValid, value :: args =>
        if isValue value && isValid value then scan specs (given ++ [(name, value)]) args
        else .fault
      | .pending _ _, [] => .fault
      | .version, _ => .version
      | .help, _ => .help
      | .fault, _ => .fault
    | '-' :: c :: cs =>
      match letterSteps specs given (c :: cs) with
      | .ok given => scan specs given args
      | .error s => s
    | _ => .word given arg args

end ConfigBar.CommandLine
