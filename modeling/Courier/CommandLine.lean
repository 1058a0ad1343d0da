import Courier.Service.Document
import Courier.Settings
import Courier.Statement

/-!
The command line.

The one argument is a statement. It is parsed, and the descriptor of the request is printed; with
the option to execute it, the document of the request with its outcome is printed instead.
-/

namespace Courier

namespace CommandLine

/-! ## Arguments -/

/-- What the arguments ask for. -/
inductive Order
  /-- They are not understood. -/
  | misuse
  | help
  | statement (statement : Text) (execute : Bool)
deriving DecidableEq

/-- An argument before a double dash. -/
inductive Argument
  | plain (value : Text)
  /-- The option to execute, and a value that was given to it. -/
  | execute (value : Option Text)
  /-- The option to show help, and a value that was given to it. -/
  | help (value : Option Text)
  /-- The short option to show help, and what was given to it: the letters after it, or those after
  an equals sign. -/
  | shortHelp (letters : Text)
  | unknown
deriving DecidableEq

/-- A minus sign and a number, which is no option. -/
def isNegativeNumber (arg : Text) : Bool :=
  let arg := if arg.getLast? = some (CodePoint.ofChar '\n') then arg.dropLast else arg
  let isDigit := fun (c : CodePoint) => c.digitValue?.isSome
  let isNumber := fun (t : Text) => !t.isEmpty && t.all isDigit
  match arg with
  | [] => false
  | _ :: number =>
    match Text.cut? '.' number with
    | some (whole, fraction) => whole.all isDigit && isNumber fraction
    | none => isNumber number

/-- The long options whose names begin in a given way. An abbreviation must fit exactly one. -/
def abbreviated? (name : Text) (value : Option Text) : Option Argument :=
  match name.isPrefixOf (Text.ofString "--help"), name.isPrefixOf (Text.ofString "--execute") with
  | true, true => none
  | true, false => some (.help value)
  | false, true => some (.execute value)
  | false, false => some .unknown

/-- An argument that starts with a dash and is not one of the options itself. -/
def readDashed (arg : Text) : Option Argument :=
  let (name, value) := match Text.cut? '=' arg with
    | some (name, value) => (name, some value)
    | none => (arg, none)
  let found :=
    if (Text.ofString "--").isPrefixOf arg then abbreviated? name value
    else
      match Text.after? (Text.ofString "-h") arg with
      | some rest => some (.shortHelp ((Text.after? [CodePoint.ofChar '='] rest).getD rest))
      | none => some .unknown
  found.map fun argument =>
    if argument = .unknown ∧ (isNegativeNumber arg || arg.contains (CodePoint.ofChar ' ')) then
      .plain arg
    else argument

/-- An argument; one that could be two options has no meaning. -/
def readArgument (arg : Text) : Option Argument :=
  if arg.head? ≠ some (CodePoint.ofChar '-') ∨ arg.length = 1 then some (.plain arg)
  else if arg = Text.ofString "--execute" then some (.execute none)
  else if arg = Text.ofString "--help" ∨ arg = Text.ofString "-h" then some (.help none)
  else readDashed arg

/-- What follows from the letters given to a short option to show help. Each is a short option of
its own, and to show help is the only one; to give none after an equals sign is a misuse. -/
def readShort (letters : Text) : Order :=
  if !letters.isEmpty && letters.all (· = CodePoint.ofChar 'h') then .help else .misuse

/-- What the arguments so far say. -/
structure Gathered where
  statement : Option Text := none
  execute : Bool := false
  /-- Whether there were arguments of no use. -/
  surplus : Bool := false
  /-- Whether the latest argument is the statement. -/
  fresh : Bool := false

namespace Gathered

/-- One more plain argument. -/
def plain (g : Gathered) (value : Text) : Gathered :=
  match g.statement with
  | none => { g with statement := some value, fresh := true }
  | some _ => { g with surplus := true, fresh := false }

/-- One more argument; help and misuse end the reading. -/
def add (g : Gathered) : Argument → Except Order Gathered
  | .plain value => .ok (g.plain value)
  | .execute none => .ok { g with execute := true, fresh := false }
  | .execute (some _) => .error .misuse
  | .help none => .error .help
  | .help (some _) => .error .misuse
  | .shortHelp letters => .error (readShort letters)
  | .unknown => .ok { g with surplus := true, fresh := false }

/-- The arguments after a double dash, if there is one. They are all plain. A double dash after the
statement is of use only right after it. -/
def finish (g : Gathered) (after : Option (List Text)) : Order :=
  let g := match after with
    | none => g
    | some rest =>
      let g := if g.statement.isSome && !g.fresh then { g with surplus := true } else g
      rest.foldl plain g
  match g.statement, g.surplus with
  | some statement, false => .statement statement g.execute
  | _, _ => .misuse

end Gathered

/-- What a list of arguments asks for. -/
def readArguments (args : List Text) : Order :=
  let dashes := Text.ofString "--"
  let after := match args.dropWhile (· != dashes) with
    | [] => none
    | _ :: rest => some rest
  match (args.takeWhile (· != dashes)).mapM readArgument with
  | none => .misuse
  | some arguments =>
    match arguments.foldlM Gathered.add ({} : Gathered) with
    | .error order => order
    | .ok g => g.finish after

/-! ## Running -/

/-- How a run ends. -/
inductive Ending
  /-- The arguments ended it: with help, or because they were misused. -/
  | stopped (status : Nat)
  | finished (status : Nat) (output errors : Text)
  | crashed (crash : Crash)
  /-- The settings are not in order. -/
  | unsettled (reports : List Settings.Report)

/-- A text as a line. -/
def line (t : Text) : Text := t ++ [CodePoint.ofChar '\n']

/-- The end of a run that prints a document, and warnings before it. -/
def print (warnings : List Text) : Except Crash Json → Ending
  | .ok document => .finished 0 (line (document.write Json.indented)) (warnings.flatMap line)
  | .error crash => .crashed crash

/-- Executes a request and prints its document. -/
def executeAndPrint (w : World) (d : Descriptor) (environment : Fields Text)
    (file : Option Text) : Ending × World :=
  match Settings.load environment file with
  | .error reports => (.unsettled reports, w)
  | .ok _ =>
    match execute w d with
    | (.error crash, w) => (.crashed crash, w)
    | (.ok e, w) =>
      let unreadable := (file.map fun content => (Variables.ofFile environment content).unreadable)
      (print ((unreadable.getD []).map Variables.warning) (Document.result d e), w)

/-- Runs the program with arguments, an environment and a file of variables. -/
def run (w : World) (environment : Fields Text) (file : Option Text) (args : List Text) :
    Ending × World :=
  match readArguments args with
  | .misuse => (.stopped 2, w)
  | .help => (.stopped 0, w)
  | .statement statement wantsExecution =>
    match Statement.parse (some statement) with
    | .error (.fault fault) =>
      (.finished 2 [] (line fault.message), w)
    | .error (.invalid reports) => (.crashed (.invalid reports), w)
    | .ok d =>
      if wantsExecution then executeAndPrint w d environment file
      else (print [] (Document.descriptor d), w)

end CommandLine

end Courier
