import Courier.Text.Capital
import Courier.Text.Quoted

/-!
Log lines and the configuration of logging.

A line has a level, the name of the part of the program that wrote it, and a message. Logging is
configured once: the first configuration adds the output to the root and sets the root's level,
later ones leave both alone.
-/

namespace Courier

namespace Log

/-- How important a line is. The level `notSet` stands for none. -/
inductive Level
  | notSet
  | debug
  | info
  | warning
  | error
  | critical
deriving DecidableEq

namespace Level

def name : Level → String
  | .notSet => "NOTSET"
  | .debug => "DEBUG"
  | .info => "INFO"
  | .warning => "WARNING"
  | .error => "ERROR"
  | .critical => "CRITICAL"

/-- The names by which a level can be asked for; two levels have a second name. -/
def names : List (String × Level) :=
  [("CRITICAL", .critical), ("FATAL", .critical), ("ERROR", .error), ("WARN", .warning),
    ("WARNING", .warning), ("INFO", .info), ("DEBUG", .debug), ("NOTSET", .notSet)]

/-- The level of a name. -/
def ofName? (token : Text) : Option Level :=
  (names.find? fun entry => Text.ofString entry.1 = token).map (·.2)

end Level

/-- The parts of the program that write lines. -/
inductive Source
  | execution
  | handlers
  | server
  | service
deriving DecidableEq

def Source.name : Source → String
  | .execution => "src.upstream.execute"
  | .handlers => "src.web.handlers"
  | .server => "src.web.server"
  | .service => "src.web.main"

/-- A line of the log. -/
structure Line where
  level : Level
  source : Source
  message : Text
deriving DecidableEq

/-- The line as it is shown. -/
def Line.render (line : Line) : Text :=
  Text.ofString line.level.name ++ (CodePoint.ofChar ' ' :: Text.ofString line.source.name) ++
    (CodePoint.ofChar ' ' :: line.message)

/-- What is configured: the root's level, its outputs, and the level of the two parts of the HTTP
client. -/
structure Config where
  root : Level := .warning
  outputs : Nat := 0
  client : Level := .notSet
  transport : Level := .notSet
deriving DecidableEq

/-- The format of the lines of every output. -/
def format : String := "%(asctime)s %(levelname)s %(name)s %(message)s"

/-- The name of the level to configure, in capital letters: the one given, or else that of the
environment, or else `INFO`. Empty ones count as not given. -/
def chosenLevel (given environment : Option Text) : Text :=
  let nonEmpty := fun (t : Option Text) => t.filter (!·.isEmpty)
  Text.upper (((nonEmpty given).or (nonEmpty environment)).getD (Text.ofString "INFO"))

/-- What is said about a name that no level has. -/
def unknownLevel (token : Text) : Text := Text.ofString "Unknown level: " ++ Text.quote token

/-- Configures logging. An unknown level is an error, which leaves an output behind but no level;
it is only noticed when the root has no output yet. -/
def Config.set (config : Config) (given environment : Option Text) : Except Text Unit × Config :=
  let quiet := fun (config : Config) => { config with client := .warning, transport := .warning }
  if config.outputs = 0 then
    let token := chosenLevel given environment
    match Level.ofName? token with
    | some level => (.ok (), quiet { config with root := level, outputs := 1 })
    | none => (.error (unknownLevel token), { config with outputs := 1 })
  else (.ok (), quiet config)

end Log

end Courier
