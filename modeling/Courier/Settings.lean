import Courier.Number.Numeral
import Courier.Settings.Variables

/-!
The settings of the service.

Five variables configure the service; each has a usual value. Values that cannot be read or are out
of range are reported together, in the order of the variables' names.
-/

namespace Courier

/-- What is wrong with a variable. -/
inductive SettingProblem
  | notInteger
  | integerTooLong
  | notNumber
  /-- The value is out of range; the message says what is wanted. -/
  | outOfRange (message : String)
deriving DecidableEq

namespace SettingProblem

def name : SettingProblem → String
  | .notInteger => "int_parsing"
  | .integerTooLong => "int_parsing_size"
  | .notNumber => "float_parsing"
  | .outOfRange _ => "value_error"

def message? : SettingProblem → Option String
  | .outOfRange message => some message
  | _ => none

end SettingProblem

/-- The settings. -/
structure Settings where
  host : Text := Text.ofString "0.0.0.0"
  /-- The number of the port to listen on; zero leaves the choice to the system. -/
  port : Fin 65536 := 8080
  /-- How long the client waits, in seconds. -/
  timeout : Option Binary64 := none
  /-- The longest body of a request. -/
  maxBody : Nat := 1048576
  maxBody_pos : 0 < maxBody := by decide
  logLevel : Text := Text.ofString "INFO"

namespace Settings

/-- A variable with what is wrong with it. -/
abbrev Report := String × SettingProblem

/-- The text without underscores, if they only stand alone between other code points. -/
def withoutUnderscores? (t : Text) : Option Text :=
  let groups := Text.splitOn '_' t
  if groups.any List.isEmpty then none else some groups.flatten

/-- The text after the zeros at its beginning, of which `last` is the latest, and the underscores
among them. Nothing but a point, a digit or a minus sign may follow them. -/
def skipZeros? (last : CodePoint) : Text → Option Text
  | [] => some [last]
  | c :: rest =>
    if c = '0' ∨ c = '_' then skipZeros? c rest
    else if c.isDigit ∨ c = '-' then some (c :: rest)
    else if c = '.' then some (last :: c :: rest)
    else none

/-- A numeral without its leading zeros, if it begins like one. -/
def withoutZeros? (t : Text) : Option Text :=
  match t with
  | [] => none
  | c :: rest =>
    if c = '0' then skipZeros? c rest else if c.isDigit ∨ c = '-' then some t else none

/-- A numeral without a fraction of zeros. -/
def withoutFraction (t : Text) : Text :=
  match Text.cut? '.' t with
  | some (whole, fraction) =>
    if !fraction.isEmpty && fraction.all (· = CodePoint.ofChar '0') then whole else t
  | none => t

/-- The most digits of an integer. -/
def maxDigits : Nat := 4300

/-- An integer in its plain form: a minus sign or none, and digits. -/
def readPlain (t : Text) : Except SettingProblem Int :=
  let (negative, digits) := match t with
    | c :: rest => if c = '-' then (true, rest) else (false, t)
    | [] => (false, t)
  if maxDigits < (digits.takeWhile CodePoint.isDigit).length then .error .integerTooLong
  else if !digits.isEmpty && digits.all CodePoint.isDigit then
    let n := Text.digitsValue digits
    .ok (if negative then -(n : Int) else n)
  else .error .notInteger

/-- An integer: blanks around it, a sign before it, leading zeros, single underscores between its
digits and a fraction of zeros are allowed. -/
def readInteger (t : Text) : Except SettingProblem Int :=
  let t := Text.strip CodePoint.isWhiteSpace t
  let unsigned? := match Text.after? [CodePoint.ofChar '+'] t with
    | some rest => if rest.head? = some (CodePoint.ofChar '-') then none else some rest
    | none => some t
  match unsigned?.bind withoutZeros? with
  | none => .error .notInteger
  | some t =>
    let t := withoutFraction t
    readPlain ((withoutUnderscores? t).getD t)

/-- A number: blanks around it are allowed, and so are single underscores between other code
points. -/
def readNumber (t : Text) : Except SettingProblem Binary64 :=
  match Binary64.read? (Text.strip CodePoint.isWhiteSpace t) with
  | some x => .ok x
  | none =>
    match (withoutUnderscores? t).bind Binary64.read? with
    | some x => .ok x
    | none => .error .notNumber

def readPort (t : Text) : Except SettingProblem (Fin 65536) := do
  let n ← readInteger t
  if h : 0 ≤ n ∧ n.toNat < 65536 then return ⟨n.toNat, h.2⟩
  else throw (.outOfRange "PORT must be within 0..65535")

def readTimeout (t : Text) : Except SettingProblem (Option Binary64) := do
  let x ← readNumber t
  if x.isAtMostZero then throw (.outOfRange "UPSTREAM_TIMEOUT_S must be positive when set")
  else return some x

def readMaxBody (t : Text) : Except SettingProblem { n : Nat // 0 < n } := do
  let n ← readInteger t
  if h : 0 < n.toNat then return ⟨n.toNat, h⟩
  else throw (.outOfRange "MAX_BODY_BYTES must be positive")

/-- The value of a variable, or the usual one. -/
def readOr {α : Type} (usual : α) (read : Text → Except SettingProblem α) :
    Option Text → Except SettingProblem α
  | none => .ok usual
  | some t => read t

/-- The report of a variable that is in order or not. -/
def report {α : Type} (name : String) : Except SettingProblem α → List Report
  | .ok _ => []
  | .error problem => [(name, problem)]

/-- The settings of an environment and a file of variables. -/
def load (environment : Fields Text) (file : Option Text) : Except (List Report) Settings :=
  let listing := (file.map (Variables.ofFile environment)).getD {}
  let value := Variables.lookup environment listing.values
  let usual : Settings := {}
  let maxBody := readOr ⟨usual.maxBody, usual.maxBody_pos⟩ readMaxBody (value "MAX_BODY_BYTES")
  let port := readOr usual.port readPort (value "PORT")
  let timeout := readOr usual.timeout readTimeout (value "UPSTREAM_TIMEOUT_S")
  match maxBody, port, timeout with
  | .ok maxBody, .ok port, .ok timeout =>
    .ok {
      host := (value "HOST").getD usual.host
      port
      timeout
      maxBody := maxBody.1
      maxBody_pos := maxBody.2
      logLevel := (value "LOG_LEVEL").getD usual.logLevel }
  | _, _, _ =>
    .error (report "MAX_BODY_BYTES" maxBody ++ report "PORT" port ++
      report "UPSTREAM_TIMEOUT_S" timeout)

end Settings

end Courier
