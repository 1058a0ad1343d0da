import Courier.Json.Value
import Courier.Text.Blank
import Courier.Text.Capital
import Courier.Text.Latin1
import Courier.Url.Percent

/-!
Request heads.

A head is a request line and header lines, each ended by CR and LF, up to an empty line. Its bytes
stand for the code points of the same number. The names of headers are compared in small letters,
and of a repeated header the last value counts.
-/

namespace Courier

namespace Http

/-- The head of a request. -/
structure Head where
  method : Text
  target : Text
  version : Text
  headers : Fields Text
deriving DecidableEq

namespace Head

/-- What is wrong with a head. -/
inductive Fault
  /-- The request line does not consist of three words. -/
  | requestLine
  /-- The third word does not start with the name of the protocol. -/
  | version
  /-- A header line has no colon. -/
  | headerLine
deriving DecidableEq

def Fault.message : Fault → Text
  | .requestLine => Text.ofString "bad request line"
  | .version => Text.ofString "bad http version"
  | .headerLine => Text.ofString "bad header line"

/-- The end of a line. -/
def lineEnd : List UInt8 := [13, 10]

/-- The end of a head: that of its last line and of the empty line after it. -/
def terminator : List UInt8 := lineEnd ++ lineEnd

/-- The bytes before the first terminator and those after it, given the bytes passed so far (latest
first). -/
def cutFrom? (passed : List UInt8) : List UInt8 → Option (List UInt8 × List UInt8)
  | 13 :: 10 :: 13 :: 10 :: rest => some (passed.reverse, rest)
  | b :: rest => cutFrom? (b :: passed) rest
  | [] => none

/-- The bytes before the first terminator and those after it. -/
def cut? (raw : List UInt8) : Option (List UInt8 × List UInt8) := cutFrom? [] raw

/-- The lines of a byte sequence, given those passed and the bytes of the current one (latest
first). -/
def linesFrom (passed : List (List UInt8)) (current : List UInt8) :
    List UInt8 → List (List UInt8)
  | 13 :: 10 :: rest => linesFrom (current.reverse :: passed) [] rest
  | b :: rest => linesFrom passed (b :: current) rest
  | [] => (current.reverse :: passed).reverse

/-- The parts of a byte sequence between the ends of lines. -/
def lines (raw : List UInt8) : List (List UInt8) := linesFrom [] [] raw

/-- A byte sequence without the terminator at its end, if it has one there. -/
def withoutTerminator (raw : List UInt8) : List UInt8 :=
  if terminator.isSuffixOf raw then raw.take (raw.length - 4) else raw

/-- The name and the value of a header line. -/
def readHeader (line : Text) : Except Fault (Text × Text) :=
  match Text.cut? ':' line with
  | some (name, value) =>
    .ok (Text.lowerLatin1 (Text.strip CodePoint.isBlank name), Text.strip CodePoint.isBlank value)
  | none => .error .headerLine

/-- The headers of header lines, added to those before; empty lines are left out. -/
def readHeaders (headers : Fields Text) : List (List UInt8) → Except Fault (Fields Text)
  | [] => .ok headers
  | [] :: rest => readHeaders headers rest
  | line :: rest =>
    match readHeader (Latin1.decode line) with
    | .ok (name, value) => readHeaders (headers.insert name value) rest
    | .error fault => .error fault

/-- The head of the bytes before a terminator. -/
def read (raw : List UInt8) : Except Fault Head :=
  match lines raw with
  | [] => .error .requestLine
  | first :: others =>
    match Text.words CodePoint.isBlank (Latin1.decode first) with
    | [method, target, version] =>
      if (Text.ofString "HTTP/").isPrefixOf version then
        (readHeaders [] others).map fun headers => { method, target, version, headers }
      else .error .version
    | _ => .error .requestLine

/-- The head of a byte sequence, with or without the terminator at its end. -/
def parse (raw : List UInt8) : Except Fault Head := read (withoutTerminator raw)

/-- The decoded path of a target: what stands before its first question mark. -/
def path (head : Head) : Text :=
  Percent.decode (head.target.takeWhile fun c => !(c = '?'))

end Head

end Http

end Courier
