import Courier.Statement.Keyword
import Courier.Text.Quoted

/-!
The faults of a statement.

Every statement that is refused has exactly one fault. A fault has a kind, whose message is shown
to clients and may name a section or a keyword.
-/

namespace Courier

/-- The kinds of faults. -/
inductive FaultKind
  | invalidInput
  | emptyInput
  | boundarySpacing
  | pipeSpacing
  | missingSpaceAfterKeyword
  | multipleSpaces
  | nonUppercaseKeyword
  | missingHttpKeyword
  | missingUrlKeyword
  | duplicateSection
  | nonUppercaseMethod
  | unsupportedMethod
  | invalidSectionJson
  | sectionNotObject
deriving DecidableEq

namespace FaultKind

def all : List FaultKind :=
  [.invalidInput, .emptyInput, .boundarySpacing, .pipeSpacing, .missingSpaceAfterKeyword,
    .multipleSpaces, .nonUppercaseKeyword, .missingHttpKeyword, .missingUrlKeyword,
    .duplicateSection, .nonUppercaseMethod, .unsupportedMethod, .invalidSectionJson,
    .sectionNotObject]

/-- The name under which a kind is logged. -/
def name : FaultKind → String
  | .invalidInput => "invalid_input"
  | .emptyInput => "empty_input"
  | .boundarySpacing => "boundary_spacing"
  | .pipeSpacing => "pipe_spacing"
  | .missingSpaceAfterKeyword => "missing_space_after_keyword"
  | .multipleSpaces => "multiple_spaces"
  | .nonUppercaseKeyword => "non_uppercase_keyword"
  | .missingHttpKeyword => "missing_http_keyword"
  | .missingUrlKeyword => "missing_url_keyword"
  | .duplicateSection => "duplicate_section"
  | .nonUppercaseMethod => "non_uppercase_method"
  | .unsupportedMethod => "unsupported_method"
  | .invalidSectionJson => "invalid_section_json"
  | .sectionNotObject => "section_not_object"

/-- The kind of a name, or what to say about a name that no kind has. -/
def ofName (token : Text) : Except Text FaultKind :=
  match all.find? fun kind => Text.ofString kind.name = token with
  | some kind => .ok kind
  | none => .error (Text.quote token ++ Text.ofString " is not a valid ReqlineErrorKind")

/-- The message of a kind that concerns a section and a keyword; most concern neither. -/
def message (sec keyword : Text) : FaultKind → Text
  | .invalidInput => Text.ofString "Invalid reqline input"
  | .emptyInput => Text.ofString "Missing required HTTP keyword"
  | .boundarySpacing => Text.ofString "Multiple spaces found where single space expected"
  | .pipeSpacing => Text.ofString "Invalid spacing around pipe delimiter"
  | .missingSpaceAfterKeyword => Text.ofString "Missing space after keyword"
  | .multipleSpaces => Text.ofString "Multiple spaces found where single space expected"
  | .nonUppercaseKeyword => Text.ofString "Keywords must be uppercase"
  | .missingHttpKeyword => Text.ofString "Missing required HTTP keyword"
  | .missingUrlKeyword => Text.ofString "Missing required URL keyword"
  | .duplicateSection => Text.ofString "Duplicate section " ++ keyword
  | .nonUppercaseMethod => Text.ofString "HTTP method must be uppercase"
  | .unsupportedMethod => Text.ofString "Invalid HTTP method. Only GET and POST are supported"
  | .invalidSectionJson =>
    Text.ofString "Invalid JSON format in " ++ sec ++ Text.ofString " section"
  | .sectionNotObject => sec ++ Text.ofString " section must be a JSON object"

end FaultKind

/-- The fault of a statement. -/
inductive Fault
  /-- There is no statement, or it is not a text. -/
  | invalidInput
  /-- The statement is empty. -/
  | emptyInput
  /-- The statement starts or ends with a space. -/
  | boundarySpacing
  /-- A pipe is not surrounded by exactly one space on each side, or has no segment on a side. -/
  | pipeSpacing
  /-- A segment has no space after its keyword, or nothing after the space. -/
  | missingSpaceAfterKeyword
  /-- A segment has more than one space after its keyword. -/
  | multipleSpaces
  /-- A segment does not start with a keyword. -/
  | nonUppercaseKeyword
  /-- The first segment is not the one of the method. -/
  | missingHttpKeyword
  /-- The second segment is not the one of the URL. -/
  | missingUrlKeyword
  /-- A keyword opens two segments. -/
  | duplicateSection (keyword : Keyword)
  /-- The method changes when it is written in capital letters. -/
  | nonUppercaseMethod
  /-- The method is none of those that a statement may use. -/
  | unsupportedMethod
  /-- A section is not a JSON text, or holds a text that cannot be encoded. -/
  | invalidSectionJson (sec : Section)
  /-- A section is a JSON text of another value than an object. -/
  | sectionNotObject (sec : Section)
deriving DecidableEq

namespace Fault

def kind : Fault → FaultKind
  | .invalidInput => .invalidInput
  | .emptyInput => .emptyInput
  | .boundarySpacing => .boundarySpacing
  | .pipeSpacing => .pipeSpacing
  | .missingSpaceAfterKeyword => .missingSpaceAfterKeyword
  | .multipleSpaces => .multipleSpaces
  | .nonUppercaseKeyword => .nonUppercaseKeyword
  | .missingHttpKeyword => .missingHttpKeyword
  | .missingUrlKeyword => .missingUrlKeyword
  | .duplicateSection _ => .duplicateSection
  | .nonUppercaseMethod => .nonUppercaseMethod
  | .unsupportedMethod => .unsupportedMethod
  | .invalidSectionJson _ => .invalidSectionJson
  | .sectionNotObject _ => .sectionNotObject

/-- The section that a fault concerns. -/
def section? : Fault → Option Section
  | .invalidSectionJson sec => some sec
  | .sectionNotObject sec => some sec
  | _ => none

/-- The keyword that a fault concerns. -/
def keyword? : Fault → Option Keyword
  | .duplicateSection keyword => some keyword
  | _ => none

/-- The message that clients see. -/
def message (fault : Fault) : Text :=
  fault.kind.message ((fault.section?.map Section.name).getD [])
    ((fault.keyword?.map Keyword.name).getD [])

end Fault

end Courier
