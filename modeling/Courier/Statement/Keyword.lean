import Courier.Text.CodePoint

/-!
The closed vocabularies of the statement language: the keywords that open a segment, the sections
among them that hold a JSON object, and the methods of a request.
-/

namespace Courier

/-- A section that holds a JSON object. -/
inductive Section
  | headers
  | query
  | body
deriving DecidableEq

namespace Section

def name : Section → Text
  | .headers => Text.ofString "HEADERS"
  | .query => Text.ofString "QUERY"
  | .body => Text.ofString "BODY"

end Section

/-- The keyword that opens a segment. -/
inductive Keyword
  | http
  | url
  | json (sec : Section)
deriving DecidableEq

namespace Keyword

/-- The keywords, in the order in which a statement is usually written. -/
def all : List Keyword := [.http, .url, .json .headers, .json .query, .json .body]

def name : Keyword → Text
  | .http => Text.ofString "HTTP"
  | .url => Text.ofString "URL"
  | .json sec => sec.name

/-- The keyword of a name. Names are written in capital letters. -/
def ofName? (token : Text) : Option Keyword := all.find? (·.name = token)

@[simp] theorem ofName?_name (k : Keyword) : ofName? k.name = some k := by
  rcases k with _ | _ | _ | _ | _ <;> decide

theorem ofName?_eq_some_iff {token : Text} {k : Keyword} :
    ofName? token = some k ↔ token = k.name := by
  constructor
  · intro h
    have h := List.find?_some h
    exact (of_decide_eq_true h).symm
  · rintro rfl
    exact ofName?_name k

/-- The section of a keyword, or what to say about a keyword that has none. -/
def sectionOrReason : Keyword → Except Text Section
  | .json sec => .ok sec
  | k => .error (k.name ++ Text.ofString " is not a JSON section")

end Keyword

/-- The method of a request. -/
inductive Method
  | get
  | post
deriving DecidableEq

namespace Method

/-- The methods that a statement may use. -/
def all : List Method := [.get, .post]

def name : Method → Text
  | .get => Text.ofString "GET"
  | .post => Text.ofString "POST"

/-- The method of a name. -/
def ofName? (token : Text) : Option Method := all.find? (·.name = token)

@[simp] theorem ofName?_name (m : Method) : ofName? m.name = some m := by
  cases m <;> decide

theorem ofName?_eq_some_iff {token : Text} {m : Method} :
    ofName? token = some m ↔ token = m.name := by
  constructor
  · intro h
    have h := List.find?_some h
    exact (of_decide_eq_true h).symm
  · rintro rfl
    exact ofName?_name m

end Method

end Courier
