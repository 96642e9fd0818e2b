import DocQuery.Json.Record

/-! # The journal

One line of JSON for each event that is grave enough: the event, its severity, and its
fields in order of their keys. -/
namespace DocQuery

/-- How grave an event is. -/
inductive Severity where
  | trace
  | info
  | warn
  | error
  deriving DecidableEq

namespace Severity

def rank : Severity → Nat
  | .trace => 0
  | .info => 1
  | .warn => 2
  | .error => 3

/-- The word for a severity. -/
def word : Severity → String
  | .trace => "TRACE"
  | .info => "INFO"
  | .warn => "WARN"
  | .error => "ERROR"

def ofWord? : String → Option Severity
  | "TRACE" => some .trace
  | "INFO" => some .info
  | "WARN" => some .warn
  | "ERROR" => some .error
  | _ => none

theorem ofWord?_word (s : Severity) : ofWord? s.word = some s := by cases s <;> rfl

def ofJson? (emptyContent : Bool) (j : Json) : Option Severity :=
  (j.word? emptyContent).bind ofWord?

end Severity

namespace Journal

/-- Fields in order of their keys, those with equal keys as they were. -/
def sorted (fields : List (String × String)) : List (String × String) :=
  fields.mergeSort fun a b => decide (a.1 ≤ b.1)

/-- A text in quotes. -/
def quoted (s : String) : String := (Json.str s).text

/-- A line with a field added at its end. -/
def addField (line : String) (field : String × String) : String :=
  line ++ "," ++ quoted field.1 ++ ":" ++ quoted field.2

/-- The line of an event, put together from quoted pieces. -/
def line (severity : Severity) (name : String) (fields : List (String × String)) : String :=
  let start := r#"{"event":"# ++ quoted name ++ r#","severity":""# ++ severity.word ++ "\""
  (sorted fields).foldl addField start ++ r"}" ++ "\n"

/-- What is written for an event: its line if it is as grave as the threshold. -/
def write (threshold severity : Severity) (name : String) (fields : List (String × String)) :
    String :=
  if threshold.rank ≤ severity.rank then line severity name fields else ""

end Journal
end DocQuery
