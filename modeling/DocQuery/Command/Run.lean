import DocQuery.Command.Arguments
import DocQuery.Command.Config
import DocQuery.Plan.Json
import DocQuery.Request.Json

/-! # Running a command

A command loads its configuration, reads one request and answers it.  A refused query is
an answer like any other; a command fails only if there is no request to answer. -/
namespace DocQuery

/-- Why a command fails. -/
inductive CommandError where
  | config (e : ConfigError)
  /-- The input cannot be read. -/
  | input (reason : String)
  | request (e : RequestError)
  deriving DecidableEq

namespace CommandError

def code : CommandError → String
  | .config _ => "DOCWIRE_CLI_CONFIG_ERROR"
  | .input _ => "DOCWIRE_CLI_IO_ERROR"
  | .request _ => "DOCWIRE_CLI_INVALID_REQUEST"

def message : CommandError → String
  | .config e => e.message
  | .input reason => reason
  | .request e => e.message

/-- The line that reports an error. -/
def report (e : CommandError) : String := e.code ++ ": " ++ e.message

end CommandError

/-- What a command leaves behind. -/
structure Outcome where
  stdout : String := ""
  stderr : String := ""
  failure : Option (Failure CommandError) := none

/-- The request on the input. -/
def Request.ofBytes (input : ByteArray) : Except CommandError Request :=
  match String.fromUTF8? input with
  | none => .error (.input notText)
  | some s => (Request.parse s).mapError .request

/-- The planner that a file configures and the request on the input. -/
def Command.load (file : File) (input : ByteArray) : Except CommandError (Planner × Request) := do
  let p ← (Planner.load file).mapError .config
  let r ← Request.ofBytes input
  pure (p, r)

namespace Mode

/-- What is printed for a plan. -/
def showPlan : Mode → Plan → String
  | .compile, plan => (Json.obj [("status", .str "ok"), ("data", plan.toJson)]).text ++ "\n"
  | .explain, plan => plan.outline

/-- What is printed for a refusal. -/
def showRefusal : Mode → Refusal → String
  | .compile, r =>
      (Json.obj [("status", .str "error"), ("code", .str r.code),
        ("message", .str r.message)]).text ++ "\n"
  | .explain, r => r.outline

/-- Runs a command on the content of its configuration and the bytes of its input. -/
def run (mode : Mode) (file : File) (input : ByteArray) : Outcome :=
  match Command.load file input with
  | .error e => { failure := some (.refused e) }
  | .ok (p, r) =>
      let journal := p.journal (r.task p)
      match p.answer r with
      | .ok plan => { stdout := mode.showPlan plan, stderr := journal }
      | .error (.refused refusal) => { stdout := mode.showRefusal refusal, stderr := journal }
      | .error (.outOfBounds size index) =>
          { stderr := journal, failure := some (.outOfBounds size index) }

end Mode
end DocQuery
