import Protogen.Artifact
import Protogen.Catalog.FetchError
import Protogen.Overrides
import Protogen.Request.Validation

/-!
# Failures of a run

A run goes through five stages and ends in the first that fails. Nothing is tried
again, and nothing is taken back.
-/

namespace Protogen

open Catalog Request

inductive Stage
  | fetch
  | prepare
  | validate
  | generate
  | write
  deriving DecidableEq, Repr

def Stage.name : Stage → String
  | fetch => "fetch"
  | prepare => "rewrite"
  | validate => "validate"
  | generate => "generate"
  | write => "write"

inductive Failure
  /-- The catalog does not deliver the dataset. -/
  | unfetched (slug : String) (cause : FetchError)
  | malformed (cause : PreconditionError)
  | invalid (cause : ValidationError)
  /-- What the generator says, or why it says nothing. -/
  | ungenerated (text : String)
  | unwritten (cause : ArtifactError)
  deriving DecidableEq, Repr

namespace Failure

def stage : Failure → Stage
  | unfetched _ _ => .fetch
  | malformed _ => .prepare
  | invalid _ => .validate
  | ungenerated _ => .generate
  | unwritten _ => .write

def message : Failure → String
  | unfetched slug cause => "failed to get dataset " ++ slug ++ ": " ++ cause.message
  | malformed cause => "malformed dataset descriptor: " ++ cause.message
  | invalid cause => "failed to validate request: " ++ cause.message
  | ungenerated text => "failed to generate code: " ++ text
  | unwritten cause => cause.message

/-- The messages of what lies behind a failure, from the outside in, although the
message of the failure may tell them already. -/
def causes : Failure → List String
  | unfetched _ cause => cause.message :: cause.causes
  | invalid cause => [cause.message]
  | unwritten cause => [cause.causeMessage]
  | malformed _ | ungenerated _ => []

/-- A failure with its stage and everything behind it. -/
def report (f : Failure) : String :=
  ": ".intercalate ((f.stage.name ++ " stage failed") :: f.message :: f.causes)

end Failure

end Protogen
