import Protogen.Text.Quoted

/-!
# Events

What a run reports about itself while it goes on. An event has a level, a part of
the program that it comes from, a message and named fields, and `Event.line`
writes all of it in one line.
-/

namespace Protogen

inductive Level
  | error
  | warn
  | info
  | debug
  | trace
  deriving DecidableEq, Repr

namespace Level

def name : Level → String
  | error => "ERROR"
  | warn => "WARN"
  | info => "INFO"
  | debug => "DEBUG"
  | trace => "TRACE"

/-- How much is reported at a level: its own events and all more urgent ones. -/
def rank : Level → Nat
  | error => 1
  | warn => 2
  | info => 3
  | debug => 4
  | trace => 5

end Level

/-- The value of a field. In a line a quoted one stands between quotes. -/
inductive FieldValue
  | plain (text : String)
  | quoted (text : String)
  | count (n : Nat)
  deriving DecidableEq, Repr

def FieldValue.text : FieldValue → String
  | plain text => text
  | quoted text => Text.quoted text
  | count n => toString n

inductive Event
  | datasetFound (name codeName : String)
  | descriptorFetched (slug : String) (files : Nat)
  | descriptorPrepared (file package : String)
  | requestBuilt (file : String) (files : Nat)
  | fileDiscarded (name : String)
  | fileWritten (path : String)
  | invalidConfiguration (error : String)
  | generationFailed (error : String)
  deriving DecidableEq, Repr

namespace Event

def level : Event → Level
  | datasetFound _ _ | requestBuilt _ _ => .debug
  | descriptorFetched _ _ | descriptorPrepared _ _ | fileWritten _ => .info
  | fileDiscarded _ => .warn
  | invalidConfiguration _ | generationFailed _ => .error

/-- The part of the program that the event comes from. -/
def target : Event → String
  | datasetFound _ _ => "tilebox_generate::fetch"
  | invalidConfiguration _ | generationFailed _ => "tilebox_generate"
  | _ => "tilebox_generate::pipeline"

def message : Event → String
  | datasetFound _ _ => "dataset found"
  | descriptorFetched _ _ => "dataset descriptor fetched"
  | descriptorPrepared _ _ => "descriptor rewritten"
  | requestBuilt _ _ => "generation request built"
  | fileDiscarded _ => "discarding additional generated file"
  | fileWritten _ => "file written"
  | invalidConfiguration _ => "invalid configuration"
  | generationFailed _ => "generation failed"

def fields : Event → List (String × FieldValue)
  | datasetFound name codeName => [("name", .plain name), ("code_name", .plain codeName)]
  | descriptorFetched slug files => [("slug", .quoted slug), ("files", .count files)]
  | descriptorPrepared file package => [("file", .plain file), ("package", .quoted package)]
  | requestBuilt file files => [("file", .plain file), ("files", .count files)]
  | fileDiscarded name => [("file", .quoted name)]
  | fileWritten path => [("path", .plain path)]
  | invalidConfiguration error | generationFailed error => [("error", .plain error)]

/-- The event in one line. -/
def line (e : Event) : String :=
  e.level.name ++ " " ++ e.target ++ ": " ++ e.message ++
    String.join (e.fields.map fun (name, value) => " " ++ name ++ "=" ++ value.text)

end Event

end Protogen
