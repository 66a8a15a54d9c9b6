import Protogen.Exchange
import Protogen.Files.OsError
import Protogen.Text.Blank
import Protogen.Text.Utf8

/-!
# Plugins

A plugin is a program that is given an encoded request as its input and writes an
encoded answer. What counts is how it ends: with a failure it is asked no
further, and what it wrote to its error output is reported; otherwise its output
is the answer. It need not have read all of its input, or any: that its input
breaks off is no fault, while any other fault of writing it keeps an answer from
being trusted.
-/

namespace Protogen

namespace Plugin

open Files Wire

inductive ExitStatus
  | code (value : Nat)
  | signal (number : Nat)
  deriving DecidableEq, Repr

namespace ExitStatus

/-- The names of the signals from number 1 on. -/
def signalNames : List String :=
  ["SIGHUP", "SIGINT", "SIGQUIT", "SIGILL", "SIGTRAP", "SIGABRT", "SIGBUS", "SIGFPE", "SIGKILL",
   "SIGUSR1", "SIGSEGV", "SIGUSR2", "SIGPIPE", "SIGALRM", "SIGTERM", "SIGSTKFLT", "SIGCHLD",
   "SIGCONT", "SIGSTOP", "SIGTSTP", "SIGTTIN", "SIGTTOU", "SIGURG", "SIGXCPU", "SIGXFSZ",
   "SIGVTALRM", "SIGPROF", "SIGWINCH", "SIGIO", "SIGPWR", "SIGSYS"]

def signalName? (number : Nat) : Option String :=
  if number = 0 then none else signalNames[number - 1]?

def text : ExitStatus → String
  | code value => "exit status: " ++ toString value
  | signal number =>
    "signal: " ++ toString number ++
      ((signalName? number).map fun name => " (" ++ name ++ ")").getD ""

def isSuccess (status : ExitStatus) : Bool := status = code 0

end ExitStatus

/-- What a program does with an input. -/
structure Execution where
  /-- How many bytes of the input it reads. -/
  taken : Nat
  output : List UInt8
  errors : List UInt8
  status : ExitStatus
  deriving DecidableEq, Repr

abbrev Program := List UInt8 → Execution

/-- Why writing the input of a program ends before all of it is written. -/
inductive WriteFault
  /-- Nobody can read the rest any more. -/
  | brokenPipe
  | refused (cause : OsError)
  deriving DecidableEq, Repr

/-- How writing the input ends for a program that reads so much of it. What a program
leaves unread may still find room in the pipe or not; here it never does. -/
def Execution.writing (e : Execution) (input : List UInt8) : Except WriteFault Unit :=
  if e.taken < input.length then .error .brokenPipe else .ok ()

/-- What counts of how writing ended. A program need not wait for its input. -/
def tolerated : Except WriteFault Unit → Except OsError Unit
  | .ok () | .error .brokenPipe => .ok ()
  | .error (.refused cause) => .error cause

/-- Why there is no answer from the plugin of the given name. -/
inductive PluginError
  | unstarted (plugin : String) (cause : OsError)
  | failed (plugin : String) (status : ExitStatus) (errors : String)
  | unwritten (plugin : String) (cause : OsError)
  | undecodable (plugin : String) (cause : DecodeError)
  deriving DecidableEq, Repr

def PluginError.message : PluginError → String
  | unstarted plugin cause => "failed to run plugin " ++ plugin ++ ": " ++ cause.message
  | failed plugin status errors =>
    "plugin " ++ plugin ++ " exited with " ++ status.text ++ ": " ++ errors
  | unwritten plugin cause =>
    "failed to write request to plugin " ++ plugin ++ ": " ++ cause.message
  | undecodable plugin cause =>
    "failed to decode response from plugin " ++ plugin ++ ": " ++ cause.message

/-- The answer that an execution amounts to, given how writing its input ended. -/
def Execution.answer (plugin : String) (writing : Except WriteFault Unit) (e : Execution) :
    Except PluginError GeneratorResponse :=
  if e.status.isSuccess then do
    (tolerated writing).mapError (.unwritten plugin)
    (GeneratorResponse.decode e.output).mapError (.undecodable plugin)
  else .error (.failed plugin e.status (Text.trim (Text.ofUtf8Lossy e.errors)))

/-- The input of a plugin that is asked. -/
def input (request : GeneratorRequest) : List UInt8 := request.encode

/-- The answer of a plugin, which may be impossible to start. -/
def generate (plugin : String) (started : Except OsError Program) (request : GeneratorRequest) :
    Except PluginError GeneratorResponse :=
  match started with
  | .ok program =>
    let e := program (input request)
    e.answer plugin (e.writing (input request))
  | .error cause => .error (.unstarted plugin cause)

end Plugin

end Protogen
