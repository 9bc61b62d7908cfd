import Autoscaler.Binary64.Shortest
import Autoscaler.Text.Quoted

/-!
# Log events

What the program reports while it runs: a level, the part that speaks, a message and named values.
-/

namespace Autoscaler.Log

inductive Level where
  | error
  | warn
  | info
  | debug
  | trace
deriving DecidableEq, Repr

namespace Level

def name : Level → String
  | error => "ERROR"
  | warn => "WARN"
  | info => "INFO"
  | debug => "DEBUG"
  | trace => "TRACE"

/-- How much a level lets through: the more, the higher. -/
def verbosity : Level → Nat
  | error => 1
  | warn => 2
  | info => 3
  | debug => 4
  | trace => 5

end Level

/-- The part of the program that an event comes from. -/
inductive Origin where
  | process
  | bootstrap
  | credentials
  | validation
  | controlLoop
  | scanner
  | lifecycle
  | stopSignal
deriving DecidableEq, Repr

def Origin.target : Origin → String
  | process => "nodescaler"
  | bootstrap => "nodescaler::bootstrap"
  | credentials => "nodescaler::k8s::client"
  | validation => "nodescaler::nodegroup::validation"
  | controlLoop => "nodescaler::controller::driver"
  | scanner => "nodescaler::controller::scanner"
  | lifecycle => "nodescaler::server::lifecycle"
  | stopSignal => "nodescaler::server::shutdown"

inductive Value where
  | shown (s : String)
  | name (s : String)
  | flag (b : Bool)
  | number (n : Int)
  | real (x : Binary64)
deriving DecidableEq, Repr

structure Event where
  level : Level
  origin : Origin
  message : String
  fields : List (String × Value) := []
deriving DecidableEq, Repr

def flagText (b : Bool) : String := if b then "true" else "false"

def Value.inLine : Value → String
  | shown s => s
  | name s => Text.quoted s
  | flag b => flagText b
  | number n => Text.ofInt n
  | real x => x.renderPointed

/-- An event as a line of text. -/
def Event.line (e : Event) : String :=
  e.level.name ++ " " ++ e.origin.target ++ ": " ++ e.message ++
    String.join (e.fields.map fun (name, value) => " " ++ name ++ "=" ++ value.inLine)

end Autoscaler.Log
