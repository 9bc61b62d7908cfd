import Autoscaler.Log

/-!
# Log levels by number

The numbers 0 to 5 stand for log levels, from the quietest on.
-/

namespace Autoscaler

inductive LogLevel where
  | panic
  | fatal
  | error
  | warn
  | info
  | debug
deriving DecidableEq, Repr

namespace LogLevel

def ofNumber? (n : Int64) : Option LogLevel :=
  if n = 0 then some panic
  else if n = 1 then some fatal
  else if n = 2 then some error
  else if n = 3 then some warn
  else if n = 4 then some info
  else if n = 5 then some debug
  else none

def name : LogLevel → String
  | panic => "panic"
  | fatal => "fatal"
  | error => "error"
  | warn => "warning"
  | info => "info"
  | debug => "debug"

/-- The most that is logged; the three gravest levels are one there. -/
def limit : LogLevel → Log.Level
  | panic => .error
  | fatal => .error
  | error => .error
  | warn => .warn
  | info => .info
  | debug => .debug

def directive : LogLevel → String
  | panic => "error"
  | fatal => "error"
  | error => "error"
  | warn => "warn"
  | info => "info"
  | debug => "debug"

end LogLevel
end Autoscaler
