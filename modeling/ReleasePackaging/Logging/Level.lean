import ReleasePackaging.Text.LowerCase
import ReleasePackaging.Value.Literal

/-!
# How serious an event is

The levels of events in order, with their names and numbers. A setting names a level in any letter
case; whatever is no name of a level means the level of information, if it can be spelled out at all.
-/
namespace ReleasePackaging.Logging

/-- The levels of events, the least serious first. -/
inductive Level where
  | debug | info | warning | error | critical
  deriving DecidableEq, Repr, Inhabited

namespace Level

def all : List Level := [.debug, .info, .warning, .error, .critical]

/-- The number of a level; a greater one is more serious. -/
def number : Level → Nat
  | .debug => 10
  | .info => 20
  | .warning => 30
  | .error => 40
  | .critical => 50

def name : Level → String
  | .debug => "debug"
  | .info => "info"
  | .warning => "warning"
  | .error => "error"
  | .critical => "critical"

def ofName? (name : String) : Option Level := all.find? fun l => l.name == name

def ofSetting (v : Value) : Except Number.IntegerFault Level := do
  return (ofName? (Text.lower (← v.plainText))).getD .info

/-- Whether an event of a level passes where at least another level is asked for. -/
def passes (threshold level : Level) : Bool := threshold.number ≤ level.number

end Level

end ReleasePackaging.Logging
