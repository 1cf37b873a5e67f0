import ReleasePackaging.Fault
import ReleasePackaging.Hook.Basic
import ReleasePackaging.Logging.System

/-!
# The surroundings of a run

A run changes the file tree, reports events and calls a hook. Events go to a recorder, or to a named
logger of the logging system. What is done before a fault stays done.
-/
namespace ReleasePackaging

/-- An event: how serious it is, what happened, and its context. -/
structure Event where
  level : Logging.Level
  text : String
  context : Entries
  deriving Repr

inductive EventTarget where
  | recorder
  | logger (name : String)
  deriving DecidableEq, Repr

/-- The surroundings of a run: the file tree, the logging system, the events recorded and the calls
of the hook so far. -/
structure World where
  tree : FileTree
  logging : Logging.System
  events : List Event
  hookCalls : List HookCall

abbrev Action (ε α : Type) := ExceptT ε (StateM World) α

namespace Action

def onTree (action : TreeAction ε α) : Action ε α :=
  ExceptT.mk fun w =>
    let (result, tree) := action.run.run w.tree
    (result, { w with tree := tree })

/-- Something that may fail but changes nothing. -/
def ofResult (result : Except ε α) : Action ε α := ExceptT.mk fun w => (result, w)

/-- The outcome of an action, good or bad. -/
def outcome (action : Action ε α) : Action ε' (Except ε α) :=
  ExceptT.mk fun w =>
    let (result, w) := action.run.run w
    (.ok result, w)

end Action

def Event.emit (target : EventTarget) (e : Event) : Action Fault Unit :=
  ExceptT.mk fun w =>
    match target with
    | .recorder => (.ok (), { w with events := w.events ++ [e] })
    | .logger name =>
      let (result, logging, tree) := w.logging.report name e.level e.text e.context w.tree
      (result.mapError Fault.logging, { w with logging := logging, tree := tree })

end ReleasePackaging
