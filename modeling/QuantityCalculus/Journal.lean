/-
# Journal

Calculators and sessions record what a log shows: each record has a level, the name of
the log it belongs to, and a text.
-/

import QuantityCalculus.Units.Text

namespace QuantityCalculus

/-- Something worth a line in a log. -/
inductive Event where
  | evaluationFailed (message : String)
  | unitReplaced (name : String)
  | outputReplaced (display previous base : Units)
  | sessionsPurged (count : Nat)
  | sessionEvicted (id : String)
  | sessionCreated (id kind : String)
  | sessionDeleted (id : String)

namespace Event

/-- The level that an event is logged at. -/
def level : Event → String
  | evaluationFailed _ => "DEBUG"
  | _ => "INFO"

/-- The log that an event belongs to. -/
def log : Event → String
  | evaluationFailed _ | unitReplaced _ | outputReplaced .. => "unitcalc.workspace"
  | _ => "unitcalc.sessions"

/-- The text of an event. -/
def text : Event → String
  | evaluationFailed message => "evaluation failed: " ++ message
  | unitReplaced name => "replacing input unit " ++ name
  | outputReplaced display previous base =>
    "output unit " ++ display.text ++ " replaces " ++ previous.text ++ " for " ++ base.text
  | sessionsPurged count => "purged " ++ toString count ++ " expired session(s)"
  | sessionEvicted id => "evicted session " ++ id ++ " to stay within capacity"
  | sessionCreated id kind => "created session " ++ id ++ " (" ++ kind ++ ")"
  | sessionDeleted id => "deleted session " ++ id

/-- An event as a line: level, log and text. -/
def line (e : Event) : String := e.level ++ " " ++ e.log ++ ": " ++ e.text

end Event
end QuantityCalculus
