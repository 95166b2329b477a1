/-!
# Messages

What the components report in words, in the order in which it happens.
-/

set_option autoImplicit false

namespace FlightGuidance

inductive Level where
  | debug
  | info
  | warn
  | error
  deriving DecidableEq, Repr

def Level.label : Level → String
  | debug => "debug"
  | info => "info"
  | warn => "warn"
  | error => "error"

structure Message where
  level : Level
  text : String
  deriving DecidableEq, Repr

/-- The level, a blank and the text. -/
def Message.render (message : Message) : String := message.level.label ++ " " ++ message.text

/-- The messages so far, the oldest first. -/
abbrev Journal := Array Message

end FlightGuidance
