import DeclaredSettings.Value

/-!
Log events: what an object reports while it is worked on, and what a program reports when it
ends itself.
-/

namespace DeclaredSettings

/-- How serious an event is. -/
inductive Event.Level where
  | trace
  | debug
  | warn
  | error
  deriving DecidableEq, Repr

/-- Something that is logged. -/
inductive Event where
  /-- A name was used that the type does not declare; it is logged as it was spelt. -/
  | undeclared (owner : String) (spelling : String)
  /-- So many settings are laid over an object's own. -/
  | configuring (owner : String) (keys : Nat)
  /-- So many settings are filled in. -/
  | fillingIn (owner : String) (keys : Nat)
  /-- A failure was passed over. -/
  | suppressed (error : String)
  /-- A value was shown. -/
  | dumped (text : String)
  /-- The program ends with this status. -/
  | dying (message : String) (status : Int)
  deriving DecidableEq, Repr

namespace Event

/-- The level of an event. -/
def level : Event → Level
  | undeclared .. => .trace
  | configuring .. => .debug
  | fillingIn .. => .debug
  | suppressed _ => .warn
  | dumped _ => .debug
  | dying .. => .error

/-- The message of an event. -/
def message : Event → String
  | undeclared .. => "undeclared attribute"
  | configuring .. => "applying configuration"
  | fillingIn .. => "merging defaults"
  | suppressed _ => "suppressed error"
  | dumped text => text
  | dying message _ => message

/-- The fields that are logged beside the message. -/
def fields : Event → List (String × Value)
  | undeclared owner spelling => [("key", .str spelling), ("owner", .str owner)]
  | configuring owner keys => [("keys", .int keys), ("owner", .str owner)]
  | fillingIn owner keys => [("keys", .int keys), ("owner", .str owner)]
  | suppressed error => [("error", .str error)]
  | dumped _ => []
  | dying _ status => [("exit_code", .int status)]

end Event

/-- A program's own end: each message is logged, and the system sees the status modulo
256.
-/
structure Death where
  messages : List String
  status : Int

namespace Death

/-- The status of a program that names none. -/
def defaultStatus : Int := 255

/-- What is logged. -/
def events (death : Death) : List Event :=
  death.messages.map (.dying · death.status)

/-- The status that the system sees. -/
def systemStatus (death : Death) : Int :=
  death.status % 256

end Death

end DeclaredSettings
