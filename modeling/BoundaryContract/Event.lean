/-!
# Events

What a call leaves in the log, as data: a level, a title and named fields in the order they were
given. A field named `message` takes the place of the title as the event's message.
-/

namespace BoundaryContract

/-- How important an event is. -/
inductive Level
  | trace
  | debug
  | info
  | warn
  | error
deriving DecidableEq

/-- The content of an event's field. -/
inductive Detail
  | int (n : Int)
  | bool (b : Bool)
  | text (s : String)
deriving DecidableEq

/-- Something recorded while a call is served. -/
structure Event where
  level : Level
  title : String
  fields : List (String × Detail)
deriving DecidableEq

/-- The message of an event: its field of that name, or else its title. -/
def Event.message (e : Event) : Detail :=
  (e.fields.lookup "message").getD (.text e.title)

/-- The name of a level in the log. -/
def Level.name : Level → String
  | .trace => "TRACE"
  | .debug => "DEBUG"
  | .info => "INFO"
  | .warn => "WARN"
  | .error => "ERROR"

end BoundaryContract
