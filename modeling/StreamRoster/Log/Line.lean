/-!
# Log Lines

What the program reports about its own work: a level and a message.

## Main definitions

* `Log.Level`: How urgent a line is.
* `Log.Line`: A level and a message.
-/

namespace StreamRoster

namespace Log

/-- How urgent a line is. -/
inductive Level where
  | trace
  | debug
  | info
  | warn
  | error
  deriving DecidableEq, Repr

/-- The name of a level at the head of a line. -/
def Level.label : Level → String
  | .trace => "TRACE"
  | .debug => "DEBUG"
  | .info => "INFO"
  | .warn => "WARN"
  | .error => "ERROR"

/-- A level and a message. -/
structure Line where
  level : Level
  message : String
  deriving DecidableEq, Repr

namespace Line

def trace (message : String) : Line := ⟨.trace, message⟩

def debug (message : String) : Line := ⟨.debug, message⟩

def info (message : String) : Line := ⟨.info, message⟩

def warn (message : String) : Line := ⟨.warn, message⟩

def error (message : String) : Line := ⟨.error, message⟩

/-- A line as it is shown. -/
def text (line : Line) : String := line.level.label ++ " " ++ line.message

end Line

end Log

end StreamRoster
