/-
# Diagnostics

Records of what a run does, in the order in which it does it.
-/

namespace MemWatch

/-- How much a record matters. -/
inductive LogLevel where
  | debug
  | warn
deriving DecidableEq, Repr

/-- The word for a level in front of a record. -/
def LogLevel.name : LogLevel → String
  | debug => "DEBUG"
  | warn => "WARN"

/-- A diagnostic record. -/
structure LogRecord where
  level : LogLevel
  text : String
deriving DecidableEq, Repr

namespace LogRecord

/-- A record of the lower level. -/
def debug (text : String) : LogRecord :=
  ⟨.debug, text⟩

/-- A record of the higher level. -/
def warn (text : String) : LogRecord :=
  ⟨.warn, text⟩

/-- A record as one line of text, without the line end. -/
def line (r : LogRecord) : String :=
  r.level.name ++ " " ++ r.text

end LogRecord

end MemWatch
