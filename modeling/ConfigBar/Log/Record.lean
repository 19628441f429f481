/-!
# Log records

A record has a level, a target that names the part of the program it comes from, a message and named
values.
-/

namespace ConfigBar

/-- How much a record matters, most first. -/
inductive LogLevel where
  | error
  | warn
  | info
  | debug
  | trace
  deriving DecidableEq, Repr

namespace LogLevel

/-- All levels. -/
def all : List LogLevel := [error, warn, info, debug, trace]

/-- The place of a level, from one. -/
def rank : LogLevel → Nat
  | error => 1
  | warn => 2
  | info => 3
  | debug => 4
  | trace => 5

/-- The name of a level in lines of the log. -/
def title : LogLevel → String
  | error => "ERROR"
  | warn => "WARN"
  | info => "INFO"
  | debug => "DEBUG"
  | trace => "TRACE"

/-- The name of a level on the command line. -/
def word : LogLevel → String
  | error => "error"
  | warn => "warn"
  | info => "info"
  | debug => "debug"
  | trace => "trace"

/-- The level with a given place. -/
def ofRank? (n : Nat) : Option LogLevel := all.find? fun l => l.rank = n

/-- The level with a given name on the command line. -/
def ofWord? (s : String) : Option LogLevel := all.find? fun l => l.word = s

end LogLevel

/-- A value in a record. -/
inductive LogValue where
  /-- A text that lines show between quotes. -/
  | text (value : String)
  /-- A text that lines show as it is. -/
  | shown (value : String)
  | number (value : Nat)
  | flag (value : Bool)
  deriving DecidableEq, Repr

/-- A record of the log. -/
structure LogRecord where
  level : LogLevel
  target : String
  message : String
  values : List (String × LogValue)
  deriving DecidableEq, Repr

/-- The names under which a record holds something, the message included. -/
def LogRecord.names (r : LogRecord) : List String := "message" :: r.values.map Prod.fst

end ConfigBar
