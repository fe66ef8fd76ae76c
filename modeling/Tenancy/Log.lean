import Tenancy.Text.LetterCase
import Tenancy.Text.Numeral
import Tenancy.Text.Quoted

/-!
# Log lines

What the operations log, how a line is laid out, and how the level of a logger is set.
-/

namespace Tenancy

/-- The severity of a log line. `notSet` is a level of loggers only. -/
inductive Level where
  | notSet
  | debug
  | info
  | warning
  | error
  | critical
  deriving DecidableEq, Repr

namespace Level

/-- The rank of a level; higher is more severe. -/
def rank : Level → Nat
  | .notSet => 0
  | .debug => 10
  | .info => 20
  | .warning => 30
  | .error => 40
  | .critical => 50

/-- The name of a level. -/
def name : Level → String
  | .notSet => "NOTSET"
  | .debug => "DEBUG"
  | .info => "INFO"
  | .warning => "WARNING"
  | .error => "ERROR"
  | .critical => "CRITICAL"

/-- The level that a name in capitals stands for; two levels have a second name. -/
def ofName? (name : String) : Option Level :=
  match name with
  | "NOTSET" => some .notSet
  | "DEBUG" => some .debug
  | "INFO" => some .info
  | "WARN" | "WARNING" => some .warning
  | "ERROR" => some .error
  | "FATAL" | "CRITICAL" => some .critical
  | _ => none

end Level

/-- A line of the log: its level, the logger it comes from, and its text. -/
structure LogLine where
  level : Level
  source : String
  message : String
  deriving DecidableEq, Repr

namespace LogLine

/-- Level, logger and text. -/
def summary (l : LogLine) : String :=
  l.level.name ++ " " ++ l.source ++ " " ++ l.message

/-- The line as it is written out at `time`, with the account on whose behalf it was logged. -/
def layout (time : String) (account : Option Int) (l : LogLine) : String :=
  time ++ " - [account:" ++ (account.map Text.decimal).getD "-" ++ "] - " ++ l.level.name ++
    " - " ++ l.source ++ " - " ++ l.message

end LogLine

/-- A logger: its level and the number of its handlers. -/
structure Logger where
  level : Level := .notSet
  handlers : Nat := 0
  deriving DecidableEq, Repr

/-- The level of a logger that is not told another one. -/
def defaultLevelName : String := "INFO"

/-- Gives the logger the level of that name, in any case, and a handler if it has none. An absent
or empty name stands for the default. An unknown name changes nothing and is handed back in
capitals. -/
def Logger.configure (logger : Logger) (name : Option String) : Except String Logger :=
  let chosen := match name with
    | some text => if text.isEmpty then defaultLevelName else text
    | none => defaultLevelName
  let capitals := String.ofList (Text.upper chosen.toList)
  match Level.ofName? capitals with
  | none => .error capitals
  | some level => .ok { level, handlers := max logger.handlers 1 }

/-- Wording for a level name that is unknown. -/
def Logger.unknownLevel (capitals : String) : String :=
  "Unknown level: " ++ String.ofList (Text.quoted capitals.toList)

end Tenancy
