import BigO.Settings

/-! Log entries. -/

namespace BigO

/-- An entry of the log: how serious it is, which part of the service wrote it, and what it says. -/
structure LogEntry where
  level : LogLevel
  logger : Text
  message : Text
deriving DecidableEq

namespace LogEntry

/-- An entry of the service itself. -/
def service (level : LogLevel) (message : Text) : LogEntry :=
  { level, logger := text "logiccraft", message }

/-- An entry of the walk along the rail of models. -/
def rail (level : LogLevel) (message : Text) : LogEntry :=
  { level, logger := text "providers.openrouter_provider", message }

/-- An entry of the reporter. -/
def reporter (level : LogLevel) (message : Text) : LogEntry :=
  { level, logger := text "complexity.ai_analyzer", message }

end LogEntry

end BigO
