import BigO.Service.Endpoint

/-! How the service is launched, and what it logs around its run. -/

namespace BigO.Service

/-- What the service logs when it starts. -/
def startLog (s : Settings) : List LogEntry :=
  [.service .info (text "LogicCraft analyzer v" ++ version ++ text " starting"),
    if s.aiEnabled then
      .service .info
        (text "AI reports enabled (models: " ++ Text.join (text ", ") s.rail ++ text ")")
    else .service .warning (text "OPENROUTER_API_KEY not configured - AI reports disabled")]

/-- What the service logs when it stops. -/
def stopLog : List LogEntry := [.service .info (text "Shutting down")]

/-- How the service is handed to the server that runs it. -/
structure Launch where
  application : Text
  host : Text
  tcpPort : Int
  reload : Bool
  logLevel : Text

/-- The launch that the settings ask for. -/
def Launch.ofSettings (s : Settings) : Launch :=
  { application := text "backend.app.main:app", host := s.host, tcpPort := s.tcpPort
    reload := s.debug, logLevel := s.logLevel.name.lower }

/-- What is logged before the launch. -/
def launchLog (s : Settings) : List LogEntry :=
  [.service .info (text "Starting LogicCraft analyzer on " ++ s.host ++ text ":" ++
    Text.ofInt s.tcpPort)]

end BigO.Service
