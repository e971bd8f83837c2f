import BigO.Validation
import BigO.Text.Lower

/-! The settings of the service and how environment variables give them. -/

namespace BigO

/-- How much is logged. -/
inductive LogLevel where
  | debug
  | info
  | warning
  | error
deriving DecidableEq

/-- The name of a level. -/
def LogLevel.name : LogLevel → Text
  | .debug => text "DEBUG"
  | .info => text "INFO"
  | .warning => text "WARNING"
  | .error => text "ERROR"

/-- The level with this very name. -/
def LogLevel.ofName? (name : Text) : Option LogLevel :=
  [LogLevel.debug, .info, .warning, .error].find? (·.name = name)

/-- The models that are asked where none are configured, in order. -/
def defaultModels : List Text :=
  ["google/gemini-2.0-flash-exp:free", "meta-llama/llama-3.3-70b-instruct:free",
    "mistralai/mistral-small-3.1-24b-instruct:free", "qwen/qwen2.5-72b-instruct:free",
    "deepseek/deepseek-chat:free"].map text

/-- The settings. -/
structure Settings where
  host : Text := text "0.0.0.0"
  tcpPort : Int := 8080
  debug : Bool := false
  logLevel : LogLevel := .info
  allowedOrigins : Text := text "http://localhost:3000,http://localhost:5173"
  maxRequestSize : Int := 1048576
  maxCodeLength : Int := 50000
  apiKey : Option Text := none
  models : Text := Text.join (text ",") defaultModels
  timeoutSeconds : Number := .float (.ofInt 30)
  maxTokens : Int := 1024
  temperature : Number := .float (.ofRatio false 1 10)
deriving DecidableEq

namespace Settings

/-- The entries of a comma-separated list, blanks at their ends and empty entries left out. -/
def entries (list : Text) : List Text :=
  ((list.splitOn ',').map Text.strip).filter fun entry => !entry.isEmpty

/-- The origins that browsers may call from; a star among them stands for all. -/
def origins (s : Settings) : List Text :=
  let listed := entries s.allowedOrigins
  if listed.contains (text "*") then [text "*"] else listed

/-- The models to ask, in order. -/
def rail (s : Settings) : List Text := entries s.models

/-- There is a key for the language-model service. -/
def aiEnabled (s : Settings) : Bool := s.apiKey.any (!·.isEmpty)

/-- The value of a variable. Names are compared in lower case, and the last of several counts. -/
def lookUp (environment : List (Text × Text)) (name : String) : Option Text :=
  (environment.reverse.find? fun entry => entry.1.lower = (text name).lower).map (·.2)

/-- A setting: the variable's value checked, or the default. -/
def setting {α : Type} (environment : List (Text × Text)) (name : String) (fallback : α)
    (check : Text → Checked α) : Checked α :=
  match lookUp environment name with
  | some value => (check value).under (.field (text name))
  | none => .valid fallback

/-- A truth value in a text. -/
def checkBool (t : Text) : Checked Bool :=
  match Lenient.readBool t with
  | some b => .valid b
  | none => .flaw .unreadableBool

/-- A number in a text. -/
def checkFloat (t : Text) : Checked Number :=
  match Lenient.readFloat t with
  | some x => .valid (.float x)
  | none => .flaw .unreadableFloat

/-- The name of a level. -/
def checkLevel (t : Text) : Checked LogLevel :=
  match LogLevel.ofName? t with
  | some level => .valid level
  | none => .flaw .notListed

/-- The settings that an environment gives. -/
def ofEnvironment (environment : List (Text × Text)) : Checked Settings :=
  let initial : Settings := {}
  let asIs := fun (t : Text) => (.valid t : Checked Text)
  Settings.mk
    <$> setting environment "HOST" initial.host asIs
    <*> setting environment "PORT" initial.tcpPort Check.textInteger
    <*> setting environment "DEBUG" initial.debug checkBool
    <*> setting environment "LOG_LEVEL" initial.logLevel checkLevel
    <*> setting environment "ALLOWED_ORIGINS" initial.allowedOrigins asIs
    <*> setting environment "MAX_REQUEST_SIZE" initial.maxRequestSize Check.textInteger
    <*> setting environment "MAX_CODE_LENGTH" initial.maxCodeLength Check.textInteger
    <*> setting environment "OPENROUTER_API_KEY" initial.apiKey (fun t => .valid (some t))
    <*> setting environment "OPENROUTER_MODELS" initial.models asIs
    <*> setting environment "AI_TIMEOUT_SECONDS" initial.timeoutSeconds checkFloat
    <*> setting environment "MAX_TOKENS" initial.maxTokens Check.textInteger
    <*> setting environment "TEMPERATURE" initial.temperature checkFloat

end Settings

end BigO
