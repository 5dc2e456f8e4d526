namespace Beamline.Telemetry

structure Config where
  serviceName : String := "pixsim"
  /-- The filter of log lines. -/
  logLevel : String := "info"
  consoleOutput : Bool := true
  jsonLogs : Bool := false
  threadIds : Bool := false
  deriving DecidableEq, Repr, Inhabited

namespace Config

/-- The text with ASCII letters in lower case. No other letter turns into one of ASCII's that
occurs in `false` or `true`. -/
def lower (text : String) : String :=
  String.ofList (text.toList.map Char.toLower)

/-- Whether a text switches something on. -/
def isOn (text : String) : Bool :=
  lower text == "true" || text == "1"

/-- Whether a text does not switch something off. -/
def isNotOff (text : String) : Bool :=
  lower text != "false" && text != "0"

/-- The defaults with the variables that are set. -/
def ofEnvironment (lookup : String → Option String) : Config :=
  let preset : Config := {}
  { serviceName := (lookup "PIXSIM_SERVICE_NAME").getD preset.serviceName
    logLevel := ((lookup "PIXSIM_LOG_LEVEL").or (lookup "RUST_LOG")).getD preset.logLevel
    consoleOutput := ((lookup "PIXSIM_CONSOLE_OUTPUT").map isNotOff).getD preset.consoleOutput
    jsonLogs := ((lookup "PIXSIM_JSON_LOGS").map isOn).getD preset.jsonLogs
    threadIds := ((lookup "PIXSIM_THREAD_IDS").map isOn).getD preset.threadIds }

end Config

end Beamline.Telemetry
