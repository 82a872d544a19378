import SchemaWipe.Breakdown

/-! Why settings cannot be used: production `ConfigError` and what is not caught. -/
namespace SchemaWipe.Settings

/-- What is missing or wrong in the settings: production `ConfigError`. -/
inductive Fault where
  | variableMissing (name : String)
  | envFileMissing (path : String)
  | envFileUndecodable (path : String)
  | configFileMissing (path : String)
  | configFileUnreadable (path : String)
  | notMapping
  | sectionNotMapping (name : String)
  | portNotInteger (shown : String)
  | portOutOfRange (port : Int)
  | timeoutNotInteger (shown : String)
  | timeoutNotPositive
  | notBoolean (field shown : String)
  | connectionBlank
  | connectionIncomplete (missing : List String)
  deriving DecidableEq

/-- What is said about a configuration file that cannot be read, whatever is wrong in it. -/
def unreadableDetail : String := "not a well-formed document"

/-- The explanation of a fault. -/
def Fault.message : Fault → String
  | variableMissing name => s!"Environment variable {name} is required but not set"
  | envFileMissing path => s!"Env file not found: {path}"
  | envFileUndecodable path => s!"Env file is not valid UTF-8: {path}"
  | configFileMissing path => s!"Config file not found: {path}"
  | configFileUnreadable path => s!"Could not parse config file {path}: {unreadableDetail}"
  | notMapping => "Config file must contain a mapping at the top level"
  | sectionNotMapping name => s!"Config section {name} must be a mapping"
  | portNotInteger shown => s!"Port must be an integer, got {shown}"
  | portOutOfRange port => s!"Port must be between 1 and 65535, got {port}"
  | timeoutNotInteger shown => s!"connect_timeout must be an integer, got {shown}"
  | timeoutNotPositive => "connect_timeout must be greater than 0"
  | notBoolean field shown => s!"{field} must be a boolean, got {shown}"
  | connectionBlank => "Connection host, user, and database are required"
  | connectionIncomplete missing =>
    "Connection is missing required fields: " ++ ", ".intercalate missing

/-- How reading settings fails. -/
inductive Error where
  | fault (cause : Fault)
  | breakdown (cause : Breakdown)
  deriving DecidableEq

/-- The explanation of a failure. -/
def Error.message : Error → String
  | fault cause => cause.message
  | breakdown cause => cause.message

end SchemaWipe.Settings
