import SchemaWipe.Value.Shown
import SchemaWipe.Named
import SchemaWipe.Text.LetterCase
import SchemaWipe.Settings.Basic

/-! What is logged and from which level on: production `configure_logging`, `log_extra` and
`connection_extra`. The level is set once: later attempts find the log set up already and change
nothing. -/
namespace SchemaWipe.Log

/-- How serious a record is. -/
inductive Level where
  | debug
  | info
  | warning
  deriving DecidableEq

/-- The number of a level. -/
def Level.number : Level → Nat
  | debug => 10
  | info => 20
  | warning => 30

/-- The name of a level. -/
def Level.name : Level → String
  | debug => "DEBUG"
  | info => "INFO"
  | warning => "WARNING"

/-- A record: what happened, and further fields about it. -/
structure Record where
  level : Level
  message : String
  fields : Named Value

/-- The name of the log. -/
def name : String := "schema_reset.client"

/-- The fields that have a value: production `log_extra`. -/
def present (fields : Named Value) : Named Value :=
  fields.filter fun
    | (_, .null) => false
    | _ => true

/-- The fields that tell where a connection leads, and further ones: production `connection_extra`.
The password is never among them. -/
def connectionFields (c : Connection) (more : Named Value) : Named Value :=
  present ([("host", .text c.host), ("port", .int c.port), ("database", .text c.database),
    ("db_user", .text c.user)] ++ more)

/-- A text that may be missing, as a field. -/
def optional : Option String → Value
  | some s => .text s
  | none => .null

/-- How a record is written: time, level, log and message. -/
def format : String := "%(asctime)s %(levelname)s %(name)s %(message)s"

/-- The format of a log that was never given one. -/
def basicFormat : String := "%(levelname)s:%(name)s:%(message)s"

/-- The time of every record. -/
def time : String := "1970-01-01 00:00:00,000"

/-- A record as a line. -/
def Record.line (r : Record) : String :=
  time ++ " " ++ r.level.name ++ " " ++ name ++ " " ++ r.message ++ "\n"

/-- How the log is set up: the least number that is logged, and whether records are written. -/
structure Setup where
  level : Nat := 30
  writing : Bool := false
  deriving DecidableEq

/-- The formats of the handlers that write records. -/
def Setup.handlers (setup : Setup) : List String :=
  if setup.writing then [format] else []

/-- The numbers that names of levels stand for. -/
def levels : Named Nat :=
  [("CRITICAL", 50), ("FATAL", 50), ("ERROR", 40), ("WARNING", 30), ("WARN", 30), ("INFO", 20),
    ("DEBUG", 10), ("NOTSET", 0)]

/-- The styles that formats are written in: the mark of the fields in each, its kind, and its format
of a log that was never given one. -/
def styles : List (String × String × String) :=
  [("%", "PercentStyle", basicFormat),
    ("\x7b", "StrFormatStyle", "\x7blevelname\x7d:\x7bname\x7d:\x7bmessage\x7d"),
    ("$", "StringTemplateStyle", "$\x7blevelname\x7d:$\x7bname\x7d:$\x7bmessage\x7d")]

/-- The styles as they are shown. -/
def stylesText : String :=
  let shown := styles.map fun (mark, kind, format) =>
    s!"{Text.quoted mark}: (<class 'logging.{kind}'>, {Text.quoted format})"
  "\x7b" ++ ", ".intercalate shown ++ "\x7d"

/-- Names that stand for something other than a level, and why they cannot be one. -/
def misnomers : Named Breakdown :=
  [("BASIC_FORMAT", .logLevel basicFormat), ("_STYLES", .logLevelKind stylesText)]

/-- No name of a level stands for anything else. -/
theorem misnomers_get?_of_level {word : String} {number : Nat}
    (named : levels.get? word = some number) : misnomers.get? word = none := by
  by_cases format : word = "BASIC_FORMAT"
  · subst format
    cases named
  · by_cases styles : word = "_STYLES"
    · subst styles
      cases named
    · simp [misnomers, Named.get?, Ne.symm format, Ne.symm styles]

/-- Sets the log up for a level, whose name may be in any case. A name that stands for nothing means
INFO; one that stands for something other than a level is refused, but by then the log writes its
records. -/
def Setup.configure (setup : Setup) (level : String) : Except Breakdown Unit × Setup :=
  if setup.writing then (.ok (), setup)
  else
    let word := Text.upper level
    match misnomers.get? word with
    | some cause => (.error cause, { setup with writing := true })
    | none => (.ok (), ⟨(levels.get? word).getD 20, true⟩)

/-- Whether a record is logged. -/
def Setup.passes (setup : Setup) (r : Record) : Bool :=
  setup.level ≤ r.level.number

end SchemaWipe.Log
