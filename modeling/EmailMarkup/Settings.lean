import EmailMarkup.Number.Numeral
import EmailMarkup.Text.Case
import EmailMarkup.Text.Quoted

/-! Settings read from an environment of named texts. A name that is missing or empty leaves a number at its default.
The numbers are read in a fixed order, and the first that cannot be read is the error. The level of the records that
are shown is looked up by its name only when it is set. -/
namespace EmailMarkup
open Number (Numeral.read)

structure Settings where
  host : String := "127.0.0.1"
  port : Int := 5000
  logLevel : String := "INFO"
  chunkSize : Int := 5
  delay : Int := 50
  maxTextLength : Int := 1000
  deriving DecidableEq, Repr

inductive SettingsError where
  | notNumber (name value : String)
  | noChunk
  | unknownLevel (value : String)
  | notLevel (shown : String)
  deriving DecidableEq, Repr

def SettingsError.message : SettingsError → String
  | .notNumber name value => name ++ " must be an integer, got " ++ Text.quoted value
  | .noChunk => "EMAIL_BUILDER_STREAM_CHUNK_SIZE must be at least 1"
  | .unknownLevel value => "Unknown level: " ++ Text.quoted value
  | .notLevel shown => "Level not an integer or a valid string: " ++ shown

abbrev Environment := List (String × String)

namespace Settings

def variableNames : List String :=
  ["PORT", "EMAIL_BUILDER_HOST", "EMAIL_BUILDER_LOG_LEVEL", "EMAIL_BUILDER_STREAM_CHUNK_SIZE",
    "EMAIL_BUILDER_STREAM_DELAY_MS", "EMAIL_BUILDER_MAX_TEXT_LENGTH"]

def number (environment : Environment) (name : String) (initial : Int) : Except SettingsError Int :=
  match environment.lookup name with
  | none => .ok initial
  | some "" => .ok initial
  | some value =>
      match Numeral.read value with
      | .ok n => .ok n
      | .error _ => .error (.notNumber name value)

def load (environment : Environment) : Except SettingsError Settings := do
  let initial : Settings := {}
  let port ← number environment "PORT" initial.port
  let chunkSize ← number environment "EMAIL_BUILDER_STREAM_CHUNK_SIZE" initial.chunkSize
  let delay ← number environment "EMAIL_BUILDER_STREAM_DELAY_MS" initial.delay
  let maxTextLength ← number environment "EMAIL_BUILDER_MAX_TEXT_LENGTH" initial.maxTextLength
  if chunkSize < 1 then throw .noChunk
  return {
    host := (environment.lookup "EMAIL_BUILDER_HOST").getD initial.host
    port
    logLevel := match environment.lookup "EMAIL_BUILDER_LOG_LEVEL" with
      | some level => String.ofList (Text.upper level.toList)
      | none => initial.logLevel
    chunkSize
    delay
    maxTextLength }

def levels : List (String × Nat) :=
  [("CRITICAL", 50), ("FATAL", 50), ("ERROR", 40), ("WARNING", 30), ("WARN", 30), ("INFO", 20), ("DEBUG", 10),
    ("NOTSET", 0)]

def initialLevel : Nat := 20

def recordFormat : String := "%(levelname)s:%(name)s:%(message)s"

def recordStyles : String :=
  "\x7b'%': (<class 'logging.PercentStyle'>, '%(levelname)s:%(name)s:%(message)s'), " ++
    "'\x7b': (<class 'logging.StrFormatStyle'>, '\x7blevelname\x7d:\x7bname\x7d:\x7bmessage\x7d'), " ++
    "'$': (<class 'logging.StringTemplateStyle'>, '$\x7blevelname\x7d:$\x7bname\x7d:$\x7bmessage\x7d')\x7d"

/-- Levels share their names with the format of records and the table of its styles, which are no levels. -/
def level (settings : Settings) : Except SettingsError Nat :=
  match settings.logLevel with
  | "BASIC_FORMAT" => .error (.unknownLevel recordFormat)
  | "_STYLES" => .error (.notLevel recordStyles)
  | name => .ok ((levels.lookup name).getD initialLevel)

def prepare (environment : Environment) : Except SettingsError Settings := do
  let settings ← load environment
  let _ ← settings.level
  return settings

theorem levelNamed {settings : Settings} (levelled : settings.logLevel ∉ ["BASIC_FORMAT", "_STYLES"]) :
    settings.level = .ok ((levels.lookup settings.logLevel).getD initialLevel) := by
  simp only [List.mem_cons, List.not_mem_nil, or_false, not_or] at levelled
  rw [level]
  split
  · exact absurd ‹_› levelled.1
  · exact absurd ‹_› levelled.2
  · rfl

theorem prepareLevelled {environment : Environment} {settings : Settings} (loaded : load environment = .ok settings)
    (levelled : settings.logLevel ∉ ["BASIC_FORMAT", "_STYLES"]) : prepare environment = .ok settings := by
  rw [prepare, loaded]
  dsimp only [bind, Except.bind]
  rw [levelNamed levelled]
  rfl

theorem prepareRefused {environment : Environment} {settings : Settings} (loaded : load environment = .ok settings)
    {error : SettingsError} (refused : settings.level = .error error) : prepare environment = .error error := by
  rw [prepare, loaded]
  dsimp only [bind, Except.bind]
  rw [refused]

end Settings
end EmailMarkup
