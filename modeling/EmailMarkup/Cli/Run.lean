import EmailMarkup.Cli.Command
import EmailMarkup.Component.Form
import EmailMarkup.Files.Collect
import EmailMarkup.Files.Content
import EmailMarkup.Gate
import EmailMarkup.Json.Writer
import EmailMarkup.Lint
import EmailMarkup.Settings
import EmailMarkup.Starter
import EmailMarkup.Stream.Replay

/-! What a command does to a tree of files and what it prints. A run that breaks off keeps what it printed before. -/
namespace EmailMarkup.Cli
open Files (World ContentError absoluteText)
open EmailMarkup.Stream (Replay ReplayError Progress)

inductive Failure where
  | settings (error : SettingsError)
  | content (error : ContentError)
  | format (error : Email.UnknownFormat)
  | replay (error : ReplayError)
  deriving Repr

inductive Ending where
  | exit (code : Nat)
  | failed (failure : Failure)
  | serving (host : String) (port : Int)
  deriving Repr

structure Outcome where
  printed : List String
  world : World
  ending : Ending
  records : Journal := []
  pause : Nat := 0

def Outcome.output (outcome : Outcome) : String := String.join (outcome.printed.map (· ++ "\n"))

def Outcome.after (outcome : Outcome) (records : Journal) : Outcome :=
  { outcome with records := records ++ outcome.records }

def refuse (world : World) (error : ContentError) : Outcome :=
  match error with
  | .file ⟨.notFound, path⟩ => { printed := ["File not found: " ++ path], world, ending := .exit 1 }
  | error => { printed := [], world, ending := .failed (.content error) }

def withSource (world : World) (file : String) (run : String → Outcome) : Outcome :=
  match world.read file with
  | .ok source => run source
  | .error error => refuse world error

def say (world : World) (code : Nat) (printed : List String) : Outcome := { printed, world, ending := .exit code }

def parse (world : World) (file : String) (ids : Ids) : Outcome :=
  withSource world file fun source =>
    (say world 0 [(Email.read source ids).1.toJson.indented 0]).after (Email.readRecords source)

structure Verdict where
  faults : List Fault
  issues : List Issue
  deriving Repr

namespace Verdict

def ofSource (limit : Int) (source : String) (ids : Ids) : Verdict :=
  ⟨Gate.faults source, Lint.issues limit (Email.read source ids).1⟩

def fails (verdict : Verdict) : Bool := !verdict.faults.isEmpty

def word (verdict : Verdict) : String :=
  if verdict.fails then "FAIL" else if verdict.issues.isEmpty then "OK  " else "WARN"

def lines (verdict : Verdict) (name : String) : List String :=
  (verdict.word ++ "  " ++ name) :: (verdict.faults.map fun fault => "  error: " ++ fault.message) ++
    verdict.issues.map fun issue => "  warning: " ++ issue.message

end Verdict

def judge (world : World) (limit : Int) (ids : Ids) : Bool → List Files.Location → Outcome
  | failed, [] => say world (if failed then 1 else 0) []
  | failed, location :: rest =>
      let name := absoluteText location
      match world.read name with
      | .ok source =>
          let verdict := Verdict.ofSource limit source ids
          let tail := judge world limit ids (failed || verdict.fails) rest
          { tail.after (Email.readRecords source) with printed := verdict.lines name ++ tail.printed }
      | .error error => refuse world error

def validate (world : World) (settings : Settings) (path : String) (ids : Ids) (folders : Nat) : Outcome :=
  match world.collect path folders with
  | .ok [] => say world 1 ["No JSX files found at " ++ path]
  | .ok files => judge world settings.maxTextLength ids false files
  | .error error => refuse world (.file error)

def deliver (world : World) (name content : String) (output : Option String) : Outcome :=
  match output.filter (· != "") with
  | none => say world 0 [content]
  | some target =>
      let attempt := world.write target content
      match attempt.failure with
      | none => say attempt.world 0 ["Wrote " ++ name ++ " export to " ++ (Files.Path.ofText target).text]
      | some error => refuse attempt.world (.file error)

def formatName (format : Option Format) : String := (format.map Format.name).getD "[]"

def render (world : World) (file : String) (format : Option Format) (output : Option String) (ids : Ids) : Outcome :=
  withSource world file fun source =>
    let (email, _) := Email.read source ids
    let name := formatName format
    let outcome := match email.exportAs name with
      | .ok content => deliver world name content output
      | .error error => { printed := [], world, ending := .failed (.format error) }
    outcome.after (Email.readRecords source ++ [email.exportRecord name])

def padded (width : Nat) (text : String) : String :=
  text ++ String.ofList (List.replicate (width - text.length) ' ')

def progressLine (progress : Progress) : String :=
  padded 16 (Text.quoted progress.chunk) ++ " -> " ++ toString progress.count ++ " components"

def stream (world : World) (settings : Settings) (file : String) (chunkSize delay : Option Int) (ids : Ids) :
    Outcome :=
  withSource world file fun source =>
    let size := match chunkSize with
      | some size => if size = 0 then settings.chunkSize else size
      | none => settings.chunkSize
    let pause := delay.getD settings.delay
    let replay := Replay.run source size pause ids
    let printed := replay.progress.map progressLine
    let outcome : Outcome := match replay.result with
      | .ok email => say world 0 (printed ++ ["Final: " ++ toString email.length ++ " components"])
      | .error error => { printed, world, ending := .failed (.replay error) }
    { outcome.after replay.records with pause := pause.toNat }

def templates (world : World) (name : Option String) : Outcome :=
  let all := Starter.all.map fun starter => padded 14 starter.key ++ " " ++ starter.name ++ " - " ++ starter.description
  match name with
  | none => say world 0 all
  | some "" => say world 0 all
  | some key =>
      match Starter.find? key with
      | some starter => say world 0 [starter.source]
      | none => say world 1 ["Unknown template: " ++ key]

def serve (world : World) (settings : Settings) (host : Option String) (port : Option Int) : Outcome :=
  { printed := []
    world
    ending := .serving ((host.filter (· != "")).getD settings.host) ((port.filter (· != 0)).getD settings.port) }

def Command.run (command : Command) (world : World) (settings : Settings) (ids : Ids) (folders : Nat) : Outcome :=
  match command with
  | .parse file => Cli.parse world file ids
  | .validate path => Cli.validate world settings path ids folders
  | .render file format output => Cli.render world file format output ids
  | .stream file chunkSize delay => Cli.stream world settings file chunkSize delay ids
  | .templates name => Cli.templates world name
  | .serve host port => Cli.serve world settings host port

/-- The arguments are judged before the settings are read, and the level is set before anything is done. The number is
that of the folders that can be walked inside each other. -/
def run (arguments : List String) (world : World) (environment : Environment) (ids : Ids)
    (folders : Nat := Files.foldersInside) : Outcome :=
  match Command.read arguments with
  | .error .usage => say world 2 []
  | .error .help => say world 0 []
  | .ok command =>
      match Settings.prepare environment with
      | .ok settings => command.run world settings ids folders
      | .error error => { printed := [], world, ending := .failed (.settings error) }

end EmailMarkup.Cli
