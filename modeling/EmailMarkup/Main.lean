import EmailMarkup.Cli.Run
import EmailMarkup.Http.Server

/-! The program: it loads the part of the file system that a command looks at, runs the command on that and puts the
result into effect. Served requests come one a line, as a method, a target and a JSON body. -/
namespace EmailMarkup.Main
open Cli (Command)
open Files (Location Node World absoluteText)

def named : Command → List String × Option String
  | .parse file => ([file], none)
  | .validate path => ([], some path)
  | .render file _ output => (file :: output.toList, none)
  | .stream file _ _ => ([file], none)
  | _ => ([], none)

def visited (location : Location) : List String → List Location
  | [] => [location]
  | "." :: rest => location :: visited location rest
  | name :: rest => location :: visited (Files.descend location name) rest

def isFolder (location : Location) : IO Bool := do
  let folder ← IO.currentDir
  return ← (folder / absoluteText location).isDir

def isThere (location : Location) : IO Bool := do
  let folder ← IO.currentDir
  return ← (folder / absoluteText location).pathExists

def entryNames (location : Location) : IO (List String) := do
  let folder ← IO.currentDir
  return (← (folder / absoluteText location).readDir).toList.map (·.fileName)

def loadShallow (world : World) (location : Location) : IO World := do
  if (world.top.find? location).isSome then return world
  if ← isFolder location then return world.put location (.folder [])
  if ← isThere location then return world.put location (.file (← IO.FS.readBinFile (absoluteText location)))
  return world

partial def loadDeep (world : World) (location : Location) : IO World := do
  let world ← loadShallow world location
  if !(← isFolder location) then return world
  let shown := (← entryNames location).filter (!Files.isHidden ·)
  shown.foldlM (fun world name => do
    let inner := location ++ [name]
    if Files.isTemplate name || (← isFolder inner) then loadDeep world inner else return world) world

def load (command : Command) : IO World := do
  let working := (Files.slashed (← IO.currentDir).toString).filter (· != "")
  let homes := (← IO.getEnv "HOME").toList.map ("", ·)
  let empty : World := ⟨.folder [], working, homes⟩
  let world ← (visited [] working).foldlM loadShallow empty
  let (files, below) := named command
  let locations := files.flatMap fun path => visited (world.start path) (Files.steps path)
  let world ← locations.foldlM loadShallow world
  match below with
  | some path =>
      match world.normalize path with
      | .ok base => loadDeep (← (visited [] base.dropLast).foldlM loadShallow world) base
      | .error _ => return world
  | none => return world

def store (old new : World) : IO Unit :=
  (new.top.files []).forM fun (location, bytes) => do
    let known := match old.top.find? location with
      | some (.file previous) => previous.toList == bytes.toList
      | _ => false
    if !known then
      IO.FS.createDirAll (absoluteText location.dropLast)
      IO.FS.writeBinFile (absoluteText location) bytes

def environment : IO Environment :=
  Settings.variableNames.filterMapM fun name => do
    return (← IO.getEnv name).map (name, ·)

def freshIds : IO Ids := do
  let seed ← IO.getRandomBytes 12
  let digits := fun (width n : Nat) =>
    let shown := Nat.toDigits 16 n
    String.ofList (List.replicate (width - shown.length) '0' ++ shown)
  let front := String.join (seed.toList.map fun byte => digits 2 byte.toNat)
  return ⟨fun n => .str (front ++ digits 8 n), 1⟩

def printAll (pause : Nat) : List String → IO Unit
  | [] => return
  | [piece] => IO.println piece
  | piece :: rest => do
      IO.println piece
      IO.sleep pause.toUInt32
      printAll pause rest

def requestOf (line : String) : Http.Request :=
  match line.trimAscii.toString.splitOn " " with
  | method :: target :: body => ⟨method, target, some "application/json", " ".intercalate body⟩
  | _ => ⟨"GET", "/", none, ""⟩

partial def serve (settings : Settings) (ids : Ids) : IO Unit := do
  let line ← (← IO.getStdin).getLine
  if line.isEmpty then return
  let request := requestOf line
  let answer := Http.answer request settings ids
  let body := match answer.body with
    | some value => value.compactIn request.halves
    | none => ""
  IO.println (toString answer.status ++ " " ++ answer.mediaType ++ " " ++ body)
  (← IO.getStdout).flush
  serve settings (← freshIds)

def messageOf : Cli.Failure → String
  | .settings error => error.message
  | .content (.file error) => error.message
  | .content .encoding => "The file is not in UTF-8"
  | .format error => error.message
  | .replay error => error.message

def run (arguments : List String) : IO UInt32 := do
  let given ← environment
  let ids ← freshIds
  let world ← match Command.read arguments with
    | .ok command => load command
    | .error _ => pure ⟨.folder [], [], []⟩
  let outcome := Cli.run arguments world given ids
  if let .ok level := Settings.load given >>= Settings.level then
    (outcome.records.above level).forM fun record => IO.eprintln (record.line .absent)
  printAll outcome.pause outcome.printed
  store world outcome.world
  match outcome.ending with
  | .exit code => return code.toUInt32
  | .failed failure =>
      IO.eprintln (messageOf failure)
      return 1
  | .serving host port =>
      IO.eprintln ("Answering for " ++ host ++ ":" ++ toString port)
      match Settings.load given with
      | .ok settings => serve settings ids
      | .error _ => return 1
      return 0

end EmailMarkup.Main

def main (arguments : List String) : IO UInt32 := EmailMarkup.Main.run arguments
