import EmailMarkup.Cli.Arguments
import EmailMarkup.Export.Format
import EmailMarkup.Number.Numeral

/-! The commands of the command line, read from its arguments. -/
namespace EmailMarkup.Cli
open Number (Numeral.read)

inductive Command where
  | parse (file : String)
  | validate (path : String)
  | render (file : String) (format : Option Format) (output : Option String)
  | stream (file : String) (chunkSize delay : Option Int)
  | templates (name : Option String)
  | serve (host : Option String) (port : Option Int)
  deriving Repr

def numeral? (text : String) : Option Int := (Numeral.read text).toOption

def text (name : String) : Switch := ⟨[name], true, fun _ => true⟩

def number (name : String) : Switch := ⟨[name], true, fun value => (numeral? value).isSome⟩

def choice (name : String) (choices : List String) : Switch := ⟨[name], true, choices.contains⟩

def grammar? : String → Option Grammar
  | "parse" => some ⟨[.help], .required⟩
  | "validate" => some ⟨[.help], .required⟩
  | "export" =>
      some ⟨[.help, choice "--format" Format.names, ⟨["-o", "--output"], true, fun _ => true⟩], .required⟩
  | "stream" => some ⟨[.help, number "--chunk-size", number "--delay-ms"], .required⟩
  | "templates" => some ⟨[.help], .optional⟩
  | "serve" => some ⟨[.help, text "--host", number "--port"], .absent⟩
  | _ => none

def Arguments.number? (arguments : Arguments) (name : String) : Option Int := (arguments.value? name).bind numeral?

def Arguments.format? (arguments : Arguments) : Option Format :=
  if arguments.isBlank "--format" then none
  else ((arguments.value? "--format").bind Format.ofName?).getD .html

def Arguments.delay? (arguments : Arguments) : Option Int :=
  if arguments.isBlank "--delay-ms" then some 0 else arguments.number? "--delay-ms"

def Command.ofArguments (name : String) (arguments : Arguments) : Option Command :=
  let operand := arguments.operand.getD ""
  match name with
  | "parse" => some (.parse operand)
  | "validate" => some (.validate operand)
  | "export" => some (.render operand arguments.format? (arguments.value? "--output"))
  | "stream" => some (.stream operand (arguments.number? "--chunk-size") arguments.delay?)
  | "templates" => some (.templates arguments.operand)
  | "serve" => some (.serve (arguments.value? "--host") (arguments.number? "--port"))
  | _ => none

/-- The first word names the command in full. Before it only a call for help is understood; an unknown switch
there spoils the line, but help asked for later still comes first. -/
def Command.read : List String → Except UsageError Command
  | [] => .error .usage
  | "--" :: _ => .error .usage
  | name :: rest =>
      match grammar? name with
      | some grammar => do
          let arguments ← Arguments.read grammar rest
          match Command.ofArguments name arguments with
          | some command => .ok command
          | none => .error .usage
      | none =>
          match Grammar.classify ⟨[.help], .absent⟩ name with
          | .ok (.switch _ none) => .error .help
          | .ok (.letters run) => .error (Grammar.ending ⟨[.help], .absent⟩ false run)
          | .ok .unknown => match read rest with
              | .error .help => .error .help
              | _ => .error .usage
          | _ => .error .usage

end EmailMarkup.Cli
