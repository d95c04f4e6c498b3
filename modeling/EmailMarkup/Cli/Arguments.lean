import EmailMarkup.Text.Digit

/-! Arguments of one command: switches with a value, and at most one operand. Long switches may be shortened as
long as they stay unambiguous. Two hyphens alone end the switches. -/
namespace EmailMarkup.Cli
open Text (digitValue?)

structure Switch where
  names : List String
  takesValue : Bool
  accepts : String → Bool

def Switch.help : Switch := ⟨["-h", "--help"], false, fun _ => false⟩

inductive Operand where
  | absent
  | required
  | optional
  deriving DecidableEq, Repr

structure Grammar where
  switches : List Switch
  operand : Operand

inductive UsageError where
  | usage
  | help
  deriving DecidableEq, Repr

/-- An argument by its look: the end mark, a word, a switch that may bring its value along, or switches of one letter
that run together behind one that takes no value. -/
inductive Token where
  | mark
  | word (text : String)
  | unknown
  | switch (known : Switch) (value : Option String)
  | letters (run : List Char)

def looksNegative (s : List Char) : Bool :=
  let isDigit := fun c => (digitValue? c).isSome
  match (if s.getLast? = some '\n' then s.dropLast else s) with
  | '-' :: rest =>
      let places := (rest.dropWhile isDigit).drop 1
      (!rest.isEmpty && rest.all isDigit) ||
        ((rest.dropWhile isDigit).head? == some '.' && !places.isEmpty && places.all isDigit)
  | _ => false

def splitValue (s : List Char) : List Char × Option String :=
  (s.takeWhile (· != '='), if '=' ∈ s then some (String.ofList ((s.dropWhile (· != '=')).drop 1)) else none)

namespace Grammar

def named? (grammar : Grammar) (name : String) : Option Switch :=
  grammar.switches.find? fun candidate => candidate.names.contains name

def candidates (grammar : Grammar) (s : List Char) : List (Switch × Option String) :=
  let (stem, value) := splitValue s
  let names := grammar.switches.flatMap fun candidate => candidate.names.map (candidate, ·)
  match s with
  | '-' :: '-' :: _ => (names.filter fun (_, name) => stem.isPrefixOf name.toList).map fun (known, _) => (known, value)
  | '-' :: c :: rest =>
      (names.filter fun (_, name) => name.toList == ['-', c] || s.isPrefixOf name.toList).map fun (known, name) =>
        (known, if name.toList = ['-', c] then some (String.ofList rest) else none)
  | _ => []

def tokenOf (s : List Char) (known : Switch) (value : Option String) : Token :=
  match s, value with
  | '-' :: c :: _, some run =>
      if known.takesValue ∨ c = '-' ∨ run = "" then .switch known value else .letters run.toList
  | _, _ => .switch known value

def classify (grammar : Grammar) (argument : String) : Except UsageError Token :=
  let s := argument.toList
  let (stem, value) := splitValue s
  if s.head? ≠ some '-' ∨ s.length = 1 then .ok (.word argument)
  else match grammar.named? argument, grammar.named? (String.ofList stem), value with
    | some known, _, _ => .ok (.switch known none)
    | none, some known, some value => .ok (tokenOf s known (some value))
    | _, _, _ =>
        match grammar.candidates s with
        | [(known, value)] => .ok (tokenOf s known value)
        | _ :: _ :: _ => .error .usage
        | [] => if looksNegative s ∨ ' ' ∈ s then .ok (.word argument) else .ok .unknown

/-- How letters behind a call for help end: with that help, unless one of them is unknown or the last lacks its value. -/
def ending (grammar : Grammar) (wordFollows : Bool) : List Char → UsageError
  | [] => .help
  | c :: rest =>
      match grammar.named? (String.ofList ['-', c]) with
      | none => .usage
      | some known =>
          if !known.takesValue then ending grammar wordFollows rest
          else if rest.isEmpty && !wordFollows then .usage
          else .help

def tokens (grammar : Grammar) : List String → Except UsageError (List Token)
  | [] => .ok []
  | "--" :: rest => .ok (.mark :: rest.map .word)
  | argument :: rest => do
      let head ← grammar.classify argument
      let tail ← tokens grammar rest
      .ok (head :: tail)

end Grammar

/-- What has been read of a command's arguments. A switch whose value is the end mark is given and yet blank. -/
structure Arguments where
  operand : Option String := none
  values : List (String × Option String) := []
  surplus : Bool := false
  deriving Repr

namespace Arguments

def value? (arguments : Arguments) (name : String) : Option String := (arguments.values.lookup name).join

def isBlank (arguments : Arguments) (name : String) : Bool := arguments.values.lookup name == some none

def put (arguments : Arguments) (known : Switch) (value : Option String) : Arguments :=
  { arguments with values := (known.names.getLast?.getD "", value) :: arguments.values }

def set (arguments : Arguments) (known : Switch) (value : String) : Except UsageError Arguments :=
  if known.accepts value then .ok (arguments.put known (some value)) else .error .usage

def setOwn (arguments : Arguments) (known : Switch) (value : String) : Except UsageError Arguments :=
  if value = "--" then .ok (arguments.put known none) else arguments.set known value

def wordFollows : List Token → Bool
  | .word _ :: _ => true
  | _ => false

def take (awaited : Operand) (word : String) (arguments : Arguments) : Arguments :=
  if awaited = .absent then { arguments with surplus := true } else { arguments with operand := some word }

/-- The end mark directly before or behind an operand belongs to it, and also stands for an operand that may be
missing. -/
def consume (grammar : Grammar) (awaited : Operand) : List Token → Arguments → Except UsageError Arguments
  | [], arguments => .ok arguments
  | .unknown :: rest, arguments => consume grammar awaited rest { arguments with surplus := true }
  | .letters run :: rest, _ => .error (grammar.ending (wordFollows rest) run)
  | .switch known (some value) :: rest, arguments => do
      if !known.takesValue then throw .usage
      consume grammar awaited rest (← arguments.setOwn known value)
  | .switch known none :: .word value :: rest, arguments => do
      if !known.takesValue then throw .help
      consume grammar awaited rest (← arguments.set known value)
  | .switch known none :: _, _ => .error (if known.takesValue then .usage else .help)
  | .mark :: .word word :: rest, arguments => consume grammar .absent rest (take awaited word arguments)
  | .mark :: rest, arguments =>
      consume grammar awaited rest { arguments with surplus := arguments.surplus || awaited != .optional }
  | .word word :: .mark :: rest, arguments =>
      consume grammar .absent rest (take awaited word arguments)
  | .word word :: rest, arguments => consume grammar .absent rest (take awaited word arguments)

def read (grammar : Grammar) (given : List String) : Except UsageError Arguments := do
  let tokens ← grammar.tokens given
  let arguments ← consume grammar grammar.operand tokens {}
  if arguments.surplus || (grammar.operand == .required && arguments.operand.isNone) then throw .usage
  return arguments

end Arguments
end EmailMarkup.Cli
