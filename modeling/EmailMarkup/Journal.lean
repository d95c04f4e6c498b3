import EmailMarkup.Text.Quoted

/-! Records of what happened during a call: how grave, where, and what. -/
namespace EmailMarkup

inductive Level where
  | debug
  | info
  | warning
  | error
  deriving DecidableEq, Repr

def Level.name : Level → String
  | .debug => "DEBUG"
  | .info => "INFO"
  | .warning => "WARNING"
  | .error => "ERROR"

def Level.rank : Level → Nat
  | .debug => 10
  | .info => 20
  | .warning => 30
  | .error => 40

inductive Channel where
  | parsing
  | mapping
  | streaming
  | editing
  | exporting
  | serving
  deriving DecidableEq, Repr

def Channel.name : Channel → String
  | .parsing => "core.jsx_parser"
  | .mapping => "core.component_mapper"
  | .streaming => "core.streaming_parser"
  | .editing => "core.agent_api"
  | .exporting => "exporters.export_builder"
  | .serving => "web.app"

inductive Piece where
  | plain (text : String)
  | quoted (text : String)
  deriving DecidableEq, Repr

def Piece.write (halves : Text.Halves) : Piece → String
  | .plain text => text
  | .quoted text => Text.quotedIn halves text

structure Record where
  level : Level
  channel : Channel
  pieces : List Piece
  deriving DecidableEq, Repr

def Record.message (halves : Text.Halves) (record : Record) : String :=
  String.join (record.pieces.map (Piece.write halves))

def Record.line (halves : Text.Halves) (record : Record) : String :=
  record.level.name ++ ":" ++ record.channel.name ++ ":" ++ record.message halves

abbrev Journal := List Record

def Journal.above (journal : Journal) (level : Nat) : Journal := journal.filter fun record => level ≤ record.level.rank

end EmailMarkup
