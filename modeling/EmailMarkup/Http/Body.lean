import EmailMarkup.Json.Reader
import EmailMarkup.Text.Half

/-! The text of a JSON body. The zero bytes among the first four tell how many bytes there are to a unit, and which of
them comes first; without zero bytes a body is in UTF-8. -/
namespace EmailMarkup.Http

inductive Encoding where
  | utf8
  | utf16 (bigFirst : Bool)
  | utf32 (bigFirst : Bool)
  deriving DecidableEq, Repr

namespace Encoding

def ofBytes : List Nat → Encoding
  | [a, b] => if a = 0 then .utf16 true else if b = 0 then .utf16 false else .utf8
  | a :: b :: c :: d :: _ =>
      if a = 0 then (if b = 0 then .utf32 true else .utf16 true)
      else if b = 0 then (if c = 0 ∧ d = 0 then .utf32 false else .utf16 false)
      else .utf8
  | _ => .utf8

end Encoding

def number (bigFirst : Bool) (bytes : List Nat) : Nat :=
  (if bigFirst then bytes else bytes.reverse).foldl (fun n byte => 256 * n + byte) 0

def pairs (bigFirst : Bool) : List Nat → Option (List Nat)
  | a :: b :: rest => (pairs bigFirst rest).map (number bigFirst [a, b] :: ·)
  | [] => some []
  | _ => none

def quadruples (bigFirst : Bool) : List Nat → Option (List Nat)
  | a :: b :: c :: d :: rest =>
      let n := number bigFirst [a, b, c, d]
      if n ≤ 0x10ffff then (quadruples bigFirst rest).map (n :: ·) else none
  | [] => some []
  | _ => none

def bodyText (halves : Text.Halves) (body : String) : Option (List Char) :=
  let bytes := body.toUTF8.toList.map (·.toNat)
  match Encoding.ofBytes bytes with
  | .utf8 => some (Json.withoutMark body.toList)
  | .utf16 bigFirst => (pairs bigFirst bytes).map halves.chars
  | .utf32 bigFirst => (quadruples bigFirst bytes).map (·.map halves.char)

/-- How deep the lists and objects of a body may be nested. Each of them takes one of the thousand calls that the
interpreter lets be open inside each other, and the server of one version has the rest open when it reads a body. -/
def bodyDepth : Nat := 978

def escapedChars : List Char → List Char
  | [] => []
  | c :: rest => (Json.pair? (c :: rest)).toList ++ escapedChars rest

def bodyChars (body : String) : List Char :=
  let text := (bodyText .absent body).getD []
  text ++ escapedChars text

def readBody (halves : Text.Halves) (body : String) : Except Json.ReadError Json :=
  match bodyText halves body with
  | some text => Json.readWithin halves bodyDepth text
  | none => .error .malformed

end EmailMarkup.Http
