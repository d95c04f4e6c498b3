import EmailMarkup.Json.Reader
import EmailMarkup.Text.Utf8

/-! The path of a request: what stands before a query or a fragment, with percent signs and two hexadecimal digits
standing for bytes. -/
namespace EmailMarkup.Http

def percentDecode : List Nat → List Nat
  | 0x25 :: a :: b :: rest =>
      match Json.hexValue? (Char.ofNat a), Json.hexValue? (Char.ofNat b) with
      | some high, some low => (16 * high + low) :: percentDecode rest
      | _, _ => 0x25 :: percentDecode (a :: b :: rest)
  | byte :: rest => byte :: percentDecode rest
  | [] => []

def withoutHost : List Char → List Char
  | '/' :: '/' :: rest => rest.dropWhile fun c => c != '/' && c != '?' && c != '#'
  | s => s

def withoutScheme (s : List Char) : List Char :=
  let inScheme := fun (c : Char) => c.isAlphanum || c == '+' || c == '-' || c == '.'
  match s.dropWhile inScheme with
  | ':' :: rest => if s.head?.any Char.isAlpha then rest else s
  | _ => s

def addressPath (target : List Char) : List Char :=
  let shown := (target.dropWhile fun c => c.toNat ≤ 0x20).filter fun c => c != '\t' && c != '\n' && c != '\r'
  (withoutHost (withoutScheme shown)).takeWhile fun c => c != '?' && c != '#'

/-- The path proper of a request target. The path of the address is taken for an address once more. -/
def targetPath (target : List Char) : List Char := addressPath (addressPath target)

def decodePath (target : String) : List Char :=
  let encoded := (String.ofList (targetPath target.toList)).toUTF8.toList.map (·.toNat)
  Text.decodeLossy (percentDecode encoded)

def segments (path : List Char) : List String :=
  ((path.dropWhile (· == '/')).splitOn '/').map String.ofList

def mergeSlashes : List Char → List Char
  | [] => []
  | c :: rest => if c = '/' ∧ rest.head? = some '/' then mergeSlashes rest else c :: mergeSlashes rest

end EmailMarkup.Http
