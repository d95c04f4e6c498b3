import EmailMarkup.Json.Basic

/-! When two JSON values count as equal: numbers by value, truth values as 0 and 1, lists place by place, objects
by their members in any order. A value that is not a number equals nothing when it stands alone, but inside a
list or an object it counts as one value. -/
namespace EmailMarkup.Json
open Number (Binary64)

inductive Atom where
  | whole (n : Int)
  | real (x : Binary64)

def atom? : Json → Option Atom
  | .bool b => some (.whole (if b then 1 else 0))
  | .int n => some (.whole n)
  | .float x => some (.real x)
  | _ => none

def Atom.equals : Atom → Atom → Bool
  | .whole m, .whole n => m == n
  | .whole n, .real x => x.equalsInt n
  | .real x, .whole n => x.equalsInt n
  | .real x, .real y => x.equals y

def sameItem : Json → Json → Bool
  | .null, .null => true
  | .str s, .str t => s == t
  | .float .nan, .float .nan => true
  | .list xs, .list ys => sameItems xs ys
  | .object ms, .object ns => ms.length == ns.length && sameMembers ms ns
  | a, b => match atom? a, atom? b with
      | some x, some y => x.equals y
      | _, _ => false
where
  sameItems : List Json → List Json → Bool
    | [], [] => true
    | x :: xs, y :: ys => sameItem x y && sameItems xs ys
    | _, _ => false
  sameMembers : List (String × Json) → List (String × Json) → Bool
    | [], _ => true
    | (key, value) :: rest, ns =>
        (match ns.lookup key with
          | some other => sameItem value other
          | none => false) && sameMembers rest ns

def same : Json → Json → Bool
  | .float .nan, .float .nan => false
  | a, b => sameItem a b

end EmailMarkup.Json
