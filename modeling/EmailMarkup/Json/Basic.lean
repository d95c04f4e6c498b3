import EmailMarkup.Number.Binary64

/-! JSON values. Whole numbers are apart from floating-point ones, and an object keeps the order of its
members. -/
namespace EmailMarkup
open Number (Binary64)

inductive Json where
  | null
  | bool (b : Bool)
  | int (n : Int)
  | float (x : Binary64)
  | str (s : String)
  | list (items : List Json)
  | object (members : List (String × Json))
  deriving Repr

namespace Json

mutual

def identical : Json → Json → Bool
  | .null, .null => true
  | .bool b, .bool c => b == c
  | .int m, .int n => m == n
  | .float x, .float y => x == y
  | .str s, .str t => s == t
  | .list xs, .list ys => identicalItems xs ys
  | .object ms, .object ns => identicalMembers ms ns
  | _, _ => false

def identicalItems : List Json → List Json → Bool
  | [], [] => true
  | x :: xs, y :: ys => identical x y && identicalItems xs ys
  | _, _ => false

def identicalMembers : List (String × Json) → List (String × Json) → Bool
  | [], [] => true
  | (key, x) :: ms, (other, y) :: ns => key == other && identical x y && identicalMembers ms ns
  | _, _ => false

end

mutual

theorem identicalIff : ∀ a b, identical a b = true ↔ a = b
  | .null, b => by cases b <;> simp [identical]
  | .bool _, b => by cases b <;> simp [identical]
  | .int _, b => by cases b <;> simp [identical]
  | .float _, b => by cases b <;> simp [identical]
  | .str _, b => by cases b <;> simp [identical]
  | .list xs, b => by cases b <;> simp [identical, identicalItemsIff xs]
  | .object ms, b => by cases b <;> simp [identical, identicalMembersIff ms]

theorem identicalItemsIff : ∀ xs ys, identicalItems xs ys = true ↔ xs = ys
  | [], ys => by cases ys <;> simp [identicalItems]
  | x :: xs, ys => by cases ys <;> simp [identicalItems, identicalIff x, identicalItemsIff xs]

theorem identicalMembersIff : ∀ ms ns, identicalMembers ms ns = true ↔ ms = ns
  | [], ns => by cases ns <;> simp [identicalMembers]
  | (key, x) :: ms, ns => by
      rcases ns with _ | ⟨⟨other, y⟩, ns⟩ <;> simp [identicalMembers, identicalIff x, identicalMembersIff ms]

end

instance : DecidableEq Json := fun a b => decidable_of_iff (identical a b = true) (identicalIff a b)

def insert (members : List (String × Json)) (key : String) (value : Json) : List (String × Json) :=
  match members with
  | [] => [(key, value)]
  | (name, old) :: rest =>
      if name = key then (name, value) :: rest else (name, old) :: insert rest key value

def isTruthy : Json → Bool
  | .null => false
  | .bool b => b
  | .int n => n != 0
  | .float x => !x.isZero
  | .str s => s != ""
  | .list items => !items.isEmpty
  | .object members => !members.isEmpty

def kindName : Json → String
  | .null => "NoneType"
  | .bool _ => "bool"
  | .int _ => "int"
  | .float _ => "float"
  | .str _ => "str"
  | .list _ => "list"
  | .object _ => "dict"

end Json
end EmailMarkup
