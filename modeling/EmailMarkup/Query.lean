import EmailMarkup.Editor
import EmailMarkup.Report
import EmailMarkup.Text.Case
import EmailMarkup.Text.Search

/-! Questions about an email, for those who look for a component without a rendered page. -/
namespace EmailMarkup.Email

def byId? (email : Email) (id : Json) : Option Component := email.find? (·.id.same id)

def byKind (email : Email) (kind : Kind) : List Component := email.filter (·.kind == kind)

def byIndex? (email : Email) (index : Int) : Option Component :=
  if 0 ≤ index then email[index.toNat]? else none

def indexFrom (id : Json) : Int → Email → Int
  | _, [] => -1
  | place, component :: rest => if component.id.same id then place else indexFrom id (place + 1) rest

def indexById (email : Email) (id : Json) : Int := indexFrom id 0 email

def holds (email : Email) (id : Json) : Bool := email.indexById id != -1

def search (email : Email) (test : Component → Nat → Bool) : List Component :=
  (email.zipIdx.filter fun (component, index) => test component index).map (·.1)

def searchOne? (email : Email) (test : Component → Nat → Bool) : Option Component := (email.search test).head?

def prose? : Props → Option String
  | .heading h => some h.text
  | .text t => some t.text
  | _ => none

def address? : Props → Option String
  | .button b => some b.href
  | .image i => some i.src
  | _ => none

def byText (email : Email) (needle : String) (caseSensitive : Bool) : List Component :=
  let fold := if caseSensitive then id else Text.lower
  email.filter fun component =>
    (prose? component.props).any fun text => Text.occurs (fold needle.toList) (fold text.toList)

def byAddress (email : Email) (needle : String) : List Component :=
  email.filter fun component =>
    (address? component.props).any fun address => Text.occurs needle.toList address.toList

def tally (counts : List (Kind × Nat)) (kind : Kind) : List (Kind × Nat) :=
  counts.map fun (other, count) => (other, if other = kind then count + 1 else count)

def countByKind (email : Email) : List (Kind × Nat) :=
  email.foldl (fun counts component => tally counts component.kind) (Kind.all.map (·, 0))

/-- The first components. A negative number leaves out that many at the end. -/
def first (email : Email) (n : Int) : List Component :=
  if n < 0 then email.take (email.length - n.natAbs) else email.take n.toNat

def last (email : Email) (n : Int) : List Component :=
  if 0 < n then email.drop (email.length - n.toNat) else []

structure Metadata where
  total : Nat
  counts : List (Kind × Nat)
  ids : List Json
  kinds : List Kind

def Metadata.countsJson (counts : List (Kind × Nat)) : Json :=
  .object (counts.map fun (kind, count) => (kind.name, .int count))

def Metadata.toJson (metadata : Metadata) : Json :=
  .object [("totalComponents", .int metadata.total), ("componentsByType", countsJson metadata.counts),
    ("componentIds", .list metadata.ids), ("componentTypes", .texts (metadata.kinds.map Kind.name))]

def metadata (email : Email) : Metadata :=
  ⟨email.length, email.countByKind, email.map (·.id), email.map (·.kind)⟩

end EmailMarkup.Email
