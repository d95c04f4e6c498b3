import EmailMarkup.Json.Basic

/-! The components an email is made of. Each kind has a record of its own for its properties, and a component that
nobody has filled in yet has the default of every field. -/
namespace EmailMarkup

inductive Kind where
  | heading
  | text
  | button
  | image
  | divider
  deriving DecidableEq, Repr

namespace Kind

def all : List Kind := [.heading, .text, .button, .image, .divider]

def name : Kind → String
  | .heading => "heading"
  | .text => "text"
  | .button => "button"
  | .image => "image"
  | .divider => "divider"

def ofName? (name : String) : Option Kind := all.find? (·.name == name)

def tags : List (String × Kind) :=
  [("Heading", .heading), ("Text", .text), ("Button", .button), ("Img", .image), ("Image", .image),
    ("Hr", .divider), ("Divider", .divider)]

def ofTag? (tag : String) : Option Kind := tags.lookup tag

def tag : Kind → String
  | .heading => "Heading"
  | .text => "Text"
  | .button => "Button"
  | .image => "Img"
  | .divider => "Hr"

theorem ofTagTag (kind : Kind) : ofTag? kind.tag = some kind := by cases kind <;> rfl

theorem ofNameName (kind : Kind) : ofName? kind.name = some kind := by cases kind <;> rfl

end Kind

def headingLevels : List String := ["h1", "h2", "h3", "h4"]

def alignments : List String := ["left", "center", "right"]

structure Heading where
  text : String := "Your Heading Here"
  level : String := "h2"
  align : String := "left"
  color : String := "#000000"
  fontSize : String := "24px"
  deriving DecidableEq, Repr

structure TextBlock where
  text : String := "Your text content here..."
  align : String := "left"
  color : String := "#000000"
  fontSize : String := "14px"
  deriving DecidableEq, Repr

structure Button where
  text : String := "Click Me"
  href : String := "https://example.com"
  backgroundColor : String := "#3b82f6"
  textColor : String := "#ffffff"
  padding : String := "12px 24px"
  deriving DecidableEq, Repr

structure Image where
  src : String := "https://via.placeholder.com/600x300"
  alt : String := "Image description"
  width : String := "600"
  deriving DecidableEq, Repr

structure Divider where
  borderColor : String := "#e5e7eb"
  borderWidth : String := "1px"
  deriving DecidableEq, Repr

inductive Props where
  | heading (heading : Heading)
  | text (text : TextBlock)
  | button (button : Button)
  | image (image : Image)
  | divider (divider : Divider)
  deriving DecidableEq, Repr

namespace Props

def kind : Props → Kind
  | .heading _ => .heading
  | .text _ => .text
  | .button _ => .button
  | .image _ => .image
  | .divider _ => .divider

def initial : Kind → Props
  | .heading => .heading {}
  | .text => .text {}
  | .button => .button {}
  | .image => .image {}
  | .divider => .divider {}

theorem initialKind (kind : Kind) : (initial kind).kind = kind := by cases kind <;> rfl

end Props

/-- The identity of a component is any JSON value that counts as true. -/
structure Component where
  id : Json
  props : Props
  deriving Repr

def Component.kind (component : Component) : Kind := component.props.kind

abbrev Email := List Component

def Email.contents (email : Email) : List Props := email.map (·.props)

structure Ids where
  name : Nat → Json
  next : Nat

namespace Ids

def draw (ids : Ids) : Json × Ids := (ids.name ids.next, { ids with next := ids.next + 1 })

def numbered : Ids := ⟨fun n => .str ("id" ++ toString n), 1⟩

end Ids

def Component.create (kind : Kind) (ids : Ids) : Component × Ids :=
  (⟨ids.draw.1, Props.initial kind⟩, ids.draw.2)

end EmailMarkup
