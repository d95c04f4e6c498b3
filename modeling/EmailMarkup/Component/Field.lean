import EmailMarkup.Component.Basic

/-! The fields of the property records by name. The JSON form of a component and the record form both name them, each
in its own spelling. -/
namespace EmailMarkup

inductive Field where
  | text
  | headingLevel
  | align
  | color
  | fontSize
  | href
  | backgroundColor
  | textColor
  | padding
  | src
  | alt
  | width
  | borderColor
  | borderWidth
  deriving DecidableEq, Repr

namespace Field

def camel : Field → String
  | .text => "text"
  | .headingLevel => "headingLevel"
  | .align => "align"
  | .color => "color"
  | .fontSize => "fontSize"
  | .href => "href"
  | .backgroundColor => "backgroundColor"
  | .textColor => "textColor"
  | .padding => "padding"
  | .src => "src"
  | .alt => "alt"
  | .width => "width"
  | .borderColor => "borderColor"
  | .borderWidth => "borderWidth"

def snake : Field → String
  | .headingLevel => "heading_level"
  | .fontSize => "font_size"
  | .backgroundColor => "background_color"
  | .textColor => "text_color"
  | .borderColor => "border_color"
  | .borderWidth => "border_width"
  | field => field.camel

def choices? : Field → Option (List String)
  | .headingLevel => some headingLevels
  | .align => some alignments
  | _ => none

def allows (field : Field) (value : String) : Bool :=
  match field.choices? with
  | some choices => choices.contains value
  | none => true

end Field

namespace Props

def fields : Props → List (Field × String)
  | .heading h =>
      [(.text, h.text), (.headingLevel, h.level), (.align, h.align), (.color, h.color), (.fontSize, h.fontSize)]
  | .text t => [(.text, t.text), (.align, t.align), (.color, t.color), (.fontSize, t.fontSize)]
  | .button b =>
      [(.text, b.text), (.href, b.href), (.backgroundColor, b.backgroundColor), (.textColor, b.textColor),
        (.padding, b.padding)]
  | .image i => [(.src, i.src), (.alt, i.alt), (.width, i.width)]
  | .divider d => [(.borderColor, d.borderColor), (.borderWidth, d.borderWidth)]

def mapFields (f : Field → String → String) : Props → Props
  | .heading h =>
      .heading ⟨f .text h.text, f .headingLevel h.level, f .align h.align, f .color h.color, f .fontSize h.fontSize⟩
  | .text t => .text ⟨f .text t.text, f .align t.align, f .color t.color, f .fontSize t.fontSize⟩
  | .button b =>
      .button ⟨f .text b.text, f .href b.href, f .backgroundColor b.backgroundColor, f .textColor b.textColor,
        f .padding b.padding⟩
  | .image i => .image ⟨f .src i.src, f .alt i.alt, f .width i.width⟩
  | .divider d => .divider ⟨f .borderColor d.borderColor, f .borderWidth d.borderWidth⟩

theorem fieldsMap (f : Field → String → String) (props : Props) :
    (props.mapFields f).fields = props.fields.map fun (field, value) => (field, f field value) := by
  cases props <;> rfl

theorem mapFieldsKind (f : Field → String → String) (props : Props) :
    (props.mapFields f).kind = props.kind := by
  cases props <;> rfl

def build (kind : Kind) (f : Field → String → String) : Props := (initial kind).mapFields f

theorem buildKind (kind : Kind) (f : Field → String → String) : (build kind f).kind = kind := by
  rw [build, mapFieldsKind, initialKind]

end Props
end EmailMarkup
