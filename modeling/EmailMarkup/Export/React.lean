import EmailMarkup.Component.Basic
import EmailMarkup.Export.Slot

/-! Emails as the source of a React-Email module. Style values stand in quoted literals; texts, addresses, sizes and
heading levels are put in as they are. -/
namespace EmailMarkup.Export.React

def opening : List Slot :=
  [.fixed "import \x7b Html, Head, Body, Container, Heading, Text, Button, Img, Hr \x7d from ",
   .fixed "'@react-email/components';\n",
    .fixed "\n", .fixed "export default function Email() \x7b\n", .fixed "  return (\n", .fixed "    <Html>\n",
    .fixed "      <Head />\n",
    .fixed "      <Body style=\x7b\x7b backgroundColor: '#f6f9fc', fontFamily: 'Arial, sans-serif' \x7d\x7d>\n",
    .fixed "        <Container style=\x7b\x7b maxWidth: '600px', margin: '0 auto', backgroundColor: ",
    .fixed "'#ffffff', padding: '20px' \x7d\x7d>\n"]

def component : Props → List Slot
  | .heading h =>
      [.fixed "          <Heading as=\"", .value h.level, .fixed "\" style=\x7b\x7b fontSize: '",
        .literal h.fontSize, .fixed "', textAlign: '", .literal h.align, .fixed "', color: '", .literal h.color,
        .fixed "', margin: '0 0 16px 0' \x7d\x7d>\n", .fixed "            ", .value h.text, .fixed "\n",
        .fixed "          </Heading>\n"]
  | .text t =>
      [.fixed "          <Text style=\x7b\x7b fontSize: '", .literal t.fontSize, .fixed "', textAlign: '",
        .literal t.align, .fixed "', color: '", .literal t.color, .fixed "', margin: '0 0 16px 0' \x7d\x7d>\n",
        .fixed "            ", .value t.text, .fixed "\n", .fixed "          </Text>\n"]
  | .button b =>
      [.fixed "          <Button\n", .fixed "            href=\"", .value b.href, .fixed "\"\n",
        .fixed "            style=\x7b\x7b\n", .fixed "              backgroundColor: '",
        .literal b.backgroundColor, .fixed "',\n", .fixed "              color: '", .literal b.textColor,
        .fixed "',\n", .fixed "              padding: '", .literal b.padding, .fixed "',\n",
        .fixed "              borderRadius: '4px',\n", .fixed "              textDecoration: 'none',\n",
        .fixed "              display: 'inline-block',\n", .fixed "              textAlign: 'center'\n",
        .fixed "            \x7d\x7d\n", .fixed "          >\n", .fixed "            ", .value b.text,
        .fixed "\n", .fixed "          </Button>\n"]
  | .image i =>
      [.fixed "          <Img\n", .fixed "            src=\"", .value i.src, .fixed "\"\n",
        .fixed "            alt=\"", .value i.alt, .fixed "\"\n", .fixed "            width=\"", .value i.width,
        .fixed "\"\n", .fixed "            style=\x7b\x7b margin: '0 0 16px 0' \x7d\x7d\n",
        .fixed "          />\n"]
  | .divider d =>
      [.fixed "          <Hr style=\x7b\x7b borderColor: '", .literal d.borderColor,
        .fixed "', borderWidth: '", .literal d.borderWidth, .fixed "', margin: '16px 0' \x7d\x7d />\n"]

def closing : List Slot :=
  [.fixed "        </Container>\n", .fixed "      </Body>\n", .fixed "    </Html>\n", .fixed "  );\n",
    .fixed "\x7d"]

def slots (contents : List Props) : List Slot := opening ++ contents.flatMap component ++ closing

def write (contents : List Props) : List Char := render id (slots contents)

end EmailMarkup.Export.React
