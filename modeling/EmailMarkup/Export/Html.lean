import EmailMarkup.Component.Basic
import EmailMarkup.Export.Slot

/-! Emails as static HTML, laid out in tables for the common readers. Every value is escaped. -/
namespace EmailMarkup.Export.Html

def opening (title : String) : List Slot :=
  [.fixed "<!DOCTYPE html>\n", .fixed "<html lang=\"en\">\n", .fixed "<head>\n",
    .fixed "  <meta charset=\"UTF-8\">\n",
    .fixed "  <meta name=\"viewport\" content=\"width=device-width, initial-scale=1.0\">\n",
    .fixed "  <meta http-equiv=\"X-UA-Compatible\" content=\"IE=edge\">\n", .fixed "  <title>", .value title,
    .fixed "</title>\n", .fixed "  <!--[if mso]>\n", .fixed "  <style type=\"text/css\">\n",
    .fixed "    body, table, td \x7bfont-family: Arial, Helvetica, sans-serif !important;\x7d\n",
    .fixed "  </style>\n", .fixed "  <![endif]-->\n", .fixed "</head>\n",
    .fixed "<body style=\"margin: 0; padding: 0; background-color: #f6f9fc; font-family: Arial, ",
    .fixed "Helvetica, sans-serif;\">\n",
    .fixed "  <table role=\"presentation\" width=\"100%\" cellspacing=\"0\" cellpadding=\"0\" ",
    .fixed "border=\"0\" style=\"background-color: #f6f9fc;\">\n",
    .fixed "    <tr>\n", .fixed "      <td align=\"center\" style=\"padding: 40px 0;\">\n",
    .fixed "        <table role=\"presentation\" width=\"600\" cellspacing=\"0\" cellpadding=\"0\" ",
    .fixed "border=\"0\" style=\"background-color: #ffffff; max-width: 600px;\">\n",
    .fixed "          <tr>\n", .fixed "            <td style=\"padding: 40px 30px;\">\n"]

def component : Props → List Slot
  | .heading h =>
      [.fixed "              <", .value h.level, .fixed " style=\"font-size: ", .value h.fontSize,
        .fixed "; text-align: ", .value h.align, .fixed "; color: ", .value h.color,
        .fixed "; margin: 0 0 16px 0; font-weight: bold; line-height: 1.3;\">\n", .fixed "                ",
        .value h.text, .fixed "\n", .fixed "              </", .value h.level, .fixed ">\n"]
  | .text t =>
      [.fixed "              <p style=\"font-size: ", .value t.fontSize, .fixed "; text-align: ",
        .value t.align, .fixed "; color: ", .value t.color,
        .fixed "; margin: 0 0 16px 0; line-height: 1.6;\">\n", .fixed "                ", .value t.text,
        .fixed "\n", .fixed "              </p>\n"]
  | .button b =>
      [.fixed "              <table role=\"presentation\" cellspacing=\"0\" cellpadding=\"0\" ",
       .fixed "border=\"0\" style=\"margin: 0 0 16px 0;\">\n",
        .fixed "                <tr>\n", .fixed "                  <td align=\"center\">\n",
        .fixed "                    <a href=\"", .value b.href, .fixed "\" style=\"background-color: ",
        .value b.backgroundColor, .fixed "; color: ", .value b.textColor, .fixed "; padding: ",
        .value b.padding,
        .fixed "; border-radius: 4px; text-decoration: none; display: inline-block; font-weight: 600;\">\n",
        .fixed "                      ", .value b.text, .fixed "\n", .fixed "                    </a>\n",
        .fixed "                  </td>\n", .fixed "                </tr>\n", .fixed "              </table>\n"]
  | .image i =>
      [.fixed "              <img src=\"", .value i.src, .fixed "\" alt=\"", .value i.alt,
        .fixed "\" width=\"", .value i.width,
        .fixed "\" style=\"max-width: 100%; height: auto; display: block; margin: 0 0 16px 0; border: ",
        .fixed "0;\" />\n"]
  | .divider d =>
      [.fixed "              <hr style=\"border: none; border-top: ", .value d.borderWidth, .fixed " solid ",
        .value d.borderColor, .fixed "; margin: 16px 0;\" />\n"]

def closing : List Slot :=
  [.fixed "            </td>\n", .fixed "          </tr>\n", .fixed "        </table>\n",
    .fixed "      </td>\n", .fixed "    </tr>\n", .fixed "  </table>\n", .fixed "</body>\n", .fixed "</html>"]

def slots (title : String) (contents : List Props) : List Slot :=
  opening title ++ contents.flatMap component ++ closing

def write (title : String) (contents : List Props) : List Char := render escape (slots title contents)

end EmailMarkup.Export.Html
