/-!
# The stylesheet of the bar

The bar brings its own stylesheet along: a centred row of links that stays at the top of the page,
and a colour that a link fades to under the pointer. The text is kept line by line, since its bytes
are what a page inlines.
-/

namespace SiteNav

def stylesheetLines : List String :=
  ["/* Top navigation bar */",
    "",
    "#navbar.navbar \x7b",
    "  position: sticky;",
    "  top: 0;",
    "  z-index: 50;",
    "  display: flex;",
    "  justify-content: center;",
    "  gap: 2rem;",
    "  padding: 1.5rem;",
    "  font-weight: 900;",
    "  color: #ffffff;",
    "  background-image: linear-gradient(to bottom, #020617, rgb(15 23 42 / 0.2));",
    "  border-bottom: none;",
    "\x7d",
    "",
    ".navbar__link \x7b",
    "  color: inherit;",
    "  text-decoration: none;",
    "  transition-property: color;",
    "  transition-duration: 200ms;",
    "  transition-timing-function: cubic-bezier(0.4, 0, 0.2, 1);",
    "\x7d",
    "",
    ".navbar__link:hover \x7b",
    "  color: #60a5fa;",
    "\x7d"]

/-- The text of the stylesheet, in which every line ends in a newline. -/
def stylesheet : String :=
  String.join (stylesheetLines.map (· ++ "\n"))

def barStylesheetHref : String := "/assets/styling/navbar.css"

def pageStylesheetHref : String := "/assets/main.css"

end SiteNav
