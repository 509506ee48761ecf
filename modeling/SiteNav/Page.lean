import SiteNav.Bar

/-!
# Pages

Every route has a page of its own. When the browser could not be sent to an external address, a page
that says so takes the place of everything else, and its anchor leads back.
-/

namespace SiteNav

/-- A section of the site's markup that holds a page. -/
def pageSection (kind : String) (children : Document) : Html Action :=
  .element "section" [classAttribute ("page " ++ kind)] none children

def textElement (tag content : String) : Html Action :=
  .element tag [] none [.text content]

def Route.page : Route → Html Action
  | .home => pageSection "page-home"
      [textElement "h1" "Document chat",
        textElement "p" "Open the Chat page to start a conversation."]
  | .chat => pageSection "page-chat" [textElement "h1" "Chat"]

/-- The page that reports a failed visit to an external address. -/
def failurePage : Document :=
  [textElement "h1" "External Navigation Failure!",
    textElement "p" ("The application tried to programmatically navigate to an external page. " ++
      "This operation has failed. Click the link below to complete the navigation manually."),
    .element "a" [] (some .dismissFailure) [.text "Click here to go back"]]

/-- There is nothing to click on a page. -/
@[simp] theorem Route.anchors_page (r : Route) : r.page.anchors = [] := by
  cases r <;> simp [Route.page, pageSection, textElement]

@[simp] theorem anchorsAll_failurePage :
    Html.anchorsAll failurePage = [some Action.dismissFailure] := by
  simp [failurePage, textElement]

/-! ### Views -/

inductive View where
  | home
  | chat
  | bar
deriving DecidableEq, Repr

/-- A part of the site as it is shown on its own, with no router, builder or navigator around it. -/
def View.html : View → Html Action
  | .home => Route.home.page
  | .chat => Route.chat.page
  | .bar => (BarLinks.mount .empty none).html none

end SiteNav
