/-!
# Markup

A document is a tree of elements and texts. Any element may carry a listener, which is an action to
take and leaves no trace in the text of the document. Texts are escaped when a document is written
out; attribute values are written as they are.

The anchors of a document, in the order in which they are written, are what a reader can click.
-/

namespace SiteNav

/-- A piece of a document whose listeners are actions of type `α`. -/
inductive Html (α : Type) where
  | text (content : String)
  | element (tag : String) (attributes : List (String × String)) (listener : Option α)
      (children : List (Html α))

variable {α : Type}

/-! ### Writing -/

def escapeChar (c : Char) : List Char :=
  if c = '&' then "&amp;".toList
  else if c = '<' then "&lt;".toList
  else if c = '>' then "&gt;".toList
  else if c = '"' then "&quot;".toList
  else if c = '\x27' then "&#x27;".toList
  else [c]

def escape (s : String) : String :=
  String.ofList (s.toList.flatMap escapeChar)

/-- How attributes are written: a blank before each name, and the value between quotes. -/
def attributesText (attributes : List (String × String)) : String :=
  String.join (attributes.map fun a => " " ++ a.1 ++ "=\"" ++ a.2 ++ "\"")

mutual
/-- The text of a piece of a document. -/
def Html.render : Html α → String
  | .text content => escape content
  | .element tag attributes _ children =>
    "<" ++ tag ++ attributesText attributes ++ ">" ++ Html.renderAll children ++ "</" ++ tag ++ ">"

def Html.renderAll : List (Html α) → String
  | [] => ""
  | h :: hs => h.render ++ Html.renderAll hs
end

@[simp] theorem Html.render_text (content : String) :
    (Html.text content : Html α).render = escape content := by simp [Html.render]

@[simp] theorem Html.render_element (tag : String) (attributes : List (String × String))
    (listener : Option α) (children : List (Html α)) :
    (Html.element tag attributes listener children).render =
      "<" ++ tag ++ attributesText attributes ++ ">" ++ Html.renderAll children ++ "</" ++ tag ++
        ">" := by simp [Html.render]

@[simp] theorem Html.renderAll_nil : Html.renderAll ([] : List (Html α)) = "" := by
  simp [Html.renderAll]

@[simp] theorem Html.renderAll_cons (h : Html α) (hs : List (Html α)) :
    Html.renderAll (h :: hs) = h.render ++ Html.renderAll hs := by simp [Html.renderAll]

/-- Pieces are written one after another, with nothing between them. -/
@[simp] theorem Html.renderAll_append (hs ks : List (Html α)) :
    Html.renderAll (hs ++ ks) = Html.renderAll hs ++ Html.renderAll ks := by
  induction hs with
  | nil => simp
  | cons h hs ih => simp [ih, String.append_assoc]

/-! ### Anchors -/

mutual
/-- The listeners of the anchors in a piece of a document. -/
def Html.anchors : Html α → List (Option α)
  | .text _ => []
  | .element tag _ listener children =>
    (if tag = "a" then [listener] else []) ++ Html.anchorsAll children

def Html.anchorsAll : List (Html α) → List (Option α)
  | [] => []
  | h :: hs => h.anchors ++ Html.anchorsAll hs
end

@[simp] theorem Html.anchors_text (content : String) :
    (Html.text content : Html α).anchors = [] := by simp [Html.anchors]

@[simp] theorem Html.anchors_element (tag : String) (attributes : List (String × String))
    (listener : Option α) (children : List (Html α)) :
    (Html.element tag attributes listener children).anchors =
      (if tag = "a" then [listener] else []) ++ Html.anchorsAll children := by simp [Html.anchors]

@[simp] theorem Html.anchorsAll_nil : Html.anchorsAll ([] : List (Html α)) = [] := by
  simp [Html.anchorsAll]

@[simp] theorem Html.anchorsAll_cons (h : Html α) (hs : List (Html α)) :
    Html.anchorsAll (h :: hs) = h.anchors ++ Html.anchorsAll hs := by simp [Html.anchorsAll]

end SiteNav
