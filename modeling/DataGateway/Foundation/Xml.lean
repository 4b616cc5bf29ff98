import Mathlib.Tactic.Common

/-!
# Elements of an XML document

What can be asked of a parsed document: the elements at its top, and of each
element its name, its attributes and its child elements in order.  Texts and
comments are left out, as the questions pass over them.
-/

namespace DataGateway.Foundation

structure XmlElement where
  name : String
  attributes : List (String × String)
  children : List XmlElement

structure XmlDocument where
  elements : List XmlElement

namespace XmlElement

/-- The value of an attribute, none where a null pointer stands for it. -/
def attribute? (element : XmlElement) (name : String) : Option String :=
  (element.attributes.find? fun entry => entry.1 = name).map Prod.snd

/-- The child elements of a name, from the first one on by their next siblings
of the name. -/
def childElements (element : XmlElement) (name : String) : List XmlElement :=
  element.children.filter fun child => child.name = name

def firstChildElement (element : XmlElement) (name : String) :
    Option XmlElement :=
  (element.childElements name).head?

end XmlElement

def XmlDocument.firstChildElement (document : XmlDocument) (name : String) :
    Option XmlElement :=
  document.elements.find? fun element => element.name = name

end DataGateway.Foundation
