import Screenplay.Element
import Screenplay.Pattern.Basic
import Screenplay.Text.Quoted

/-!
# Selectors

A selector says which elements of a screen are meant, by one of their attributes.
An element that lacks the attribute is not meant.
-/

namespace Screenplay

/-- What is asked of an element. -/
inductive Selector where
  /-- The element has a resource of a package. -/
  | resource (package id : String)
  /-- The text matches a pattern. -/
  | text (pattern : Pattern)
  /-- The text contains a fragment, in the same case. -/
  | textContains (fragment : String)
  /-- The description matches a pattern. -/
  | description (pattern : Pattern)
  /-- The element has a class, whose name may be relative to a package. -/
  | className (package : Option String) (name : String)
  /-- The element can be scrolled, or cannot. -/
  | scrollable (flag : Bool)
  deriving DecidableEq

namespace Selector

/-- The full name of a class.  A name that starts with a full stop follows its
package directly. -/
def qualifiedClass (package : Option String) (name : String) : String :=
  match package with
  | none => name
  | some package =>
      if name.toList.head? = some '.' then package ++ name else package ++ "." ++ name

/-- Whether an element is meant. -/
def accepts (selector : Selector) (element : Element) : Bool :=
  match selector with
  | .resource package id =>
      element.resourceName == some (Element.resourceNameOf package id)
  | .text pattern => element.text.any pattern.isMatch
  | .textContains fragment =>
      element.text.any fun text => Text.occursIn fragment.toList text.toList
  | .description pattern => element.description.any pattern.isMatch
  | .className package name => element.className == some (qualifiedClass package name)
  | .scrollable flag => element.scrollable == flag

/-- The selector as it stands in messages. -/
def display : Selector → String
  | .resource package id => "res=" ++ Element.resourceNameOf package id
  | .text pattern => "text=" ++ pattern.display
  | .textContains fragment => "textContains=" ++ Text.quote fragment
  | .description pattern => "desc=" ++ pattern.display
  | .className package name => "clazz=" ++ qualifiedClass package name
  | .scrollable flag => "scrollable=" ++ toString flag

end Selector

end Screenplay
