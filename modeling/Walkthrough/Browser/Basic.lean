import Walkthrough.Browser.Locator
import Walkthrough.Scene

/-!
Browsers. A `Browser` says how its pages of type `π` are queried, how an element named by an `η` is
read and touched, and what the browser can record of the page.
-/

namespace Walkthrough

/-- A browser with pages of type `π` and elements named by an `η`. -/
structure Browser (π η : Type) where
  /-- The browser as messages name it. -/
  name : String
  navigate : String → Act (Scene π) Unit
  /-- The first element that a locator finds. -/
  locate : Locator → Act (Scene π) (Option η)
  readAttribute : η → String → Act (Scene π) (Option String)
  readText : η → Act (Scene π) String
  /-- What a field shows. -/
  readValue : η → Act (Scene π) String
  click : η → Act (Scene π) Unit
  clear : η → Act (Scene π) Unit
  type : η → Option String → Act (Scene π) Unit
  submit : η → Act (Scene π) Unit
  press : η → String → Act (Scene π) Unit
  scroll : η → Act (Scene π) Unit
  /-- Waits for an element to be ready, at most for so many milliseconds. -/
  wait : η → Int → Act (Scene π) Unit
  screenshot : String → Act (Scene π) Unit
  pageSource : Act (Scene π) String
  currentUrl : Act (Scene π) (Option String)

/-- The value of a field is its attribute `value`, or its text if it has none. -/
def valueOrText {π η : Type} (readAttribute : η → String → Act (Scene π) (Option String))
    (readText : η → Act (Scene π) String) (element : η) : Act (Scene π) String := do
  match ← readAttribute element "value" with
  | some value => return value
  | none => readText element

end Walkthrough
