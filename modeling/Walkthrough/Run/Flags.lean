import Walkthrough.Scene

/-!
Applying the feature flags of a scenario.
-/

namespace Walkthrough

/-- What applies the flags of a scenario before its first page. -/
abbrev FlagService (π : Type) := List (String × Feature) → Act (Scene π) Unit

namespace FlagService

variable {π : Type}

/-- Remembers the flags. -/
def recording : FlagService π := fun features =>
  Act.modify fun s => { s with flagSets := s.flagSets ++ [features] }

def truthText (b : Bool) : String := if b then "True" else "False"

/-- Announces each flag. -/
def announce : List (String × Feature) → Act (Scene π) Unit
  | [] => pure ()
  | (name, f) :: rest => do
    Scene.say .info .flags ("setting feature " ++ name ++ " to " ++ truthText f.enabled ++
      " with context " ++ Text.quotedMap f.context)
    announce rest

/-- Sets the flags and then clears the cache, so that pages show them. -/
def client : FlagService π := fun features => do
  announce features
  Scene.say .info .flags "clearing application cache"
  Act.modify fun s => { s with cacheClears := s.cacheClears + 1 }

/-- Applies nothing. -/
def ignoring : FlagService π := fun features =>
  if features.isEmpty then pure ()
  else Scene.say .debug .flags ("ignoring " ++ toString features.length ++ " feature flag(s)")

end FlagService

end Walkthrough
