import StyledMarkup.Text.Basic

namespace StyledMarkup

/-!
# Registry of generated styles

The registry collects the generated class names, called hashes, and the styles
that were written for them.
-/

/-- Generated class names in the order of their registration, and all styles. -/
structure Registry where
  hashes : List Text
  styles : Text
deriving DecidableEq, Repr

namespace Registry

/-- Nothing has been registered. -/
def empty : Registry := ⟨[], []⟩

/-- Registers a hash; a hash that is known already changes nothing. -/
def register (hash : Text) (registry : Registry) : Registry :=
  if registry.hashes.contains hash then registry
  else { registry with hashes := registry.hashes ++ [hash] }

/-- Registers hashes in order. -/
def registerAll (hashes : List Text) (registry : Registry) : Registry :=
  hashes.foldl (fun registry hash => registry.register hash) registry

/-- Adds styles at the end. -/
def inject (styles : Text) (registry : Registry) : Registry :=
  { registry with styles := registry.styles ++ styles }

end Registry

end StyledMarkup
