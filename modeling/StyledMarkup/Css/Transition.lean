import StyledMarkup.Css.Font.Face

namespace StyledMarkup.Css.Transition

/-!
# Transitions between views

A rule for transitions says whether going to another view has one, and of
which types it is.  Faulty descriptors are left out.
-/

open Value

/-- Takes the types of a transition. -/
def takeTypes : Parser Written :=
  Parser.orElse (oneOf ["none"]) do
    pure (.of (spaced (← Parser.many aName)))

/-- Takes a descriptor of a transition after its name. -/
def takeDescriptor (name : Text) : Parser Declaration :=
  Declaration.takeWith
    (if isOneOf ["navigation"] name then Font.takeStart name (oneOf ["none", "auto"])
      else if isOneOf ["types"] name then Font.takeStart name takeTypes
      else Parser.fail .invalidDeclaration)

/-- Takes the descriptors of a transition. -/
def take : Parser (List Declaration) := Declaration.takeTolerantly takeDescriptor

end StyledMarkup.Css.Transition
