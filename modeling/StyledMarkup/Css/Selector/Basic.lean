import StyledMarkup.Css.Token

namespace StyledMarkup.Css

/-!
# Selectors

A selector is a chain of compounds; each compound is a list of simple
selectors for one element, and a combinator says how it is related to the
compound before it.  A selector is printed with single blanks around
combinators, with quotes around attribute values, and with escapes in names
where they are needed.
-/

/--
How an element is related to the one before it in a selector.  Parts of an
element, elements in its slot and its pseudo-elements stand behind it without
any sign.
-/
inductive Combinator where
  | descendant
  | child
  | nextSibling
  | laterSibling
  | pseudo
  | part
  | slot
deriving DecidableEq, Repr

/-- The namespace in front of a name. -/
inductive Namespace where
  | implied
  | none
  | any
  | named (name : Text)
deriving DecidableEq, Repr

/-- How the value of an attribute is compared. -/
inductive Comparison where
  | equal
  | includes
  | dash
  | start
  | finish
  | inside
deriving DecidableEq, Repr

/-- Whether the case of an attribute value matters. -/
inductive CaseRule where
  | byName
  | ignored
  | kept
deriving DecidableEq, Repr

/-- What an attribute is compared with. -/
structure AttributeTest where
  comparison : Comparison
  value : Text
  caseRule : CaseRule
deriving DecidableEq, Repr

mutual

/-- A condition on a single element. -/
inductive Simple where
  | nesting
  | universal (space : Namespace)
  | typeName (space : Namespace) (name : Text)
  | id (name : Text)
  | className (name : Text)
  | attr (space : Namespace) (name : Text) (test : Option AttributeTest)
  | pseudoClass (name : Text)
  | pseudoElement (name : Text)
  | withText (name : Text) (arguments : Text)
  | withSelectors (name : Text) (arguments : List Selector)
  | nth (name : Text) (step offset : Int) (among : Option (List Selector))

/-- A compound and its relation to what comes before it. -/
inductive Step where
  | mk (relation : Option Combinator) (compound : List Simple)

/-- A chain of compounds. -/
inductive Selector where
  | chain (steps : List Step)

end

/-- The text of a combinator between compounds. -/
def Combinator.print : Combinator → Text
  | .descendant => [' ']
  | .child => Text.of " > "
  | .nextSibling => Text.of " + "
  | .laterSibling => Text.of " ~ "
  | .pseudo => []
  | .part => []
  | .slot => []

/-- The text of a namespace in front of a name. -/
def Namespace.print : Namespace → Text
  | .implied => []
  | .none => ['|']
  | .any => ['*', '|']
  | .named name => identText name ++ ['|']

/-- The sign of a comparison. -/
def Comparison.print : Comparison → Text
  | .equal => ['=']
  | .includes => ['~', '=']
  | .dash => ['|', '=']
  | .start => ['^', '=']
  | .finish => ['$', '=']
  | .inside => ['*', '=']

/-- The flag of a case rule. -/
def CaseRule.print : CaseRule → Text
  | .byName => []
  | .ignored => [' ', 'i']
  | .kept => [' ', 's']

/-- The comparison of an attribute with its value in quotes. -/
def AttributeTest.print (test : AttributeTest) : Text :=
  test.comparison.print ++ stringText test.value ++ test.caseRule.print

/-- A whole number with its sign. -/
def signed (number : Int) : Text :=
  if number < 0 then Text.ofInt number else '+' :: Text.ofInt number

/-- A step and an offset of positions. -/
def positionsText (step offset : Int) : Text :=
  if step = 0 then Text.ofInt offset
  else
    let multiple :=
      if step = 1 then ['n'] else if step = -1 then ['-', 'n'] else Text.ofInt step ++ ['n']
    if offset = 0 then multiple
    else if step = 2 ∧ offset = 1 then Text.of "odd"
    else multiple ++ signed offset

/-- The name of the first, or of the last, of the elements that a position counts. -/
def positionName? (name : Text) : Option String :=
  if name = Text.of ":nth-child" then some ":first-child"
  else if name = Text.of ":nth-last-child" then some ":last-child"
  else if name = Text.of ":nth-of-type" then some ":first-of-type"
  else if name = Text.of ":nth-last-of-type" then some ":last-of-type"
  else none

/-- The text of a position; the first one has a name of its own or ends after its bracket. -/
def positionText (name : Text) (step offset : Int) : Text :=
  if step = 0 ∧ offset = 1 then
    match positionName? name with
    | some first => Text.of first
    | none => name ++ ['(']
  else name ++ '(' :: positionsText step offset ++ [')']

namespace Simple

/-- The simple selector is a type name. -/
def isType : Simple → Bool
  | .typeName _ _ => true
  | .universal _ => true
  | _ => false

/-- The universal selector can be left out beside other simple selectors. -/
def isSilent : Simple → Bool
  | .universal .implied => true
  | _ => false

/-- The simple selector is the universal one in some namespace. -/
def isUniversal : Simple → Bool
  | .universal _ => true
  | _ => false

/-- The simple selector stands for the elements that a relative selector starts from. -/
def isScope : Simple → Bool
  | .pseudoClass name => name == Text.of "scope"
  | _ => false

end Simple

/-- A universal selector alone, or behind a nesting selector at the front, is not left out. -/
def isLoneUniversal (isFirst : Bool) : List Simple → Bool
  | [single] => single.isUniversal
  | [.nesting, second] => isFirst && second.isUniversal
  | _ => false

namespace Combinator

/-- A universal selector in front of the combinator is left out like beside other selectors. -/
def silences : Combinator → Bool
  | .pseudo => true
  | .slot => true
  | _ => false

end Combinator

namespace Step

/-- How a step is related to the one before it. -/
def relation? : Step → Option Combinator
  | .mk relation _ => relation

/-- The simple selectors of a step. -/
def compound : Step → List Simple
  | .mk _ compound => compound

end Step

/-- The relation of the first of some steps. -/
def nextRelation? (steps : List Step) : Option Combinator := steps.head?.bind Step.relation?

/-- Silent selectors of a compound are printed, too. -/
def keepsSilent (isFirst : Bool) (next : Option Combinator) (compound : List Simple) : Bool :=
  isLoneUniversal isFirst compound && ! next.any Combinator.silences

namespace Selector

/-- The steps of a selector. -/
def steps : Selector → List Step
  | .chain steps => steps

/-- A selector of one compound that starts with no type can stand for the list that holds it. -/
def single? : List Selector → Option (List Simple)
  | [.chain [.mk none compound]] => if compound.head?.any Simple.isType then none else some compound
  | _ => none

mutual

/-- The text of a simple selector. -/
def printSimple : Simple → Text
  | .nesting => ['&']
  | .universal space => space.print ++ ['*']
  | .typeName space name => space.print ++ identText name
  | .id name => '#' :: identText name
  | .className name => '.' :: identText name
  | .attr space name test => '[' :: space.print ++ identText name ++
      ((test.map AttributeTest.print).getD []) ++ [']']
  | .pseudoClass name => ':' :: name
  | .pseudoElement name => Text.of "::" ++ name
  | .withText name arguments => name ++ '(' :: arguments ++ [')']
  | .withSelectors name arguments =>
      if name = Text.of ":is" ∧ (single? arguments).isSome then printList arguments
      else name ++ '(' :: printList arguments ++ [')']
  | .nth name step offset none => positionText name step offset
  | .nth name step offset (some among) =>
      name ++ '(' :: positionsText step offset ++ Text.of " of " ++ printList among ++ [')']

/-- The simple selectors of a compound, with or without the silent ones. -/
def printCompound (keepsSilent : Bool) : List Simple → Text
  | [] => []
  | simple :: rest =>
      if ! keepsSilent && simple.isSilent then printCompound keepsSilent rest
      else printSimple simple ++ printCompound keepsSilent rest

/-- The text of a step in front of a combinator. -/
def printStep (isFirst : Bool) (next : Option Combinator) : Step → Text
  | .mk relation compound =>
      ((relation.map Combinator.print).getD []) ++
        printCompound (keepsSilent isFirst next compound) compound

/-- The text of a chain of steps; a step without simple selectors does not count as first. -/
def printSteps (isFirst : Bool) : List Step → Text
  | [] => []
  | step :: rest =>
      printStep isFirst (nextRelation? rest) step ++
        printSteps (isFirst && step.compound.isEmpty) rest

/-- The text of a selector. -/
def print : Selector → Text
  | .chain steps => printSteps true steps

/-- Selectors with commas between them. -/
def printList : List Selector → Text
  | [] => []
  | selector :: rest =>
      print selector ++
        match rest with
        | [] => []
        | next :: more => ',' :: ' ' :: printList (next :: more)

end

/-- A nesting selector in the arguments of these pseudo-elements has no meaning outside of them. -/
def isDetached (name : Text) : Bool := isOneOf ["::cue", "::cue-region"] name

mutual

/-- The nesting selector occurs in a simple selector. -/
def nestsSimple : Simple → Bool
  | .nesting => true
  | .withSelectors name arguments => ! isDetached name && nestsList arguments
  | .nth _ _ _ none => false
  | .nth _ _ _ (some among) => nestsList among
  | .universal _ => false
  | .typeName _ _ => false
  | .id _ => false
  | .className _ => false
  | .attr _ _ _ => false
  | .pseudoClass _ => false
  | .pseudoElement _ => false
  | .withText _ _ => false

/-- The nesting selector occurs in a compound. -/
def nestsCompound : List Simple → Bool
  | [] => false
  | simple :: rest => nestsSimple simple || nestsCompound rest

/-- The nesting selector occurs in a step. -/
def nestsStep : Step → Bool
  | .mk _ compound => nestsCompound compound

/-- The nesting selector occurs in some step. -/
def nestsSteps : List Step → Bool
  | [] => false
  | step :: rest => nestsStep step || nestsSteps rest

/-- The nesting selector occurs in a selector. -/
def nests : Selector → Bool
  | .chain steps => nestsSteps steps

/-- The nesting selector occurs in some selector. -/
def nestsList : List Selector → Bool
  | [] => false
  | selector :: rest => nests selector || nestsList rest

end

/-- A selector that starts with a combinator, given what the combinator is related to. -/
def anchored (anchor : Simple) (selector : Selector) : Selector :=
  match selector with
  | .chain (.mk (some relation) compound :: rest) =>
      .chain (.mk none [anchor] :: .mk (some relation) compound :: rest)
  | .chain (.mk none _ :: _) => selector
  | .chain [] => selector

/-- A selector inside a rule, related to the elements of that rule. -/
def nested (selector : Selector) : Selector :=
  match selector with
  | .chain (.mk none compound :: rest) =>
      if selector.nests then selector
      else .chain (.mk none [.nesting] :: .mk (some .descendant) compound :: rest)
  | .chain (.mk (some _) _ :: _) => selector.anchored .nesting
  | .chain [] => selector

mutual

/-- A simple selector with a list of selectors in place of the nesting selector. -/
def fillSimple (outer : List Selector) : Simple → Simple
  | .nesting => .withSelectors (Text.of ":is") outer
  | .withSelectors name arguments => .withSelectors name (fillList outer arguments)
  | .nth name step offset (some among) => .nth name step offset (some (fillList outer among))
  | .nth name step offset none => .nth name step offset none
  | .universal space => .universal space
  | .typeName space name => .typeName space name
  | .id name => .id name
  | .className name => .className name
  | .attr space name test => .attr space name test
  | .pseudoClass name => .pseudoClass name
  | .pseudoElement name => .pseudoElement name
  | .withText name arguments => .withText name arguments

/-- A compound with a list of selectors in place of the nesting selector. -/
def fillCompound (outer : List Selector) : List Simple → List Simple
  | [] => []
  | simple :: rest => fillSimple outer simple :: fillCompound outer rest

/-- A step with a list of selectors in place of the nesting selector. -/
def fillStep (outer : List Selector) : Step → Step
  | .mk relation compound => .mk relation (fillCompound outer compound)

/-- Steps with a list of selectors in place of the nesting selector. -/
def fillSteps (outer : List Selector) : List Step → List Step
  | [] => []
  | step :: rest => fillStep outer step :: fillSteps outer rest

/-- A selector with a list of selectors in place of the nesting selector. -/
def fill (outer : List Selector) : Selector → Selector
  | .chain steps => .chain (fillSteps outer steps)

/-- Selectors with a list of selectors in place of the nesting selector. -/
def fillList (outer : List Selector) : List Selector → List Selector
  | [] => []
  | selector :: rest => fill outer selector :: fillList outer rest

end

/-- Steps with the relations of the steps behind them. -/
def shifted : Option Combinator → List Step → List Step
  | _, [] => []
  | last, [.mk _ compound] => [.mk last compound]
  | last, .mk _ compound :: .mk relation next :: rest =>
      .mk relation compound :: shifted last (.mk relation next :: rest)

/--
A selector that is written in relation to what it starts from: the name of the
start is left out, and the combinator behind it comes first.
-/
def relative (selector : Selector) : Selector :=
  match selector with
  | .chain (.mk none (simple :: compound) :: rest) =>
      if ! simple.isScope then selector
      else if compound.isEmpty then .chain rest
      else
        let last := if rest.isEmpty then none else some Combinator.pseudo
        .chain (shifted last (.mk none compound :: rest))
  | .chain _ => selector

end Selector

/-- The printed list of selectors. -/
def Selector.listText (selectors : List Selector) : Text :=
  Text.join [',', ' '] (selectors.map Selector.print)

end StyledMarkup.Css
