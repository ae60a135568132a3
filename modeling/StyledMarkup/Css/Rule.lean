import StyledMarkup.Css.Selector.Basic
import StyledMarkup.Css.Media

namespace StyledMarkup.Css

/-!
# Rules

A stylesheet is a list of rules.  Style rules, media rules and supports rules
hold further rules.  Rules are printed with an indentation of two blanks, each
declaration on a line of its own, and with an empty line between rules.
-/

/-- A declaration with the printed name of its property and the rows of its value. -/
structure Declaration where
  name : Text
  rows : Value.Rows
  important : Bool
deriving DecidableEq, Repr

/-- Places in an animation and the declarations for them. -/
structure Keyframe where
  places : List Text
  declarations : List Declaration
deriving DecidableEq, Repr

/-- The registration of a custom property; its initial value can be missing. -/
structure Registration where
  name : Text
  grammar : Text
  inherits : Bool
  initial? : Option Text
deriving DecidableEq, Repr

/-- Names for alternate glyphs of one kind, each with the numbers of the glyphs. -/
structure AlternateSet where
  kind : Text
  glyphs : List (Text × Text)
deriving DecidableEq, Repr

/-- Statements of some kinds are printed without empty lines between them. -/
inductive StatementKind where
  | importing
  | namespacing
  | layering
  | other
deriving DecidableEq, Repr

/-- A rule of a stylesheet; a late statement about its encoding counts, but is not printed. -/
inductive Rule where
  | style (selectors : List Selector) (declarations : List Declaration) (rules : List Rule)
  | nest (selectors : List Selector) (declarations : List Declaration) (rules : List Rule)
  | media (queries : List MediaQuery) (rules : List Rule)
  | supports (condition : Condition) (rules : List Rule)
  | keyframes (head? : Option Text) (frames : List Keyframe)
  | group (head : Text) (rules : List Rule)
  | block (head : Text) (declarations : List Declaration) (rules : List Rule)
  | declared (head : Text) (declarations : List Declaration)
  | registered (registration : Registration)
  | alternates (head : Text) (sets : List AlternateSet)
  | statement (kind : StatementKind) (text : Text)
  | unknown (head body : Text)
  | bare (declarations : List Declaration)
  | encoding

/-- A stylesheet: comments that are kept in front of it, and its rules. -/
structure Stylesheet where
  comments : List Text
  rules : List Rule

/-- A line end and the indentation of the next line. -/
def lineBreak (depth : Nat) : Text := '\n' :: Text.repeated [' ', ' '] depth

namespace Declaration

/-- The text of a declaration at a depth; aligned rows of its value start in the same column. -/
def print (depth : Nat) (declaration : Declaration) : Text :=
  let column := if declaration.rows.aligned then declaration.name.length + 2 else 0
  let indented := lineBreak depth ++ Text.repeated [' '] column
  declaration.name ++ ':' :: ' ' :: Text.join indented declaration.rows.texts ++
    if declaration.important then Text.of " !important;" else [';']

/-- Declarations in the order in which they are printed: important ones last. -/
def ordered (declarations : List Declaration) : List Declaration :=
  declarations.filter (fun declaration => ! declaration.important) ++
    declarations.filter Declaration.important

/-- Declarations on lines of their own, with a line end in front of each. -/
def lines (depth : Nat) (declarations : List Declaration) : Text :=
  (ordered declarations).flatMap fun declaration => lineBreak depth ++ declaration.print depth

/-- Declarations with line ends between them. -/
def joined (depth : Nat) (declarations : List Declaration) : Text :=
  Text.join (lineBreak depth) ((ordered declarations).map (print depth))

/-- A block that holds declarations only; without any it holds an empty line. -/
def block (depth : Nat) (head : Text) (declarations : List Declaration) : Text :=
  head ++ Text.of " \x7b" ++ lineBreak (depth + 1) ++ joined (depth + 1) declarations ++
    lineBreak depth ++ ['\x7d']

end Declaration

/-- The text of a registration at a depth; a missing initial value has no line. -/
def Registration.print (depth : Nat) (registration : Registration) : Text :=
  let row := fun (name : String) (value : Text) => lineBreak (depth + 1) ++ Text.of name ++ value
  Text.of "@property " ++ registration.name ++ Text.of " \x7b" ++
    row "syntax: " (registration.grammar ++ [';']) ++
    row "inherits: " (Text.of (if registration.inherits then "true" else "false")) ++
    (match registration.initial? with
      | some value => ';' :: row "initial-value: " (value ++ [';'])
      | none => []) ++
    lineBreak depth ++ ['\x7d']

namespace AlternateSet

/-- The text of a set at a depth. -/
def print (depth : Nat) (set : AlternateSet) : Text :=
  '@' :: set.kind ++ ['\x7b'] ++
    (set.glyphs.flatMap fun (name, numbers) =>
      lineBreak (depth + 1) ++ name ++ ':' :: ' ' :: numbers ++ [';']) ++
    lineBreak depth ++ ['\x7d']

/-- The text of all sets for a font, one below the other. -/
def printAll (depth : Nat) (head : Text) (sets : List AlternateSet) : Text :=
  head ++ Text.of " \x7b" ++
    (if sets.isEmpty then []
      else lineBreak depth ++ sets.flatMap fun set => set.print depth ++ lineBreak depth) ++
    ['\x7d']

end AlternateSet

namespace Rule

/-- Keyframes with empty lines between them. -/
def keyframeLines (depth : Nat) (frames : List Keyframe) : Text :=
  Text.join ['\n'] (frames.map fun frame =>
    lineBreak depth ++
      Declaration.block depth (Text.join [',', ' '] frame.places) frame.declarations)

/-- A block with a line end in front of its content. -/
def enclosed (depth : Nat) (head content : Text) : Text :=
  head ++ Text.of " \x7b" ++ content ++ lineBreak depth ++ ['\x7d']

/-- A text of several lines at a depth. -/
def indented (depth : Nat) (text : Text) : Text :=
  text.flatMap fun c => if c = '\n' then lineBreak depth else [c]

/-- What stands between the declarations of a block and its rules. -/
def divider (depth : Nat) (hasDeclarations hasRules : Bool) : Text :=
  if ! hasRules then []
  else if hasDeclarations then '\n' :: lineBreak depth
  else lineBreak depth

/-- Statements of imports, namespaces and layers stand close together. -/
def isClose : Rule → Bool
  | .statement .importing _ => true
  | .statement .namespacing _ => true
  | .statement .layering _ => true
  | _ => false

mutual

/-- The text of a rule at a depth; the first line is not indented. -/
def print (depth : Nat) : Rule → Text
  | .style selectors declarations rules =>
      enclosed depth (Selector.listText selectors)
        (Declaration.lines (depth + 1) declarations ++
          divider (depth + 1) (! declarations.isEmpty) (! rules.isEmpty) ++
          printAll (depth + 1) rules)
  | .nest selectors declarations rules =>
      enclosed depth (Text.of "@nest " ++ Selector.listText selectors)
        (Declaration.lines (depth + 1) declarations ++
          divider (depth + 1) (! declarations.isEmpty) (! rules.isEmpty) ++
          printAll (depth + 1) rules)
  | .media queries rules =>
      enclosed depth (Text.of "@media " ++ MediaQuery.printList queries)
        (lineBreak (depth + 1) ++ printAll (depth + 1) rules)
  | .supports condition rules =>
      enclosed depth (Text.of "@supports " ++ condition.print)
        (lineBreak (depth + 1) ++ printAll (depth + 1) rules)
  | .keyframes (some head) frames => enclosed depth head (keyframeLines (depth + 1) frames)
  | .keyframes none _ => []
  | .group head rules =>
      enclosed depth (indented depth head) (lineBreak (depth + 1) ++ printAll (depth + 1) rules)
  | .block head declarations rules =>
      enclosed depth head
        (Declaration.lines (depth + 1) declarations ++
          divider (depth + 1) (! declarations.isEmpty) (! rules.isEmpty) ++
          printAll (depth + 1) rules)
  | .declared head declarations => Declaration.block depth head declarations
  | .registered registration => registration.print depth
  | .alternates head sets => AlternateSet.printAll depth head sets
  | .statement _ text => text ++ [';']
  | .unknown head body => enclosed depth head (lineBreak (depth + 1) ++ body)
  | .bare declarations => Declaration.joined depth declarations
  | .encoding => []

/-- The text of rules at a depth; the first line is not indented. -/
def printAll (depth : Nat) : List Rule → Text
  | [] => []
  | .encoding :: rest => printAll depth rest
  | rule :: rest => print depth rule ++ printMore depth rule.isClose rest

/-- The text of rules after another one, which may stand close to the next one. -/
def printMore (depth : Nat) (close : Bool) : List Rule → Text
  | [] => []
  | .encoding :: rest => printMore depth close rest
  | rule :: rest =>
      (if close && rule.isClose then [] else ['\n']) ++ lineBreak depth ++ print depth rule ++
        printMore depth rule.isClose rest

end

/-- The texts of the selectors of a style rule. -/
def selectorTexts (selectors : List Selector) : List Text := selectors.map Selector.print

end Rule

end StyledMarkup.Css
