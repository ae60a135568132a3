import StyledMarkup.Css.Admitted
import StyledMarkup.Css.Property.Table
import StyledMarkup.Css.Rule

namespace StyledMarkup.Css

/-!
# Reading declarations

A declaration ends with a semicolon or with its block.  A block that holds
declarations only is strict, so that a fault of a declaration is a fault of
the block, or tolerant, so that faulty declarations are left out.
-/

/-- The token is a semicolon. -/
def isSemicolon (token : Token) : Bool := token == .semicolon

/-- Tokens at which a head of a block ends. -/
def isBrace (token : Token) : Bool := token == .openBrace

/-- Tokens at which a head of a block or a statement ends. -/
def endsHead (token : Token) : Bool := token == .semicolon || token == .openBrace

namespace Declaration

/-- Takes a value that follows no grammar. -/
def takeTokens : Parser Value.Rows := do pure (.one (tokensText (← takeGood)))

/-- Takes a value of a property. -/
def takeRows (name : Text) : Parser Value.Rows := fun input =>
  if Property.isAll name then
    (Parser.word Property.allWords input).map fun (word, rest) => (.one word, rest)
  else
    match Property.grammarRows? name input with
    | some rows => .ok (rows, { input with components := [] })
    | none => takeTokens input

/-- Takes the word for important declarations, if it is there. -/
def takeImportant : Parser Bool :=
  Parser.succeeds do
    Parser.token (.delim '!')
    Parser.keyword "important"

/-- Tokens at which a value ends; the value of a custom property may hold blocks. -/
def endsValue (name : Text) (token : Token) : Bool :=
  token == .delim '!' || (! Property.isCustom name && token == .openBrace)

/-- Takes the value of a declaration after its colon. -/
def takeValue (name : Text) : Parser Declaration := do
  let rows ← Parser.before (endsValue name) (takeRows name)
  let important ← takeImportant
  Parser.finished
  pure ⟨Property.printedName name, rows, important⟩

/-- Takes a declaration after its name, given how to take its value, with the semicolon at its end. -/
def takeWith (value : Parser Declaration) : Parser Declaration := do
  let declaration ← Parser.before isSemicolon do
    Parser.token .colon
    value
  let _ ← Parser.optional (Parser.token .semicolon)
  pure declaration

/-- Takes a declaration of a property after its name. -/
def take (name : Text) : Parser Declaration := takeWith (takeValue name)

/-- Skips blanks, comments, semicolons and closing braces that close nothing. -/
def skipSeparators : Parser Unit := fun input =>
  .ok ((), input.dropWhile fun component =>
    isGap component || component.token = .semicolon || component.token = .closeBrace)

/-- Skips what is left in front of some tokens, and one component more. -/
def skipBehind (isEnd : Token → Bool) : Parser Unit := fun input =>
  (Parser.optional Parser.next (Parser.splitBefore isEnd input).2).map fun (_, rest) => ((), rest)

/-- Takes one item of a block that starts with a component, which has been taken. -/
def takeItem {α : Type} (one : Text → Parser α) (component : Component) : Parser α :=
  match component.token with
  | .ident name => one name
  | .atKeyword name => Parser.fail (.unknownRule name)
  | token => Parser.failAt component.start (.unexpectedToken token)

/-- Skips what is left of an item of a block that starts with a component. -/
def skipItem (component : Component) : Parser Unit :=
  match component.token with
  | .atKeyword _ => skipBehind endsHead
  | _ => skipBehind isSemicolon

/-- Takes the items of a block that have names, at most `fuel` of them. -/
def takeItems {α : Type} (tolerant : Bool) (one : Text → Parser α) : Nat → Parser (List α)
  | 0 => pure []
  | fuel + 1 => do
      skipSeparators
      match ← Parser.optional Parser.next with
      | none => pure []
      | some component =>
          if tolerant then
            match ← Parser.optional (takeItem one component) with
            | some found => do pure (found :: (← takeItems tolerant one fuel))
            | none => do
                skipItem component
                takeItems tolerant one fuel
          else do
            let found ← takeItem one component
            pure (found :: (← takeItems tolerant one fuel))

/-- Takes the items of a block that have names; a faulty item is a fault of the block. -/
def takeStrictly {α : Type} (one : Text → Parser α) : Parser (List α) := do
  takeItems false one ((← Parser.remaining) + 1)

/-- Takes the items of a block that have names; faulty items are left out. -/
def takeTolerantly {α : Type} (one : Text → Parser α) : Parser (List α) := do
  takeItems true one ((← Parser.remaining) + 1)

/-- Takes declarations of properties. -/
def takeAll : Parser (List Declaration) := takeStrictly take

end Declaration

end StyledMarkup.Css
