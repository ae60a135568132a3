import StyledMarkup.Css.Lexer

namespace StyledMarkup.Css

/-!
# Components

Lexemes between brackets that belong together form a block.  A stylesheet is a
sequence of components: blocks and the lexemes outside of them.  Closing
brackets that close nothing stand for themselves; blocks that are not closed
end with the stylesheet.
-/

/-- A lexeme, or a block with its opening lexeme and the location of its end. -/
inductive Component where
  | leaf (lexeme : Lexeme)
  | block (opening : Lexeme) (content : List Component) (closing : Location)
      (close? : Option Lexeme)

namespace Component

/-- The first lexeme of a component. -/
def first : Component → Lexeme
  | .leaf lexeme => lexeme
  | .block opening _ _ _ => opening

/-- The first token of a component. -/
def token (component : Component) : Token := component.first.token

/-- The name of an identifier. -/
def ident? (component : Component) : Option Text :=
  match component.token with
  | .ident name => some name
  | _ => none

/-- Where a component starts. -/
def start (component : Component) : Location := component.first.start

/-- The token that closes a block with the given opening token. -/
def closer? : Token → Option Token
  | .function _ => some .closeParen
  | .openParen => some .closeParen
  | .openBracket => some .closeBracket
  | .openBrace => some .closeBrace
  | _ => none

/-- A block whose end has not been found yet, its content backwards. -/
structure Frame where
  opening : Lexeme
  content : List Component

/-- Components that have been read so far, innermost block first, backwards. -/
structure Reading where
  frames : List Frame
  outside : List Component

/-- Adds a component to the innermost block. -/
def Reading.add (reading : Reading) (component : Component) : Reading :=
  match reading.frames with
  | [] => { reading with outside := component :: reading.outside }
  | frame :: rest =>
      { reading with frames := { frame with content := component :: frame.content } :: rest }

/-- The token closes the innermost block. -/
def Reading.closes (reading : Reading) (token : Token) : Bool :=
  match reading.frames with
  | [] => false
  | frame :: _ => closer? frame.opening.token == some token

/-- Ends the innermost block. -/
def Reading.close (reading : Reading) (closing : Location) (close? : Option Lexeme) : Reading :=
  match reading.frames with
  | [] => reading
  | frame :: rest =>
      { reading with frames := rest }.add
        (.block frame.opening frame.content.reverse closing close?)

/-- Takes the next lexeme. -/
def Reading.take (reading : Reading) (lexeme : Lexeme) : Reading :=
  if reading.closes lexeme.token then reading.close lexeme.start (some lexeme)
  else if (closer? lexeme.token).isSome then
    { reading with frames := ⟨lexeme, []⟩ :: reading.frames }
  else reading.add (.leaf lexeme)

/-- Ends all blocks that are still open. -/
def Reading.finish (finish : Location) : Nat → Reading → List Component
  | 0, reading => reading.outside.reverse
  | fuel + 1, reading => Reading.finish finish fuel (reading.close finish none)

/-- The components of lexemes that end at a location. -/
def ofLexemes (finish : Location) (lexemes : List Lexeme) : List Component :=
  let reading := lexemes.foldl Reading.take ⟨[], []⟩
  reading.finish finish reading.frames.length

mutual

/-- The text that a component was read from. -/
def source : Component → Text
  | .leaf lexeme => lexeme.source
  | .block opening content _ close? =>
      opening.source ++ sources content ++ ((close?.map Lexeme.source).getD [])

/-- The text that components were read from. -/
def sources : List Component → Text
  | [] => []
  | component :: rest => component.source ++ sources rest

end

/-- A closed text for the end of a block. -/
def closerText (opening : Token) : Text := ((closer? opening).map Token.print).getD []

/-- The location after a component. -/
def stop : Component → Location
  | .leaf lexeme => lexeme.stop
  | .block _ _ closing close? => (close?.map Lexeme.stop).getD closing

/-- The component is a comment. -/
def isComment : Component → Bool
  | .leaf lexeme => match lexeme.token with
      | .comment _ => true
      | _ => false
  | _ => false

/-- The component is a blank. -/
def isBlank : Component → Bool
  | .leaf lexeme => match lexeme.token with
      | .blank _ => true
      | _ => false
  | _ => false

mutual

/-- Number of components inside and including a component. -/
def size : Component → Nat
  | .leaf _ => 1
  | .block _ content _ _ => sizes content + 1

/-- Number of components inside and including components. -/
def sizes : List Component → Nat
  | [] => 0
  | component :: rest => component.size + sizes rest

end

end Component

end StyledMarkup.Css
