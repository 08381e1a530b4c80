/-
# Statements

A document is a sequence of statements. A statement gives a key a value, opens a table,
or opens the next element of an array of tables. Keys are paths: each part but the last
names a table. Statements are what is written; which of them fit together is decided
when a table is built from them.
-/

import Telemetry.Decimal.Text
import Telemetry.Toml.Quoted

namespace Telemetry.Toml

/-- The parts of a key, of which the last names a value and the others tables. -/
structure Key where
  tables : List String
  last : String
deriving DecidableEq, Repr

/-- A value as it is written. -/
inductive Term where
  | text (content : String)
  | integer (number : Int)
  | float (number : Float)
  | boolean (truth : Bool)
  /-- A date or time, by its text. -/
  | moment (text : String)
  | array (elements : List Term)
  /-- A table between braces. -/
  | inline (entries : List (Key × Term))

/-- One statement of a document. -/
inductive Statement where
  | assign (key : Key) (value : Term)
  | openTable (key : Key)
  | openElement (key : Key)

/-- The text of one part of a key, which is quoted unless it is bare. -/
def renderPart (part : String) : String :=
  let text := part.toList
  if !text.isEmpty && text.all isBare then part
  else if Quotation.literal.suits text then String.ofList (Quotation.literal.write text)
  else String.ofList (Quotation.basic.write text)

/-- The text of a key. -/
def Key.render (key : Key) : String :=
  ".".intercalate ((key.tables ++ [key.last]).map renderPart)

/-- The text of a string. -/
def renderText (content : String) : String :=
  let text := content.toList
  String.ofList ((Quotation.choose text).write text)

mutual

/-- The text of a value, on one line unless strings break it. -/
def Term.render : Term → String
  | .text content => renderText content
  | .integer number => toString number
  | .float number => NumberStyle.document.render number
  | .boolean truth => if truth then "true" else "false"
  | .moment text => text
  | .array elements => "[" ++ ", ".intercalate (renderElements elements) ++ "]"
  | .inline entries => "\x7b " ++ ", ".intercalate (renderEntries entries) ++ " \x7d"

/-- The texts of the elements of an array. -/
def renderElements : List Term → List String
  | [] => []
  | element :: later => element.render :: renderElements later

/-- The texts of the entries of a table between braces. -/
def renderEntries : List (Key × Term) → List String
  | [] => []
  | (key, value) :: later => (key.render ++ " = " ++ value.render) :: renderEntries later

end

/-- The text of a statement. A table is set off by an empty line. -/
def Statement.render : Statement → String
  | .assign key value => key.render ++ " = " ++ value.render ++ "\n"
  | .openTable key => "\n[" ++ key.render ++ "]\n"
  | .openElement key => "\n[[" ++ key.render ++ "]]\n"

/-- The text of a document. -/
def render (statements : List Statement) : String :=
  String.join (statements.map Statement.render)

end Telemetry.Toml
