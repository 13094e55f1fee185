/-
RouteAccess/Json/Display.lean

Values as they are shown in messages: texts in quotes, `None`, `True` and
`False` for the three words, arrays in brackets and objects in braces, and the
name of the kind of a value.
-/
import RouteAccess.Json.Writer
import RouteAccess.Text.Quoted

namespace RouteAccess

namespace Json

mutual

/-- A value as messages show it. -/
def display : Json → List Char
  | null => "None".toList
  | bool true => "True".toList
  | bool false => "False".toList
  | int n => writeInt n
  | float x => x.text.toList
  | str s => Text.quotedChars s.toList
  | arr items => '[' :: displayItems items ++ [']']
  | obj fields => '\x7b' :: displayFields fields ++ ['\x7d']

/-- Items as messages show them, between commas. -/
def displayItems : List Json → List Char
  | [] => []
  | [item] => display item
  | item :: next :: rest => display item ++ ',' :: ' ' :: displayItems (next :: rest)

/-- Fields as messages show them, between commas. -/
def displayFields : List (String × Json) → List Char
  | [] => []
  | [(name, value)] => Text.quotedChars name.toList ++ ':' :: ' ' :: display value
  | (name, value) :: next :: rest =>
    Text.quotedChars name.toList ++ ':' :: ' ' :: display value ++
      ',' :: ' ' :: displayFields (next :: rest)

end

/-- A value as messages show it. -/
def shown (value : Json) : String :=
  String.ofList (display value)

/-- A value as text: a text is itself, any other value is as messages show it. -/
def plain : Json → String
  | str s => s
  | value => shown value

/-- The name of the kind of a value. -/
def kindName : Json → String
  | null => "NoneType"
  | bool _ => "bool"
  | int _ => "int"
  | float _ => "float"
  | str _ => "str"
  | arr _ => "list"
  | obj _ => "dict"

end Json

end RouteAccess
