import CrossQuery.Pattern.Reader

/-!
# LIKE patterns

A percent sign stands for any text, an underscore for any character, and a backslash takes the
next character literally. A LIKE pattern covers the whole text. It is matched by way of the regular
expression that says the same.
-/

set_option autoImplicit false

namespace CrossQuery.Like

/-- The part of a regular expression for what a LIKE pattern asks for, up to the end of the text. A
backslash with nothing behind it stands for itself. -/
def expressionToEnd : List Char → List Char
  | [] => ['$']
  | '%' :: rest => '.' :: '*' :: expressionToEnd rest
  | '_' :: rest => '.' :: expressionToEnd rest
  | '\\' :: c :: rest => Pattern.escape [c] ++ expressionToEnd rest
  | c :: rest => Pattern.escape [c] ++ expressionToEnd rest

/-- The regular expression of a LIKE pattern, whose dots stand for line breaks, too. -/
def expression (like : List Char) : List Char :=
  '(' :: '?' :: 's' :: ')' :: '^' :: expressionToEnd like

/-- Whether a text is like a LIKE pattern. -/
def holds (like text : List Char) : Bool :=
  match Pattern.parse? (expression like) with
  | some pattern => pattern.occursIn text
  | none => false

end CrossQuery.Like
