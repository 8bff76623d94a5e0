/-!
Outlines: nested values written out over many lines, with one member a line, four spaces of indent
for each level, and a comma behind every member.
-/

namespace SpriteStage.Text

inductive Outline where
  | word (text : String)
  | group (opening : String) (members : List (String × Outline)) (closing : String)

namespace Outline

def member (label : String) : List String → List String
  | [] => []
  | [line] => ["    " ++ label ++ line ++ ","]
  | first :: others => ("    " ++ label ++ first) :: rest others
where
  rest : List String → List String
    | [] => []
    | [line] => ["    " ++ line ++ ","]
    | line :: others => ("    " ++ line) :: rest others

mutual

def lines : Outline → List String
  | word text => [text]
  | group opening [] closing => [opening ++ closing]
  | group opening (m :: ms) closing => opening :: (linesOf (m :: ms) ++ [closing])

def linesOf : List (String × Outline) → List String
  | [] => []
  | (label, o) :: rest => member label o.lines ++ linesOf rest

end

def record (name : String) (fields : List (String × Outline)) : Outline :=
  group (name ++ " \x7b") (fields.map fun (label, o) => (label ++ ": ", o)) "\x7d"

def wrapped (name : String) (o : Outline) : Outline := group (name ++ "(") [("", o)] ")"

def sequence (items : List Outline) : Outline := group "[" (items.map fun o => ("", o)) "]"

def optional : Option Outline → Outline
  | some o => wrapped "Some" o
  | none => word "None"

end Outline

end SpriteStage.Text
