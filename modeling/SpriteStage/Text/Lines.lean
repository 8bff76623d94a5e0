/-!
Lines of a text, and places in it. A line ends at a line feed, which takes a carriage return right
before it along; the last line need not be ended.
-/

namespace SpriteStage.Text

def lineChars : List Char → List (List Char)
  | [] => []
  | '\n' :: cs => [] :: lineChars cs
  | '\r' :: '\n' :: cs => [] :: lineChars cs
  | c :: cs =>
    match lineChars cs with
    | [] => [[c]]
    | line :: others => (c :: line) :: others

def lines (text : String) : List String := (lineChars text.toList).map String.ofList

def unlines (lines : List String) : String := String.join (lines.map (· ++ "\n"))

def isWhite (c : Char) : Bool :=
  let n := c.toNat
  (9 ≤ n && n ≤ 13) || (8192 ≤ n && n ≤ 8202)
    || [32, 133, 160, 5760, 8232, 8233, 8239, 8287, 12288].contains n

def unindented (text : String) : String := String.ofList (text.toList.dropWhile isWhite)

def charsBefore : Nat → List Char → List Char
  | _, [] => []
  | offset, c :: cs => if offset = 0 then [] else c :: charsBefore (offset - c.utf8Size) cs

def occursIn (part : List Char) : List Char → Bool
  | [] => part.isEmpty
  | c :: cs => part.isPrefixOf (c :: cs) || occursIn part cs

def dropEndings (ending : List Char) : Nat → List Char → List Char
  | 0, text => text
  | count + 1, text =>
    if ending.isSuffixOf text then dropEndings ending count (text.take (text.length - ending.length))
    else text

/-- A place in a text: the number of line ends before it, and of characters between the last of them
and it. -/
structure Position where
  line : Nat
  column : Nat
deriving DecidableEq

def Position.ofOffset (text : String) (offset : Nat) : Position :=
  let before := charsBefore offset text.toList
  ⟨before.count '\n', (before.reverse.takeWhile (· ≠ '\n')).length⟩

end SpriteStage.Text
