import SpriteStage.Block.Text
import SpriteStage.Program.Basic
/-!
The listing of a program: a line for each block at every depth, a block before its children, each
indented by two spaces for every loop around it.
-/

namespace SpriteStage

def indentation (depth : Nat) : String := String.ofList (List.replicate (2 * depth) ' ')

namespace Block

mutual

def lines (depth : Nat) : Block → List String
  | act id executed action => [indentation depth ++ (act id executed action).text]
  | loop id executed count body =>
    (indentation depth ++ (loop id executed count body).text) :: linesOf (depth + 1) body

def linesOf (depth : Nat) : List Block → List String
  | [] => []
  | b :: bs => b.lines depth ++ linesOf depth bs

end

end Block

def Program.listing (p : Program) : String :=
  String.join ((Block.linesOf 0 p.blocks).map (· ++ "\n"))

end SpriteStage
