import Protogen.Source.Layout
import Protogen.Source.TypeExpr

/-!
# Shapes of rows

How the rows of the parts of a type or a value are put together: in brackets,
with signs between them, and in braces with a line for each.
-/

namespace Protogen

namespace Source

/-- Rows with a text between neighbours. -/
def joinRows (between : String) : List (List Piece) → List Piece
  | [] => []
  | [row] => row
  | row :: rows => row ++ .text between :: joinRows between rows

/-- A tuple of one element keeps its comma. -/
def tupleRow : List (List Piece) → List Piece
  | [] => [.text "()"]
  | [row] => [.text "(", .box 4 true (.tight :: row ++ [.text ",", .final ""]), .text ")"]
  | rows => .text "(" :: Piece.items rows "," ++ [.text ")"]

def argumentsRow (rows : List (List Piece)) : List Piece :=
  if rows.isEmpty then [] else .text "<" :: Piece.items rows "," ++ [.text ">"]

/-- Bounds behind a name, which may take a line each. -/
def boundsRow (rows : List (List Piece)) : List Piece :=
  match rows with
  | [] => []
  | row :: rows => .text ": " :: row ++ rows.flatMap fun r => .space :: .text "+ " :: r

def arrowRow (output : List Piece) : List Piece :=
  if output.isEmpty then [] else .text " -> " :: output

def pathRow (rooted : Bool) (segments : List (List Piece)) : List Piece :=
  (if rooted then [.text "::"] else []) ++ joinRows "::" segments

def namesRow (rooted : Bool) (names : List String) : List Piece :=
  [.text ((if rooted then "::" else "") ++ "::".intercalate names ++ "!")]

def labelText (label : Option String) : String := (label.map (· ++ ": ")).getD ""

/-- The inputs of a function; no comma may follow a rest. -/
def inputsRow (rows : List (List Piece)) (endsInRest : Bool) : List Piece :=
  Piece.items rows (if endsInRest then "" else ",")

/-- The arguments of a call. A single one with brackets of its own takes no
further lines. -/
def callArgumentsRow (rows : List (List Piece)) (isBracketed : Bool) : List Piece :=
  match isBracketed, rows with
  | true, [row] => .text "(" :: row ++ [.text ")"]
  | _, rows => .text "(" :: Piece.items rows "," ++ [.text ")"]

/-- Several patterns with bars between them, which may take a line each. -/
def eitherRow : List (List Piece) → List Piece
  | [] => []
  | row :: rows => row ++ rows.flatMap fun r => .space :: .text "| " :: r

/-! ### Statements in braces -/

/-- The row of a statement, with what it ends in on a line of its own. -/
inductive StatementRow
  | empty
  /-- A value, which can share its line with braces around it. -/
  | value (row : List Piece) (ending : String)
  | line (row : List Piece)

namespace StatementRow

/-- The row of a statement as a line, unless it is empty. -/
def line? : StatementRow → Option (List Piece)
  | empty => none
  | value row ending => some [.box 0 false (row ++ [.text ending])]
  | line row => some row

end StatementRow

/-- Lines behind a gap, the last of which leads back to what is around them. -/
def linesRow (first : Nat) : List (List Piece) → List Piece
  | [] => [.gap ⟨first, -4, "", "", ""⟩]
  | row :: rows =>
    .gap ⟨first, 0, "", "", ""⟩ :: row ++ rows.flatMap (fun r => .lineEnd 0 :: r) ++
      [.lineEnd (-4)]

def bracesRow (inner : List Piece) : List Piece := .text "\x7b" :: inner ++ [.text "\x7d"]

/-- Statements in braces that belong to the box around them. A single value
shares the line with them if it can. -/
def blockRow : List StatementRow → List Piece
  | [] => [.text "\x7b\x7d"]
  | [.value row _] => bracesRow [.space, .box 0 false row, .gap ⟨1, -4, "", "", ""⟩]
  | rows => bracesRow (linesRow 1 (rows.filterMap StatementRow.line?))

/-- Statements in braces, each on a line of its own. -/
def bodyRow (rows : List StatementRow) : List Piece :=
  match rows.filterMap StatementRow.line? with
  | [] => [.text "\x7b\x7d"]
  | lines => bracesRow [.seam, .box 4 true (linesRow 0xFFFF lines)]

/-- A condition, with the gap or the space behind it. -/
def conditionRow (row : List Piece) (hasGap : Bool) : Piece :=
  .box 0 true (row ++ [if hasGap then .space else .text " "])

/-- What follows the condition of a conditional that nothing else follows. -/
def loneBranchRow (rows : List StatementRow) : List Piece :=
  if rows.isEmpty then [.text "\x7b\x7d"]
  else bracesRow (linesRow 0xFFFF (rows.filterMap StatementRow.line?))

/-- The cases of a choice, each on a line of its own. -/
def armsRow (rows : List (List Piece)) : List Piece :=
  if rows.isEmpty then [.text "\x7b\x7d"] else bracesRow (linesRow 0xFFFF rows)

/-- The most that a structure with its members can take of a line. -/
def recordRoom : Nat := 34

/-- The members of a structure; those that are not given come last. A value that is
too wide takes a line for each member, but a pattern can fill its line. -/
def recordRow (isPattern : Bool) (name : List Piece) (entries : List (List Piece))
    (others : List Piece) : Piece :=
  let start := name ++ [.text " \x7b"]
  let members := if others.isEmpty then entries else entries ++ [others]
  if members.isEmpty then .box 4 true (start ++ [.text "\x7d"])
  else
    let row := start ++ .space :: Piece.separated members
    let isWide := !isPattern && decide (recordRoom < rowWidth row + 1)
    .box 4 true
      (row ++ [.gap ⟨if isWide then 0xFFFF else 1, -4, if others.isEmpty then "," else "", "", ""⟩,
        .text "\x7d"])

/-- What an arm answers, on its line or in braces. -/
def armAnswerRow (row : List Piece) (isJump needsComma : Bool) : List Piece :=
  [.seam,
   .box 4 true
    (.gap ⟨0, 0, "\x7b", "", ""⟩ :: row ++
      [.gap ⟨0, -4, if isJump then ";" else "", "\x7d", if needsComma then "," else ""⟩])]

/-- The body of a closure, on its line or in braces. -/
def closureAnswerRow (row : List Piece) (isJump : Bool) : Piece :=
  .box 4 true
    (.gap ⟨0, 0, "\x7b", "", ""⟩ :: row ++ [.gap ⟨0, -4, if isJump then ";" else "", "\x7d", ""⟩])

/-- The inputs of a closure between bars; `last` is the gap before the second one. -/
def closureInputsRow (rows : List (List Piece)) (last : List Piece) : Piece :=
  .box 4 true
    (.text "|" :: (if rows.isEmpty then [] else .tight :: Piece.separated rows) ++ last)

end Source

end Protogen
