/-!
# Layout

A line of generated source is a row of pieces: texts, gaps at which the line may
break, and boxes that hold rows of their own. A box stays on its line if it and
everything that has to follow it before the next gap around it fit into the room
that is left. Otherwise it is broken: in an even box every gap begins a new line,
in an uneven one only a gap whose next stretch does not fit any more, and the
boxes inside decide for themselves. A line has room for 89 columns, its
indentation included, but never less than 60 after the indentation. Widths are
counted in bytes.
-/

namespace Protogen

namespace Source

/-- A place where a line may break. -/
structure Gap where
  /-- The spaces that stand here if it does not. -/
  blank : Nat
  /-- How much further in the new line begins than the box around the gap. -/
  offset : Int
  /-- What ends the broken line, what begins the new one, and what stands here if
  there is none. The last of these takes no room. -/
  before : String
  behind : String
  whole : String
  deriving DecidableEq, Repr

inductive Piece
  | text (s : String)
  | gap (gap : Gap)
  /-- A place that ends what has to fit before it, though no line breaks there. -/
  | seam
  /-- A row whose lines begin `indent` columns further in. -/
  | box (indent : Int) (even : Bool) (row : List Piece)
  deriving Inhabited

namespace Piece

/-- A gap with nothing to show. -/
def tight : Piece := .gap ⟨0, 0, "", "", ""⟩

/-- A gap with a space. -/
def space : Piece := .gap ⟨1, 0, "", "", ""⟩

/-- The last gap of a box that is indented by four, with what ends its last line. -/
def final (before : String) : Piece := .gap ⟨0, -4, before, "", ""⟩

/-- A gap at which every line breaks, since nothing fits together with it. -/
def lineEnd (offset : Int) : Piece := .gap ⟨0xFFFF, offset, "", "", ""⟩

/-- Rows with a comma and a gap between neighbours. -/
def separated : List (List Piece) → List Piece
  | [] => []
  | [row] => row
  | row :: rows => row ++ .text "," :: space :: separated rows

/-- Items between brackets that belong to the pieces around the list; `last`
follows the last item when every item has its own line. -/
def items (rows : List (List Piece)) (last : String) : List Piece :=
  if rows.isEmpty then [] else [.box 4 true (tight :: separated rows ++ [final last])]

/-- What a match arm answers, on the line of the arm or in a block. -/
def answer (row : List Piece) : Piece :=
  .box 4 true (.gap ⟨0, 0, "\x7b", "", ""⟩ :: row ++ [.gap ⟨0, -4, "", "\x7d", ","⟩])

end Piece

mutual

/-- The width of a piece that is not broken. -/
def Piece.width : Piece → Nat
  | .text s => s.utf8ByteSize
  | .gap g => g.blank
  | .seam => 0
  | .box _ _ row => rowWidth row

def rowWidth : List Piece → Nat
  | [] => 0
  | p :: ps => p.width + rowWidth ps

end

/-- The width of a row up to its first gap, or up to the first gap behind it. -/
def widthToGap (after : Nat) : List Piece → Nat
  | [] => after
  | .gap _ :: _ | .seam :: _ => 0
  | p :: ps => p.width + widthToGap after ps

def spaces (count : Nat) : String := String.ofList (List.replicate count ' ')

mutual

def Piece.flat : Piece → String
  | .text s => s
  | .gap g => spaces g.blank ++ g.whole
  | .seam => ""
  | .box _ _ row => flatRow row

def flatRow : List Piece → String
  | [] => ""
  | p :: ps => p.flat ++ flatRow ps

end

def indentation (columns : Int) : String := spaces columns.toNat

/-- The room after the indentation of a new line. -/
def roomAfter (columns : Int) : Int := max (89 - columns) 60

def breakLine (columns : Int) (g : Gap) : String × Int :=
  (g.before ++ "\n" ++ indentation (columns + g.offset) ++ g.behind,
   roomAfter (columns + g.offset) - g.behind.utf8ByteSize)

mutual

/-- The text of a piece and the room it leaves on its last line. `columns` is
the indentation of the box that the piece stands in, which is broken, `room` what
its line has left, and `after` the width of what must follow. -/
def Piece.place (columns : Int) (even : Bool) (room : Int) (after : Nat) :
    Piece → String × Int
  | .text s => (s, room - s.utf8ByteSize)
  | .gap g =>
    if !even && decide (Int.ofNat (g.blank + after) ≤ room) then
      (spaces g.blank ++ g.whole, room - g.blank - g.whole.utf8ByteSize)
    else breakLine columns g
  | .seam => ("", room)
  | .box indent even row =>
    if Int.ofNat (rowWidth row + after) ≤ room then (flatRow row, room - rowWidth row)
    else placeRow (columns + indent) even room after row

def placeRow (columns : Int) (even : Bool) (room : Int) (after : Nat) :
    List Piece → String × Int
  | [] => ("", room)
  | p :: ps =>
    let head := p.place columns even room (widthToGap after ps)
    let tail := placeRow columns even head.2 after ps
    (head.1 ++ tail.1, tail.2)

end

/-- A row as a line of its own. -/
def layoutLine (columns : Nat) (row : List Piece) : String :=
  indentation columns ++ (placeRow columns true (roomAfter columns) 0 row).1 ++ "\n"

end Source

end Protogen
