import Protogen.Source.AttributeRow
import Protogen.Source.RowShape
import Protogen.Source.TokenRow
import Protogen.Source.ValueForm

/-!
# Writing types

How types are laid out. Of the arguments of a path lifetimes come first, and an
empty list of arguments is not written at all. The arguments of a path in a value
stand behind a double colon. A type known by its bounds is always written with
the word for it.
-/

namespace Protogen

namespace Source

/-- The arguments that are lifetimes. -/
def lifetimeRows : List Argument → List (List Piece)
  | [] => []
  | .lifetime text :: rest => [.text text] :: lifetimeRows rest
  | _ :: rest => lifetimeRows rest

namespace Input

def isRest : Input → Bool
  | .rest _ => true
  | .attributed _ input => input.isRest
  | _ => false

end Input

/-- Where a value stands. -/
structure Place where
  /-- It begins the line of a statement. -/
  startsLine : Bool
  /-- A member is taken of it. -/
  isOwner : Bool
  /-- It is what a case of a choice answers. -/
  isAnswer : Bool

namespace Place

def inside : Place := ⟨false, false, false⟩

def lineStart : Place := ⟨true, false, false⟩

def answer : Place := ⟨true, false, true⟩

def function : Place := ⟨false, true, false⟩

def owner (place : Place) : Place := ⟨place.startsLine, true, false⟩

def single (place : Place) : Place := ⟨place.startsLine, place.isOwner, false⟩

end Place

/-- The row of an answer behind its pattern, on the line or in braces. -/
def answerRow (value : ValueExpr) (row : List Piece) : List Piece :=
  match value.sole with
  | .block _ _ | .tuple [] => row
  | value => armAnswerRow row value.bare.isJump (!value.endsWithItsBlock)

/-- The row of an owner, which is set apart if nothing is taken of it before. -/
def ownerRow (value : ValueExpr) (row : List Piece) : List Piece :=
  if value.isChain then row else [.box (-4) true row]

/-- The break before what is taken of a value. -/
def breakBefore (place : Place) (value : ValueExpr) : List Piece :=
  if place.startsLine && value.isShortName then [] else [.tight]

/-- What is taken of a value, in a box of its own unless more is taken of it. -/
def chainRow (place : Place) (row : List Piece) : List Piece :=
  if place.isOwner then row else [.box 4 true row]

/-- The row of a value as an argument: what is more than a literal, a name or a
block stands in braces. -/
def argumentValueRow (value : ValueExpr) (row : List Piece) : List Piece :=
  match value with
  | .literal _ | .path false [.plain _] | .block _ _ => row
  | _ => [.box 4 true (blockRow [.value row ""])]

mutual

def TypeExpr.row : TypeExpr → List Piece
  | .path rooted segments => pathRow rooted (segmentRows "" segments)
  | .qualified owner roleRooted role segments =>
    .text "<" :: owner.row ++
      (if role.isEmpty then []
        else .text " as " :: pathRow roleRooted (segmentRows "" role)) ++
      .text ">" :: pathRow true (segmentRows "" segments)
  | .reference lifetime mutable target =>
    [.text "&"] ++ (match lifetime with
      | some l => [.text (l ++ " ")]
      | none => []) ++ (if mutable then [.text "mut "] else []) ++ target.row
  | .pointer mutable target => .text (if mutable then "*mut " else "*const ") :: target.row
  | .slice element => .text "[" :: element.row ++ [.text "]"]
  | .array element length =>
    .text "[" :: element.row ++ .text "; " :: length.row .inside ++ [.text "]"]
  | .tuple elements => tupleRow (typeRows elements)
  | .group inner => .text "(" :: inner.row ++ [.text ")"]
  | .function binder qualities inputs output =>
    binderRow binder ++ .text (qualities ++ "fn(") ::
      inputsRow (inputRows inputs) ((inputs.getLast?.map Input.isRest).getD false) ++
      .text ")" :: arrowRow (outputRow output)
  | .object bounds => .text "dyn " :: joinRows " + " (boundRows bounds)
  | .hidden bounds => .text "impl " :: joinRows " + " (boundRows bounds)
  | .call rooted names bracket tokens => namesRow rooted names ++ Token.callRow bracket tokens
  | .never => [.text "!"]
  | .inferred => [.text "_"]

def outputRow : Option TypeExpr → List Piece
  | none => []
  | some type => type.row

def typeRows : List TypeExpr → List (List Piece)
  | [] => []
  | type :: types => type.row :: typeRows types

/-- A segment; `turn` stands before its arguments. -/
def Segment.row (turn : String) : Segment → List Piece
  | .plain name => [.text name]
  | .generic name arguments =>
    [.text (if arguments.isEmpty then name else name ++ turn)] ++
      argumentsRow (lifetimeRows arguments ++ argumentRows arguments)
  | .call name inputs output =>
    [.text name,
     .box 4 true
      (.text "(" ::
        (if inputs.isEmpty then [.final ""]
          else .tight :: Piece.separated (typeRows inputs) ++ [.final ","]) ++
        .text ")" :: arrowRow (outputRow output))]

def segmentRows (turn : String) : List Segment → List (List Piece)
  | [] => []
  | s :: ss => s.row turn :: segmentRows turn ss

/-- The arguments that are not lifetimes. -/
def argumentRows : List Argument → List (List Piece)
  | [] => []
  | .lifetime _ :: rest => argumentRows rest
  | .type type :: rest => type.row :: argumentRows rest
  | .value value :: rest => argumentValueRow value (value.row .inside) :: argumentRows rest
  | .binding name arguments type :: rest =>
    (.text name :: argumentsRow (lifetimeRows arguments ++ argumentRows arguments) ++
      .text " = " :: type.row) :: argumentRows rest
  | .valueBinding name arguments value :: rest =>
    (.text name :: argumentsRow (lifetimeRows arguments ++ argumentRows arguments) ++
      .text " = " :: argumentValueRow value (value.row .inside)) :: argumentRows rest
  | .bounded name arguments bounds :: rest =>
    (.text name :: argumentsRow (lifetimeRows arguments ++ argumentRows arguments) ++
      [.box 4 false (boundsRow (boundRows bounds))]) :: argumentRows rest

def Bound.row : Bound → List Piece
  | .lifetime text => [.text text]
  | .trait grouped optional binder rooted segments =>
    .text ((if grouped then "(" else "") ++ if optional then "?" else "") :: binderRow binder ++
      pathRow rooted (segmentRows "" segments) ++ if grouped then [.text ")"] else []
  | .captures names => [.text ("use<" ++ ", ".intercalate names ++ ">")]

def boundRows : List Bound → List (List Piece)
  | [] => []
  | b :: bs => b.row :: boundRows bs

def Parameter.row : Parameter → List Piece
  | .lifetime text bounds =>
    [.text (text ++ if bounds.isEmpty then "" else ": " ++ " + ".intercalate bounds)]
  | .type name bounds default =>
    [.text name,
     .box 4 false
      (boundsRow (boundRows bounds) ++
        match default with
        | none => []
        | some type => .space :: .text "= " :: type.row)]
  | .value name type default =>
    .text ("const " ++ name ++ ": ") :: type.row ++
      match default with
      | none => []
      | some value => .text " = " :: argumentValueRow value (value.row .inside)
  | .attributed attributes parameter => attributesRow attributes ++ parameter.row

def binderRow : Option (List Parameter) → List Piece
  | none => []
  | some parameters => .text "for<" :: joinRows ", " (parameterRows parameters) ++ [.text "> "]

def parameterRows : List Parameter → List (List Piece)
  | [] => []
  | p :: ps => p.row :: parameterRows ps

def Input.row : Input → List Piece
  | .plain type => type.row
  | .named name type => .text (name ++ ": ") :: type.row
  | .rest text => [.text text]
  | .attributed attributes input => attributesRow attributes ++ input.row

def inputRows : List Input → List (List Piece)
  | [] => []
  | input :: rest => input.row :: inputRows rest

/-- The row of a value, or of a pattern. -/
def ValueExpr.row (place : Place) : ValueExpr → List Piece
  | .literal text => [.text text]
  | .path rooted segments => pathRow rooted (segmentRows "::" segments)
  | .qualified owner roleRooted role segments =>
    .text "<" :: owner.row ++
      (if role.isEmpty then []
        else .text " as " :: pathRow roleRooted (segmentRows "" role)) ++
      .text ">" :: pathRow true (segmentRows "::" segments)
  | .marked mark operand => .text mark :: operand.row .inside
  | .binary left mark right =>
    [.box 4 false
      (.box (-4) false (left.row .inside) :: .space :: .text (mark ++ " ") :: right.row .inside)]
  | .assignment target value =>
    [.box 0 false (target.row .inside ++ .text " = " :: .seam :: value.row .inside)]
  | .range first mark last => endRow first ++ .text mark :: endRow last
  | .cast value type =>
    [.box 4 false (.box (-4) false (value.row .inside) :: .space :: .text "as " :: type.row)]
  | .apply function arguments =>
    (if place.isOwner then ownerRow function (function.row .function)
      else function.row place.single) ++
      callArgumentsRow (valueRows arguments) ((arguments.map ValueExpr.isBracketed).all id)
  | .method owner name parameters arguments =>
    chainRow place
      (ownerRow owner (owner.row place.owner) ++ breakBefore place owner ++
        .text ("." ++ name ++ if parameters.isEmpty then "" else "::") ::
        argumentsRow (lifetimeRows parameters ++ argumentRows parameters) ++
        [.box (if place.startsLine && !place.isOwner && owner.isShortName then -4 else 0) true
          (callArgumentsRow (valueRows arguments) ((arguments.map ValueExpr.isBracketed).all id))])
  | .member owner name =>
    chainRow place
      (ownerRow owner (owner.row place.owner) ++ breakBefore place owner ++ [.text ("." ++ name)])
  | .index owner position =>
    (if place.isOwner then ownerRow owner (owner.row place.single) else owner.row place.single) ++
      .text "[" :: position.row .inside ++ [.text "]"]
  | .attempt value =>
    (if place.isOwner then ownerRow value (value.row place.single) else value.row place.single) ++
      [.text "?"]
  | .group inner => .text "(" :: inner.row .inside ++ [.text ")"]
  | .tuple [] => if place.isAnswer then bodyRow [] else [.text "()"]
  | .tuple elements => tupleRow (valueRows elements)
  | .array elements => .text "[" :: Piece.items (valueRows elements) "," ++ [.text "]"]
  | .repeated element count =>
    .text "[" :: element.row .inside ++ .text "; " :: count.row .inside ++ [.text "]"]
  | .record isPattern name entries others =>
    [recordRow isPattern (name.row .inside) (entryRows entries) (endRow others)]
  | .block none [.value value false] =>
    if place.isAnswer then value.row place
    else [.box 4 true (blockRow [.value (value.row .lineStart) ""])]
  | .block label statements =>
    .text (labelText label) ::
      if place.isAnswer then bodyRow (statementRows statements)
      else [.box 4 true (blockRow (statementRows statements))]
  | .special words statements =>
    [.text words, .box 4 true (blockRow (statementRows statements))]
  | .conditional condition statements none =>
    [.box 4 true
      (.text "if " :: conditionRow (condition.row .inside) condition.needsGap ::
        loneBranchRow (statementRows statements))]
  | .conditional condition statements (some otherwise) =>
    [.box 4 true
      (.text "if " :: conditionRow (condition.row .inside) condition.needsGap ::
        blockRow (statementRows statements) ++ .text " else " :: otherwise.branchRow)]
  | .choice subject arms =>
    [.box 4 true
      (.text "match " :: conditionRow (subject.row .inside) subject.needsGap ::
        armsRow (armRows arms))]
  | .endless label statements =>
    .text (labelText label ++ "loop ") :: bodyRow (statementRows statements)
  | .whileTrue label condition statements =>
    .text (labelText label ++ "while ") ::
      conditionRow (condition.row .inside) condition.needsGap :: bodyRow (statementRows statements)
  | .forEach label pattern source statements =>
    [.box 0 false
      (.text (labelText label ++ "for ") :: pattern.row .inside ++ .text " in " :: .seam ::
        conditionRow (source.row .inside) source.needsGap :: bodyRow (statementRows statements))]
  | .closure binder qualities inputs none body =>
    [.box 0 false
      (binderRow binder ++ .text qualities ::
        closureInputsRow (valueRows inputs) [.text "|", .gap ⟨1, -4, "", "", ""⟩] :: .seam ::
        (if body.isBracketed then body.row .inside
          else [closureAnswerRow (body.row .inside) body.isJump]))]
  | .closure binder qualities inputs (some output) body =>
    [.box 0 false
      (binderRow binder ++ .text qualities ::
        closureInputsRow (valueRows inputs)
          (if inputs.isEmpty then [.text "|"] else [.final ",", .text "|"]) ::
        .text " -> " :: output.row ++ .text " " :: .seam :: body.row .inside)]
  | .matching pattern value =>
    .text "let " :: pattern.row .inside ++ .text " = " :: .seam :: value.row .inside
  | .jump words none => [.text words]
  | .jump words (some value) => .text (words ++ " ") :: value.row .inside
  | .call rooted names bracket tokens => namesRow rooted names ++ Token.callRow bracket tokens
  | .inferred => [.text "_"]
  | .bound words name none => [.text (words ++ name)]
  | .bound words name (some inner) => .text (words ++ name ++ " @ ") :: inner.row .inside
  | .either cases => [.box 0 true (eitherRow (valueRows cases))]
  | .typed pattern type => pattern.row .inside ++ .text ": " :: type.row
  | .attributed attributes value => attributesRow attributes ++ value.row place

/-- The row of what is done otherwise, in the box of the conditional before it. -/
def ValueExpr.branchRow : ValueExpr → List Piece
  | .conditional condition statements none =>
    .text "if " :: conditionRow (condition.row .inside) condition.needsGap ::
      blockRow (statementRows statements)
  | .conditional condition statements (some otherwise) =>
    .text "if " :: conditionRow (condition.row .inside) condition.needsGap ::
      blockRow (statementRows statements) ++ .text " else " :: otherwise.branchRow
  | .block _ statements => blockRow (statementRows statements)
  | _ => []

def endRow : Option ValueExpr → List Piece
  | none => []
  | some value => value.row .inside

def valueRows : List ValueExpr → List (List Piece)
  | [] => []
  | v :: vs => v.row .inside :: valueRows vs

def Entry.row : Entry → List Piece
  | .mk name none => [.text name]
  | .mk name (some value) => [.text (name ++ ": "), .box 0 false (value.row .inside)]
  | .attributed attributes entry => attributesRow attributes ++ entry.row

def entryRows : List Entry → List (List Piece)
  | [] => []
  | e :: es => e.row :: entryRows es

def guardRow : Option ValueExpr → List Piece
  | none => []
  | some value => .text " if " :: value.row .inside

def Arm.row : Arm → List Piece
  | .mk pattern guard body =>
    [.box 0 false
      (pattern.row .inside ++ guardRow guard ++ .text " => " ::
        answerRow body (body.row .answer))]
  | .attributed attributes arm => attributesRow attributes ++ arm.row

def armRows : List Arm → List (List Piece)
  | [] => []
  | a :: as => a.row :: armRows as

def Statement.row : Statement → StatementRow
  | .empty => .empty
  | .value value false => .value (value.row .lineStart) (if value.bare.isJump then ";" else "")
  | .value value true =>
    .line [.box 0 false
      (value.row .lineStart ++ [.text (if value.bare.hasNoResult then "" else ";")])]
  | .call rooted names bracket tokens =>
    .line (namesRow rooted names ++ Token.callRow bracket tokens ++
      [.text (if bracket = .curly then "" else ";")])
  | .binding pattern none _ => .line [.box 0 false (.text "let " :: pattern.row .inside), .text ";"]
  | .binding pattern (some value) none =>
    .line
      [.box 0 false
        (.text "let " :: pattern.row .inside ++ .text " = " :: .seam :: value.row .inside),
       .text ";"]
  | .binding pattern (some value) (some otherwise) =>
    .line
      [.box 0 false
        (.text "let " :: pattern.row .inside ++ .text " = " :: .seam :: value.row .inside ++
          [.space, .text "else "]),
       .seam, .box 4 true otherwise.branchRow, .text ";"]
  | .attributed attributes statement =>
    match statement.row with
    | .empty => .empty
    | .value row ending => .line (attributesRow attributes ++ row ++ [.text ending])
    | .line row => .line (attributesRow attributes ++ row)

def statementRows : List Statement → List StatementRow
  | [] => []
  | s :: rest => s.row :: statementRows rest

end

end Source

end Protogen
