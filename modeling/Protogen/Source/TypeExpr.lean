import Protogen.Source.Token

/-!
# Type expressions

The types that can stand in generated source: paths with their arguments,
references, pointers, arrays, tuples, functions, types known by the traits they
have, and calls that stand for a type. Lengths of arrays and some arguments are
values, so the expressions for values belong to types too, and with them the
statements that a value may hold. A pattern is written like the values that it
stands for, so it is a value expression, in which names may be bound.
-/

namespace Protogen

namespace Source

/-- A note on what stands behind it. -/
inductive Attribute
  | doc (text : String)
  | plain (rooted : Bool) (names : List String)
  | list (rooted : Bool) (names : List String) (bracket : Bracket) (tokens : List Token)
  | valued (rooted : Bool) (names : List String) (value : List Token)

mutual

inductive TypeExpr
  /-- `segments` below the root of all crates if `rooted`. -/
  | path (rooted : Bool) (segments : List Segment)
  /-- What `segments` mean for `owner` as something that has the trait `role`. -/
  | qualified (owner : TypeExpr) (roleRooted : Bool) (role : List Segment)
      (segments : List Segment)
  | reference (lifetime : Option String) (mutable : Bool) (target : TypeExpr)
  | pointer (mutable : Bool) (target : TypeExpr)
  | slice (element : TypeExpr)
  | array (element : TypeExpr) (length : ValueExpr)
  | tuple (elements : List TypeExpr)
  | group (inner : TypeExpr)
  /-- A function; `qualities` says how it is called. -/
  | function (binder : Option (List Parameter)) (qualities : String) (inputs : List Input)
      (output : Option TypeExpr)
  /-- Anything that has the bounds, looked up when the program runs. -/
  | object (bounds : List Bound)
  /-- One type that has the bounds. -/
  | hidden (bounds : List Bound)
  | call (rooted : Bool) (names : List String) (bracket : Bracket) (tokens : List Token)
  | never
  | inferred

inductive Segment
  | plain (name : String)
  | generic (name : String) (arguments : List Argument)
  | call (name : String) (inputs : List TypeExpr) (output : Option TypeExpr)

inductive Argument
  | lifetime (text : String)
  | type (type : TypeExpr)
  | value (value : ValueExpr)
  | binding (name : String) (arguments : List Argument) (type : TypeExpr)
  | valueBinding (name : String) (arguments : List Argument) (value : ValueExpr)
  | bounded (name : String) (arguments : List Argument) (bounds : List Bound)

inductive Bound
  | lifetime (text : String)
  | trait (grouped optional : Bool) (binder : Option (List Parameter)) (rooted : Bool)
      (segments : List Segment)
  | captures (names : List String)

/-- A parameter that a binder introduces. -/
inductive Parameter
  | lifetime (text : String) (bounds : List String)
  | type (name : String) (bounds : List Bound) (default : Option TypeExpr)
  | value (name : String) (type : TypeExpr) (default : Option ValueExpr)
  | attributed (attributes : List Attribute) (parameter : Parameter)

/-- An argument of a function type. -/
inductive Input
  | plain (type : TypeExpr)
  | named (name : String) (type : TypeExpr)
  /-- Any number of further arguments, as they are written. -/
  | rest (text : String)
  | attributed (attributes : List Attribute) (input : Input)

inductive ValueExpr
  | literal (text : String)
  | path (rooted : Bool) (segments : List Segment)
  | qualified (owner : TypeExpr) (roleRooted : Bool) (role : List Segment)
      (segments : List Segment)
  | marked (mark : String) (operand : ValueExpr)
  | binary (left : ValueExpr) (mark : String) (right : ValueExpr)
  | assignment (place value : ValueExpr)
  | range (first : Option ValueExpr) (mark : String) (last : Option ValueExpr)
  | cast (value : ValueExpr) (type : TypeExpr)
  | apply (function : ValueExpr) (arguments : List ValueExpr)
  | method (owner : ValueExpr) (name : String) (parameters : List Argument)
      (arguments : List ValueExpr)
  | member (owner : ValueExpr) (name : String)
  | index (owner position : ValueExpr)
  | attempt (value : ValueExpr)
  | group (inner : ValueExpr)
  | tuple (elements : List ValueExpr)
  | array (elements : List ValueExpr)
  | repeated (element count : ValueExpr)
  /-- A structure, or the pattern of one; `others` stands for the members that are
  not given. -/
  | record (isPattern : Bool) (name : ValueExpr) (entries : List Entry)
      (others : Option ValueExpr)
  /-- Statements between braces. -/
  | block (label : Option String) (statements : List Statement)
  /-- A block that is run as the words before it say. -/
  | special (words : String) (statements : List Statement)
  | conditional (condition : ValueExpr) (statements : List Statement)
      (otherwise : Option ValueExpr)
  | choice (subject : ValueExpr) (arms : List Arm)
  | endless (label : Option String) (statements : List Statement)
  | whileTrue (label : Option String) (condition : ValueExpr) (statements : List Statement)
  | forEach (label : Option String) (pattern source : ValueExpr) (statements : List Statement)
  | closure (binder : Option (List Parameter)) (qualities : String) (inputs : List ValueExpr)
      (output : Option TypeExpr) (body : ValueExpr)
  /-- Whether a value has the shape of a pattern. -/
  | matching (pattern value : ValueExpr)
  /-- A jump: the words for it, and what it takes along. -/
  | jump (words : String) (value : Option ValueExpr)
  | call (rooted : Bool) (names : List String) (bracket : Bracket) (tokens : List Token)
  | inferred
  /-- A name for what is there, after words that say how it is held. -/
  | bound (words name : String) (inner : Option ValueExpr)
  /-- One of several patterns. -/
  | either (cases : List ValueExpr)
  | typed (pattern : ValueExpr) (type : TypeExpr)
  | attributed (attributes : List Attribute) (value : ValueExpr)

/-- A member of a structure. It has the name of its value if it has no other. -/
inductive Entry
  | mk (name : String) (value : Option ValueExpr)
  | attributed (attributes : List Attribute) (entry : Entry)

/-- A case of a choice. -/
inductive Arm
  | mk (pattern : ValueExpr) (guard : Option ValueExpr) (body : ValueExpr)
  | attributed (attributes : List Attribute) (arm : Arm)

inductive Statement
  | empty
  | value (value : ValueExpr) (closed : Bool)
  /-- A call that stands for statements. -/
  | call (rooted : Bool) (names : List String) (bracket : Bracket) (tokens : List Token)
  /-- Names for the parts of a value, and the block that is left if it has none. -/
  | binding (pattern : ValueExpr) (value otherwise : Option ValueExpr)
  | attributed (attributes : List Attribute) (statement : Statement)

end

instance : Inhabited TypeExpr := ⟨.never⟩

instance : Inhabited ValueExpr := ⟨.inferred⟩

/-- The path of the given names, without arguments. -/
def TypeExpr.ofNames (rooted : Bool) (names : List String) : TypeExpr :=
  .path rooted (names.map Segment.plain)

namespace Segment

def name : Segment → String
  | plain name | generic name _ | call name _ _ => name

def isPlain : Segment → Bool
  | plain _ => true
  | _ => false

/-- Whether the segment has no arguments, or an empty list of them. -/
def isBare : Segment → Bool
  | plain _ => true
  | generic _ arguments => arguments.isEmpty
  | call _ _ _ => false

end Segment

namespace Bound

def isTrait : Bound → Bool
  | trait _ _ _ _ _ => true
  | _ => false

/-- The bound in parentheses. -/
def inGroup : Bound → Bound
  | trait _ optional binder rooted segments => .trait true optional binder rooted segments
  | bound => bound

end Bound

end Source

end Protogen
