/-!
# Tables of images

A table says what characters stand for. Characters with neighbouring numbers share
a row, which holds their images in order; the rows begin at increasing numbers.
-/

namespace Protogen

namespace Text

/-- The images of the characters from `first` on, one character each. -/
structure CharRow where
  first : Nat
  images : String
  deriving DecidableEq, Repr

/-- The images of the characters from `first` on. -/
structure TextRow where
  first : Nat
  images : List String
  deriving DecidableEq, Repr

def charImage? : List CharRow → Nat → Option Char
  | [], _ => none
  | r :: rs, n =>
    if n < r.first then none
    else match r.images.toList[n - r.first]? with
      | some image => some image
      | none => charImage? rs n

def textImage? : List TextRow → Nat → Option String
  | [], _ => none
  | r :: rs, n =>
    if n < r.first then none
    else match r.images[n - r.first]? with
      | some image => some image
      | none => textImage? rs n

end Text

end Protogen
