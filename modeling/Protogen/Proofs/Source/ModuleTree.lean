import Protogen.Proofs.Source.PathReading
import Protogen.Source.Item

/-!
# The modules of a generated file

The items of a file lie in a tree of modules. A path is followed from the module in
which it is written: `super` leaves a module, every other name enters one, and the last
name is that of an item. There is nothing above the root of the file.
-/

namespace Protogen

namespace Source

/-- The item stands in the module that the names lead to from the root of `items`. -/
inductive Within : List Item → List String → Item → Prop
  | here {items : List Item} {item : Item} : item ∈ items → Within items [] item
  | inside {items inner : List Item} {docs : List String} {name : String} {path : List String}
      {item : Item} : Item.module docs name inner ∈ items → Within inner path item →
      Within items (name :: path) item

namespace Within

theorem mono {items more : List Item} {path : List String} {item : Item}
    (h : Within items path item) (hsub : items ⊆ more) : Within more path item := by
  cases h with
  | here hitem => exact .here (hsub hitem)
  | inside hmodule hinner => exact .inside (hsub hmodule) hinner

theorem append_iff {items more : List Item} {path : List String} {item : Item} :
    Within (items ++ more) path item ↔ Within items path item ∨ Within more path item := by
  constructor
  · intro h
    cases h with
    | here hitem =>
        rcases List.mem_append.mp hitem with hitem | hitem
        · exact .inl (.here hitem)
        · exact .inr (.here hitem)
    | inside hmodule hinner =>
        rcases List.mem_append.mp hmodule with hmodule | hmodule
        · exact .inl (.inside hmodule hinner)
        · exact .inr (.inside hmodule hinner)
  · rintro (h | h)
    · exact h.mono (List.subset_append_left _ _)
    · exact h.mono (List.subset_append_right _ _)

theorem not_nil {path : List String} {item : Item} : ¬Within [] path item := by
  intro h
  cases h with
  | here hitem => simp at hitem
  | inside hmodule _ => simp at hmodule

end Within

/-- Where a path leads that is written in the module `above`: a module, and the name
of an item there. -/
def follow (above : List String) : List String → Option (List String × String)
  | [] => none
  | [item] => some (above, item)
  | step :: next :: rest =>
    if step = "super" then
      if above.isEmpty then none else follow above.dropLast (next :: rest)
    else follow (above ++ [step]) (next :: rest)

theorem follow_down (above modules : List String) (item : String)
    (h : ∀ s ∈ modules, s ≠ "super") :
    follow above (modules ++ [item]) = some (above ++ modules, item) := by
  induction modules generalizing above with
  | nil => simp [follow]
  | cons s modules ih =>
      have hrest := ih (above ++ [s]) fun t ht => h t (List.mem_cons_of_mem _ ht)
      obtain ⟨next, rest, heq⟩ := List.exists_cons_of_ne_nil
        (show modules ++ [item] ≠ [] by simp)
      rw [List.cons_append, heq, follow, if_neg (h s List.mem_cons_self), ← heq, hrest,
        List.append_assoc, List.singleton_append]

theorem follow_up (above steps : List String) (hne : steps ≠ []) :
    follow above (List.replicate above.length "super" ++ steps) = follow [] steps := by
  generalize hn : above.length = n
  induction n generalizing above with
  | zero =>
      rw [List.length_eq_zero_iff.mp hn]
      rfl
  | succ n ih =>
      have hlength : above.dropLast.length = n := by rw [List.length_dropLast, hn]; rfl
      have hempty : above.isEmpty = false := by
        cases above with
        | nil => simp at hn
        | cons => rfl
      obtain ⟨next, rest, heq⟩ := List.exists_cons_of_ne_nil
        (show List.replicate n "super" ++ steps ≠ [] by simp [hne])
      rw [List.replicate_succ, List.cons_append, heq, follow, if_pos rfl, hempty,
        if_neg Bool.false_ne_true, ← heq, ih above.dropLast hlength]

/-- Going up to the root and down again leads to the item, from wherever it starts. -/
theorem follow_steps (above modules : List String) (item : String)
    (h : ∀ s ∈ modules, s ≠ "super") :
    follow above (Reference.steps above.length modules item) = some (modules, item) := by
  rw [Reference.steps, List.append_assoc, follow_up above _ (by simp), follow_down [] _ _ h]
  rfl

/-- The names of a path type without a root and without arguments. -/
def TypeExpr.names? : TypeExpr → Option (List String)
  | .path false segments =>
    if segments.all Segment.isPlain then some (segments.map Segment.name) else none
  | _ => none

theorem TypeExpr.names?_ofNames (names : List String) :
    (TypeExpr.ofNames false names).names? = some names := by
  have hplain : (names.map Segment.plain).all Segment.isPlain = true := by
    simp [Segment.isPlain]
  have hnames : (names.map Segment.plain).map Segment.name = names := by
    rw [List.map_map]
    exact List.map_id names
  rw [ofNames, names?, if_pos hplain, hnames]

/-- The names of the path that a text stands for. -/
def pathOfText? (text : String) : Option (List String) :=
  match TypeExpr.parse text with
  | .ok type => type.names?
  | .error _ => none

theorem pathOfText?_intercalate (steps : List String) (h : ∀ s ∈ steps, IsStep s)
    (hne : steps ≠ []) : pathOfText? ("::".intercalate steps) = some steps := by
  rw [pathOfText?, TypeExpr.parse_path steps h hne]
  exact TypeExpr.names?_ofNames steps

/-- The path that is written for an element: the type of a message, and the text that
names an enumeration. -/
def Element.path? : Element → Option (List String)
  | .scalar _ => none
  | .message _ type => type.names?
  | .enumeration reference => pathOfText? reference.text

/-- The element is written in an item of the module: for a member of a structure, for
the values of a map, or for a variant of a oneof. -/
inductive Writes (items : List Item) (path : List String) : Element → Prop
  | field {docs docs' : List String} {name name' : String} {members : List Member}
      {number : Int32} {element : Element} {cardinality : Cardinality} :
      Within items path (.struct docs name members) →
      .field docs' name' number element cardinality ∈ members → Writes items path element
  | mapValue {docs docs' : List String} {name name' : String} {members : List Member}
      {number : Int32} {key : Descriptor.Scalar} {value : Element} :
      Within items path (.struct docs name members) →
      .map docs' name' number key value ∈ members → Writes items path value
  | variant {docs : List String} {name : String} {variants : List Variant} {v : Variant} :
      Within items path (.oneof docs name variants) → v ∈ variants →
      Writes items path v.element

end Source

end Protogen
