import Mathlib.Logic.Relation
import Protogen.Proofs.Source.ModuleTree

/-!
# Values inside of values

A structure holds the value of each single message member and of each of its oneofs, and a
oneof that of each message variant; vectors and maps hold their elements elsewhere. A type
that contains itself in this way would have no finite size. Oneofs only stand between
structures, so whether there is such a type can be told from the structures alone.
-/

namespace Protogen

namespace Source

/-- Where an item stands, among all generated files. -/
structure Site where
  file : String
  modules : List String
  item : String
  deriving DecidableEq, Repr

/-- The types that can contain others. -/
inductive Node
  | struct (site : Site)
  | oneof (site : Site)

/-- Where a reference leads that is written in a module of the file; `layout` says what
the paths out of the file stand for. -/
def Reference.target? (layout : String → Option Site) (file : String) (above : List String) :
    Reference → Option Site
  | .inFile supers modules item =>
    (follow above (Reference.steps supers modules item)).map fun p => ⟨file, p.1, p.2⟩
  | .elsewhere path => layout path

def Cardinality.isRepeated : Cardinality → Bool
  | .repeated _ => true
  | .plain | .optional | .required => false

/-- The first type holds a value of the second. `emitted` says which items are generated
for the file with a name. -/
inductive Contains (emitted : String → List Item → Prop) (layout : String → Option Site) :
    Node → Node → Prop
  | field {file : String} {items : List Item} {above docs docs' : List String}
      {name name' : String} {members : List Member} {number : Int32} {reference : Reference}
      {type : TypeExpr} {cardinality : Cardinality} {site : Site} :
      emitted file items → Within items above (.struct docs name members) →
      .field docs' name' number (.message reference type) cardinality ∈ members →
      cardinality.isRepeated = false → reference.target? layout file above = some site →
      Contains emitted layout (.struct ⟨file, above, name⟩) (.struct site)
  | oneof {file : String} {items : List Item} {above docs docs' modules : List String}
      {name name' module type item : String} {members : List Member} {numbers : List Int32} :
      emitted file items → Within items above (.struct docs name members) →
      .oneof docs' name' module type numbers ∈ members →
      follow above [module, type] = some (modules, item) →
      Contains emitted layout (.struct ⟨file, above, name⟩) (.oneof ⟨file, modules, item⟩)
  | variant {file : String} {items : List Item} {above docs : List String} {name : String}
      {variants : List Variant} {v : Variant} {reference : Reference} {type : TypeExpr}
      {site : Site} :
      emitted file items → Within items above (.oneof docs name variants) → v ∈ variants →
      v.element = .message reference type → reference.target? layout file above = some site →
      Contains emitted layout (.oneof ⟨file, above, name⟩) (.struct site)

/-- The first structure holds a value of the second, in a member or in one of its oneofs. -/
def Holds (emitted : String → List Item → Prop) (layout : String → Option Site)
    (site inner : Site) : Prop :=
  Contains emitted layout (.struct site) (.struct inner) ∨
    ∃ oneof, Contains emitted layout (.struct site) (.oneof oneof) ∧
      Contains emitted layout (.oneof oneof) (.struct inner)

variable {emitted : String → List Item → Prop} {layout : String → Option Site}

theorem Holds.transGen {site inner : Site} (h : Holds emitted layout site inner) :
    Relation.TransGen (Contains emitted layout) (.struct site) (.struct inner) := by
  rcases h with h | ⟨oneof, hout, hin⟩
  · exact .single h
  · exact (Relation.TransGen.single hout).tail hin

/-- What a structure reaches: other structures, and oneofs of structures that it reaches. -/
def Reaches (emitted : String → List Item → Prop) (layout : String → Option Site)
    (site : Site) : Node → Prop
  | .struct inner => Relation.TransGen (Holds emitted layout) site inner
  | .oneof oneof => ∃ owner, Relation.ReflTransGen (Holds emitted layout) site owner ∧
      Contains emitted layout (.struct owner) (.oneof oneof)

theorem reaches_of_transGen {site : Site} {node : Node}
    (h : Relation.TransGen (Contains emitted layout) (.struct site) node) :
    Reaches emitted layout site node := by
  induction h with
  | @single node h =>
      cases node with
      | struct inner => exact .single (.inl h)
      | oneof oneof => exact ⟨site, .refl, h⟩
  | @tail before node _ h ih =>
      cases before with
      | struct owner =>
          cases node with
          | struct inner => exact ih.tail (.inl h)
          | oneof oneof => exact ⟨owner, ih.to_reflTransGen, h⟩
      | oneof oneof =>
          obtain ⟨owner, howner, hout⟩ := ih
          cases node with
          | struct inner => exact .tail' howner (.inr ⟨oneof, hout, h⟩)
          | oneof => nomatch h

/-- Some type contains itself exactly if some structure does, by way of structures. -/
theorem exists_contains_cycle_iff :
    (∃ node, Relation.TransGen (Contains emitted layout) node node) ↔
      ∃ site, Relation.TransGen (Holds emitted layout) site site := by
  constructor
  · rintro ⟨node, h⟩
    cases node with
    | struct site => exact ⟨site, reaches_of_transGen h⟩
    | oneof oneof =>
        -- The way around is begun at the structure behind the oneof instead.
        obtain ⟨inner, hfirst, hrest⟩ := Relation.TransGen.head'_iff.mp h
        cases inner with
        | oneof => nomatch hfirst
        | struct site =>
            rcases Relation.reflTransGen_iff_eq_or_transGen.mp hrest with heq | hrest
            · simp at heq
            · exact ⟨site, reaches_of_transGen (hrest.tail hfirst)⟩
  · rintro ⟨site, h⟩
    exact ⟨.struct site, Relation.TransGen.lift' Node.struct (fun _ _ => Holds.transGen) _ _ h⟩

end Source

end Protogen
