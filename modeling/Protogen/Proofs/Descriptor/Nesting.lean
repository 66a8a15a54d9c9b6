import Protogen.Descriptor.Basic

/-!
# Messages below messages

`MessageAt ms path m` says that `m` is found below the messages `ms` by the names
of `path`, the name of `m` itself included. Whatever is collected from the messages
of a file, however it is ordered, is collected from the messages found so.
-/

namespace Protogen

namespace Descriptor

inductive MessageAt : List MessageDescriptor → List String → MessageDescriptor → Prop
  | here {ms : List MessageDescriptor} {m : MessageDescriptor} :
      m ∈ ms → MessageAt ms [m.name] m
  | inside {ms : List MessageDescriptor} {m n : MessageDescriptor} {path : List String} :
      m ∈ ms → MessageAt m.nested path n → MessageAt ms (m.name :: path) n

namespace MessageAt

theorem path_ne_nil {ms : List MessageDescriptor} {path : List String} {n : MessageDescriptor}
    (h : MessageAt ms path n) : path ≠ [] := by
  cases h with
  | here => simp
  | inside => simp

theorem nested {ms : List MessageDescriptor} {path : List String} {m n : MessageDescriptor}
    (h : MessageAt ms path m) (hn : n ∈ m.nested) : MessageAt ms (path ++ [n.name]) n := by
  induction h with
  | here hm => exact .inside hm (.here hn)
  | inside hm _ ih => exact .inside hm (ih hn)

theorem self (m : MessageDescriptor) : MessageAt [m] [m.name] m := .here (List.mem_singleton_self m)

theorem not_nil {path : List String} {n : MessageDescriptor} : ¬MessageAt [] path n := by
  intro h
  cases h with
  | here hm => simp at hm
  | inside hm _ => simp at hm

theorem cons_iff (m : MessageDescriptor) (ms : List MessageDescriptor) (path : List String)
    (n : MessageDescriptor) :
    MessageAt (m :: ms) path n ↔ MessageAt [m] path n ∨ MessageAt ms path n := by
  constructor
  · intro h
    cases h with
    | here hn =>
        rcases List.mem_cons.mp hn with rfl | hn
        · exact .inl (.here (by simp))
        · exact .inr (.here hn)
    | inside hm h =>
        rcases List.mem_cons.mp hm with rfl | hm
        · exact .inl (.inside (by simp) h)
        · exact .inr (.inside hm h)
  · rintro (h | h)
    · cases h with
      | here hn => exact .here (List.mem_cons.mpr (.inl (List.mem_singleton.mp hn)))
      | inside hm h => exact .inside (List.mem_cons.mpr (.inl (List.mem_singleton.mp hm))) h
    · cases h with
      | here hn => exact .here (List.mem_cons_of_mem _ hn)
      | inside hm h => exact .inside (List.mem_cons_of_mem _ hm) h

theorem singleton_iff {m : MessageDescriptor} {path : List String} {n : MessageDescriptor} :
    MessageAt [m] path n ↔
      (path = [m.name] ∧ n = m) ∨ ∃ rest, path = m.name :: rest ∧ MessageAt m.nested rest n := by
  constructor
  · intro h
    cases h with
    | here hn =>
        obtain rfl := List.mem_singleton.mp hn
        exact .inl ⟨rfl, rfl⟩
    | inside hm h =>
        obtain rfl := List.mem_singleton.mp hm
        exact .inr ⟨_, rfl, h⟩
  · rintro (⟨rfl, rfl⟩ | ⟨rest, rfl, h⟩)
    · exact .here (by simp)
    · exact .inside (by simp) h

end MessageAt

end Descriptor

end Protogen
