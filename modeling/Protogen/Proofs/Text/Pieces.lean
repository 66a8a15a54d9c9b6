import Mathlib.Data.List.Infix

/-!
# Pieces of a text

A text that is split at a separator falls into pieces without the separator, and put
together again the pieces are the text. So a part of the text lies in one of the pieces
exactly if the separator is not in it.
-/

namespace Protogen

namespace Text

theorem not_mem_of_mem_splitOn {separator : Char} {cs part : List Char}
    (h : part ∈ cs.splitOn separator) : separator ∉ part := by
  induction cs generalizing part with
  | nil =>
      obtain rfl : part = [] := by simpa [List.splitOn_nil] using h
      simp
  | cons c cs ih =>
      obtain ⟨first, rest, hsplit⟩ := List.exists_cons_of_ne_nil (List.splitOn_ne_nil separator cs)
      rw [List.splitOn_cons_eq_if_modifyHead] at h
      rw [hsplit] at h ih
      by_cases hc : c = separator
      · rw [if_pos (by simpa using hc), List.mem_cons] at h
        rcases h with rfl | h
        · simp
        · exact ih h
      · rw [if_neg (by simpa using hc), List.modifyHead_cons, List.mem_cons] at h
        rcases h with rfl | h
        · simpa [Ne.symm hc] using ih List.mem_cons_self
        · exact ih (List.mem_cons_of_mem _ h)

theorem infix_of_mem_intercalate {separator l : List Char} {ls : List (List Char)} (h : l ∈ ls) :
    l <:+: separator.intercalate ls := by
  induction ls with
  | nil => simp at h
  | cons first ls ih =>
      cases ls with
      | nil =>
          obtain rfl := List.mem_singleton.mp h
          rw [List.intercalate_singleton]
      | cons second ls =>
          rw [List.intercalate_cons_cons]
          rcases List.mem_cons.mp h with rfl | h
          · rw [List.append_assoc]
            exact (List.prefix_append _ _).isInfix
          · exact (ih h).trans (List.suffix_append _ _).isInfix

theorem infix_of_mem_splitOn {separator : Char} {cs piece : List Char}
    (h : piece ∈ cs.splitOn separator) : piece <:+: cs := by
  have hinfix : piece <:+: [separator].intercalate (cs.splitOn separator) :=
    infix_of_mem_intercalate h
  rwa [List.intercalate_splitOn] at hinfix

/-- Without the separator in it, a part of a text lies in one of the pieces. -/
theorem exists_mem_splitOn_of_infix {separator : Char} {part cs : List Char} (h : separator ∉ part)
    (hpart : part <:+: cs) : ∃ piece ∈ cs.splitOn separator, part <:+: piece := by
  obtain ⟨before, after, rfl⟩ := hpart
  induction before with
  | nil =>
      by_cases hmem : separator ∈ after
      · obtain ⟨first, rest, rfl, hfirst⟩ := List.eq_append_cons_of_mem hmem
        have hpiece : separator ∉ part ++ first := by simp [h, hfirst]
        refine ⟨part ++ first, ?_, (List.prefix_append _ _).isInfix⟩
        rw [List.nil_append, ← List.append_assoc, List.splitOn_append_cons_self,
          List.splitOn_eq_singleton hpiece]
        exact List.mem_cons_self
      · have hpiece : separator ∉ part ++ after := by simp [h, hmem]
        refine ⟨part ++ after, ?_, (List.prefix_append _ _).isInfix⟩
        rw [List.nil_append, List.splitOn_eq_singleton hpiece]
        exact List.mem_cons_self
  | cons c before ih =>
      obtain ⟨piece, hmem, hpiece⟩ := ih
      rw [List.append_assoc, List.cons_append, ← List.append_assoc,
        List.splitOn_cons_eq_if_modifyHead]
      obtain ⟨first, rest, hsplit⟩ :=
        List.exists_cons_of_ne_nil (List.splitOn_ne_nil separator (before ++ part ++ after))
      rw [hsplit] at hmem ⊢
      split
      · exact ⟨piece, List.mem_cons_of_mem _ hmem, hpiece⟩
      · rcases List.mem_cons.mp hmem with rfl | hmem
        · exact ⟨c :: piece, List.mem_cons_self, hpiece.trans (List.suffix_cons _ _).isInfix⟩
        · exact ⟨piece, List.mem_cons_of_mem _ hmem, hpiece⟩

theorem exists_mem_splitOn {separator c : Char} {cs : List Char} (h : c ∈ cs)
    (hne : c ≠ separator) : ∃ piece ∈ cs.splitOn separator, c ∈ piece := by
  have hpart : [c] <:+: cs := (List.singleton_infix_iff c cs).mpr h
  obtain ⟨piece, hpiece, hinfix⟩ :=
    exists_mem_splitOn_of_infix (mt List.mem_singleton.mp hne.symm) hpart
  exact ⟨piece, hpiece, hinfix.subset List.mem_cons_self⟩

theorem intercalate_concat {separator : Char} (ls : List (List Char)) (hne : ls ≠ [])
    (l : List Char) :
    [separator].intercalate (ls ++ [l]) = [separator].intercalate ls ++ [separator] ++ l := by
  induction ls with
  | nil => exact absurd rfl hne
  | cons first ls ih =>
      cases ls with
      | nil => simp [List.intercalate_cons_cons]
      | cons second ls =>
          have ih := ih (List.cons_ne_nil _ _)
          simp only [List.cons_append, List.intercalate_cons_cons, List.append_assoc] at ih ⊢
          rw [ih]

end Text

end Protogen
