import Mathlib.Data.List.DropRight
import Protogen.Proofs.Text.Pieces
import Protogen.Text.Blank

/-!
# Trimmed lines

If every line of a text is trimmed and then the whole, what is left are the parts between
the line feeds, each trimmed, without the empty ones at the ends: the carriage return that
belongs to the end of a line is blank and goes with the blanks before it. A carriage
return survives only between two other characters of one line.
-/

namespace Protogen

namespace Text

theorem trimChars_append_blank {c : Char} (h : isBlank c = true) (cs : List Char) :
    trimChars (cs ++ [c]) = trimChars cs := by
  rw [trimChars, trimChars, List.dropWhile_append]
  split
  · rename_i hempty
    rw [List.dropWhile_cons_of_pos h, List.isEmpty_iff.mp hempty, List.dropWhile_nil]
  · exact List.rdropWhile_concat_pos isBlank _ c h

theorem isInfix_trimChars (cs : List Char) : trimChars cs <:+: cs :=
  (List.rdropWhile_prefix _ _).isInfix.trans (List.dropWhile_suffix _).isInfix

/-- Neither the first character nor the last one is blank. -/
structure IsTight (cs : List Char) : Prop where
  head : ∀ c ∈ cs.head?, isBlank c = false
  getLast : ∀ c ∈ cs.getLast?, isBlank c = false

theorem isBlank_of_head?_dropWhile {c : Char} (cs : List Char)
    (h : c ∈ (cs.dropWhile isBlank).head?) : isBlank c = false := by
  have hhead := List.head?_dropWhile_not isBlank cs
  rw [Option.mem_def.mp h] at hhead
  exact hhead

theorem isTight_trimChars (cs : List Char) : IsTight (trimChars cs) where
  head := by
    intro c hc
    obtain ⟨rest, hrest⟩ := List.rdropWhile_prefix isBlank (cs.dropWhile isBlank)
    refine isBlank_of_head?_dropWhile cs ?_
    rw [← hrest, List.head?_append]
    exact Option.or_eq_some_iff.mpr (.inl hc)
  getLast := by
    intro c hc
    rw [trimChars, dropTrailing, List.getLast?_reverse] at hc
    exact isBlank_of_head?_dropWhile _ hc

theorem trimChars_eq_nil_iff (cs : List Char) :
    trimChars cs = [] ↔ ∀ c ∈ cs, isBlank c = true := by
  constructor
  · intro h c hc
    have hdropped := List.rdropWhile_eq_nil_iff.mp h
    rw [← cs.takeWhile_append_dropWhile (p := isBlank)] at hc
    rcases List.mem_append.mp hc with hc | hc
    · exact List.mem_takeWhile_imp hc
    · exact hdropped c hc
  · intro h
    rw [trimChars, List.dropWhile_eq_nil_iff.mpr h]
    rfl

/-- A list without the empty members at its ends. -/
def withoutEmptyEnds (ls : List (List Char)) : List (List Char) :=
  dropTrailing List.isEmpty (ls.dropWhile List.isEmpty)

theorem withoutEmptyEnds_append_nil (ls : List (List Char)) :
    withoutEmptyEnds (ls ++ [[]]) = withoutEmptyEnds ls := by
  rw [withoutEmptyEnds, withoutEmptyEnds, List.dropWhile_append]
  split
  · rename_i hempty
    rw [List.isEmpty_iff.mp hempty]
    rfl
  · exact List.rdropWhile_concat_pos List.isEmpty _ [] rfl

theorem withoutEmptyEnds_sublist (ls : List (List Char)) : (withoutEmptyEnds ls).Sublist ls :=
  (List.rdropWhile_prefix _ _).sublist.trans (List.dropWhile_sublist _)

theorem getLast?_withoutEmptyEnds_ne (ls : List (List Char)) :
    (withoutEmptyEnds ls).getLast? ≠ some [] := by
  intro hlast
  rw [withoutEmptyEnds, dropTrailing, List.getLast?_reverse] at hlast
  have hhead := List.head?_dropWhile_not List.isEmpty (ls.dropWhile List.isEmpty).reverse
  rw [hlast] at hhead
  simp at hhead

theorem flatten_withoutEmptyEnds (ls : List (List Char)) :
    (withoutEmptyEnds ls).flatten = ls.flatten := by
  have hfront := congrArg List.flatten (ls.takeWhile_append_dropWhile (p := List.isEmpty))
  have hback := congrArg List.flatten
    (List.rdropWhile_append_rtakeWhile (p := List.isEmpty) (l := ls.dropWhile List.isEmpty))
  have hempty : (ls.takeWhile List.isEmpty).flatten = [] :=
    List.flatten_eq_nil_iff.mpr fun l hl => by simpa using List.mem_takeWhile_imp hl
  have hempty' : ((ls.dropWhile List.isEmpty).rtakeWhile List.isEmpty).flatten = [] :=
    List.flatten_eq_nil_iff.mpr fun l hl => by simpa using List.mem_rtakeWhile_imp hl
  rw [List.flatten_append, hempty, List.nil_append] at hfront
  rw [List.flatten_append, hempty', List.append_nil] at hback
  rw [← hfront, ← hback]
  rfl

theorem dropWhile_isBlank_intercalate (ls : List (List Char)) (h : ∀ l ∈ ls, IsTight l) :
    (['\n'].intercalate ls).dropWhile isBlank = ['\n'].intercalate (ls.dropWhile List.isEmpty) := by
  induction ls with
  | nil => rfl
  | cons first ls ih =>
      obtain ⟨hfirst, hrest⟩ := List.forall_mem_cons.mp h
      cases first with
      | nil =>
          rw [List.dropWhile_cons_of_pos rfl, ← ih hrest]
          cases ls with
          | nil => rfl
          | cons second ls =>
              rw [List.intercalate_cons_cons]
              exact List.dropWhile_cons_of_pos (by decide)
      | cons c cs =>
          have hblank : isBlank c = false := hfirst.head c rfl
          rw [List.dropWhile_cons_of_neg (by simp)]
          cases ls with
          | nil => simp [hblank]
          | cons second ls =>
              rw [List.intercalate_cons_cons]
              exact List.dropWhile_cons_of_neg (by simp [hblank])

theorem dropTrailing_isBlank_intercalate (ls : List (List Char)) (h : ∀ l ∈ ls, IsTight l) :
    dropTrailing isBlank (['\n'].intercalate ls) =
      ['\n'].intercalate (dropTrailing List.isEmpty ls) := by
  induction ls using List.reverseRecOn with
  | nil => rfl
  | append_singleton ls last ih =>
      obtain ⟨hrest, hlast⟩ := List.forall_mem_append.mp h
      have hlast := List.forall_mem_singleton.mp hlast
      cases last using List.reverseRecOn with
      | nil =>
          have hdrop : dropTrailing List.isEmpty (ls ++ [[]]) = dropTrailing List.isEmpty ls :=
            List.rdropWhile_concat_pos List.isEmpty ls [] rfl
          rw [hdrop, ← ih hrest]
          by_cases hne : ls = []
          · rw [hne]
            rfl
          · rw [intercalate_concat ls hne, List.append_nil]
            exact List.rdropWhile_concat_pos isBlank _ '\n' (by decide)
      | append_singleton cs c =>
          have hblank : isBlank c = false := hlast.getLast c (by simp)
          have hdrop : dropTrailing List.isEmpty (ls ++ [cs ++ [c]]) = ls ++ [cs ++ [c]] :=
            List.rdropWhile_concat_neg List.isEmpty ls _ (by simp)
          rw [hdrop]
          by_cases hne : ls = []
          · rw [hne, List.nil_append, List.intercalate_singleton]
            exact List.rdropWhile_concat_neg isBlank cs c (by simp [hblank])
          · rw [intercalate_concat ls hne, ← List.append_assoc]
            exact List.rdropWhile_concat_neg isBlank _ c (by simp [hblank])

/-- To trim tight lines that are put together is to leave out the empty ones at the ends. -/
theorem trimChars_intercalate (ls : List (List Char)) (h : ∀ l ∈ ls, IsTight l) :
    trimChars (['\n'].intercalate ls) = ['\n'].intercalate (withoutEmptyEnds ls) := by
  rw [trimChars, dropWhile_isBlank_intercalate ls h, withoutEmptyEnds]
  exact dropTrailing_isBlank_intercalate _ fun l hl => h l ((List.dropWhile_sublist _).subset hl)

/-- At a line feed a line ends, without the carriage return before it. -/
theorem linesFrom_lineFeed (line cs : List Char) :
    ∃ first, linesFrom line ('\n' :: cs) = first :: linesFrom [] cs ∧
      trimChars first = trimChars line.reverse ∧
      (line.head? ≠ some '\r' → first = line.reverse) := by
  by_cases hreturn : ∃ start, line = '\r' :: start
  · obtain ⟨start, rfl⟩ := hreturn
    refine ⟨start.reverse, rfl, ?_, fun h => absurd rfl h⟩
    rw [List.reverse_cons, trimChars_append_blank (by decide)]
  · refine ⟨line.reverse, ?_, rfl, fun _ => rfl⟩
    rw [linesFrom]
    exact fun start hstart => hreturn ⟨start, hstart⟩

theorem linesFrom_cons {c : Char} (h : c ≠ '\n') (line cs : List Char) :
    linesFrom line (c :: cs) = linesFrom (c :: line) cs := by
  rw [linesFrom]
  exact h

theorem linesFrom_append (line cs rest : List Char) (h : '\n' ∉ cs) :
    linesFrom line (cs ++ rest) = linesFrom (cs.reverse ++ line) rest := by
  induction cs generalizing line with
  | nil => rfl
  | cons c cs ih =>
      obtain ⟨hc, hcs⟩ := not_or.mp (mt List.mem_cons.mpr h)
      rw [List.cons_append, linesFrom_cons (Ne.symm hc), ih _ hcs, List.reverse_cons,
        List.append_assoc]
      rfl

/-- Trimmed, the lines of a text are the parts between its line feeds, except that the last
one counts only if it is not empty. -/
theorem map_trimChars_linesFrom (line cs : List Char) (h : '\n' ∉ line) :
    ∃ rest, (rest = [] ∨ rest = [[]]) ∧
      ((line.reverse ++ cs).splitOn '\n').map trimChars =
        (linesFrom line cs).map trimChars ++ rest := by
  have hline : line.reverse.splitOn '\n' = [line.reverse] :=
    List.splitOn_eq_singleton (mt List.mem_reverse.mp h)
  induction cs generalizing line with
  | nil =>
      rw [List.append_nil, hline, linesFrom]
      cases line with
      | nil => exact ⟨[[]], .inr rfl, rfl⟩
      | cons c line => exact ⟨[], .inl rfl, rfl⟩
  | cons c cs ih =>
      by_cases hfeed : c = '\n'
      · obtain ⟨rest, hrest, ih⟩ := ih [] List.not_mem_nil (List.splitOn_nil _)
        obtain ⟨first, hlines, htrim, -⟩ := linesFrom_lineFeed line cs
        rw [List.reverse_nil, List.nil_append] at ih
        refine ⟨rest, hrest, ?_⟩
        rw [hfeed, List.splitOn_append_cons_self, hline, hlines, List.map_append, ih,
          List.map_singleton, List.map_cons, htrim]
        rfl
      · have hmem : '\n' ∉ c :: line := by simp [h, Ne.symm hfeed]
        obtain ⟨rest, hrest, ih⟩ :=
          ih (c :: line) hmem (List.splitOn_eq_singleton (mt List.mem_reverse.mp hmem))
        rw [List.reverse_cons, List.append_assoc, List.singleton_append] at ih
        exact ⟨rest, hrest, by rw [ih, linesFrom_cons hfeed]⟩

/-- Tight lines that are put together are read back, if the last one is not empty. -/
theorem linesFrom_intercalate (ls : List (List Char)) (hfeed : ∀ l ∈ ls, '\n' ∉ l)
    (htight : ∀ l ∈ ls, IsTight l) (hlast : ls.getLast? ≠ some []) :
    linesFrom [] (['\n'].intercalate ls) = ls := by
  induction ls with
  | nil => rfl
  | cons first ls ih =>
      obtain ⟨hfirst, hfeed⟩ := List.forall_mem_cons.mp hfeed
      obtain ⟨hends, htight⟩ := List.forall_mem_cons.mp htight
      cases ls with
      | nil =>
          have hline := linesFrom_append [] first [] hfirst
          have hne : first.reverse.isEmpty = false := by simpa using hlast
          rw [List.append_nil, List.append_nil, linesFrom, hne, List.reverse_reverse] at hline
          rw [List.intercalate_singleton, hline]
          rfl
      | cons second ls =>
          have hreturn : (first.reverse ++ []).head? ≠ some '\r' := by
            rw [List.append_nil, List.head?_reverse]
            exact fun hmem => absurd (hends.getLast _ hmem) (by decide)
          obtain ⟨line, hline, -, heq⟩ :=
            linesFrom_lineFeed (first.reverse ++ []) (['\n'].intercalate (second :: ls))
          rw [List.intercalate_cons_cons, List.append_assoc, linesFrom_append [] first _ hfirst,
            List.singleton_append, hline, heq hreturn, ih hfeed htight (by simpa using hlast)]
          simp

/-- The parts between the line feeds of a text, trimmed, without the empty ones at the
ends. -/
def innerLines (cs : List Char) : List (List Char) :=
  withoutEmptyEnds ((cs.splitOn '\n').map trimChars)

theorem of_mem_innerLines {cs l : List Char} (h : l ∈ innerLines cs) :
    IsTight l ∧ '\n' ∉ l := by
  obtain ⟨part, hpart, rfl⟩ := List.mem_map.mp ((withoutEmptyEnds_sublist _).subset h)
  exact ⟨isTight_trimChars part,
    fun hfeed => not_mem_of_mem_splitOn hpart ((isInfix_trimChars part).subset hfeed)⟩

theorem innerLines_eq (cs : List Char) :
    innerLines cs = withoutEmptyEnds ((linesFrom [] cs).map trimChars) := by
  obtain ⟨rest, hrest, hlines⟩ := map_trimChars_linesFrom [] cs List.not_mem_nil
  rw [List.reverse_nil, List.nil_append] at hlines
  rw [innerLines, hlines]
  rcases hrest with rfl | rfl
  · rw [List.append_nil]
  · exact withoutEmptyEnds_append_nil _

/-- What is left if every line of a text and then the whole is trimmed. -/
theorem toList_trim_intercalate (s : String) :
    (trim ("\n".intercalate ((lines s).map trim))).toList =
      ['\n'].intercalate (innerLines s.toList) := by
  have hmap : ((lines s).map trim).map String.toList = (linesFrom [] s.toList).map trimChars := by
    simp [lines, trim, Function.comp_def]
  have htight : ∀ l ∈ (linesFrom [] s.toList).map trimChars, IsTight l :=
    List.forall_mem_map.mpr fun l _ => isTight_trimChars l
  rw [trim, String.toList_ofList, String.toList_intercalate, hmap,
    show "\n".toList = ['\n'] from rfl, trimChars_intercalate _ htight, ← innerLines_eq]

theorem lines_trim_intercalate (s : String) :
    lines (trim ("\n".intercalate ((lines s).map trim))) =
      (innerLines s.toList).map String.ofList := by
  rw [lines, toList_trim_intercalate, linesFrom_intercalate _ (fun l hl => (of_mem_innerLines hl).2)
    (fun l hl => (of_mem_innerLines hl).1) (getLast?_withoutEmptyEnds_ne _)]

/-- Only if there are no lines, none of them has a character. -/
theorem innerLines_eq_nil_of_forall {cs : List Char} (h : ∀ l ∈ innerLines cs, l = []) :
    innerLines cs = [] := by
  by_contra hne
  have hlast := List.getLast?_eq_some_getLast hne
  rw [h _ (List.mem_of_getLast? hlast)] at hlast
  exact getLast?_withoutEmptyEnds_ne _ hlast

theorem innerLines_eq_nil_iff (cs : List Char) :
    innerLines cs = [] ↔ ∀ c ∈ cs, isBlank c = true := by
  have hflatten : innerLines cs = [] ↔ ((cs.splitOn '\n').map trimChars).flatten = [] := by
    rw [← flatten_withoutEmptyEnds, ← innerLines, List.flatten_eq_nil_iff]
    exact ⟨fun hnil => by simp [hnil], innerLines_eq_nil_of_forall⟩
  rw [hflatten, List.flatten_eq_nil_iff, List.forall_mem_map]
  simp only [trimChars_eq_nil_iff]
  constructor
  · intro h c hc
    by_cases hfeed : c = '\n'
    · rw [hfeed]
      decide
    · obtain ⟨part, hpart, hmem⟩ := exists_mem_splitOn hc hfeed
      exact h part hpart c hmem
  · exact fun h part hpart c hc => h c ((infix_of_mem_splitOn hpart).subset hc)

/-- Nothing is left exactly of a text of blanks. -/
theorem isEmpty_trim_intercalate (s : String) :
    (trim ("\n".intercalate ((lines s).map trim))).isEmpty = isBlankText s := by
  have hempty : (trim ("\n".intercalate ((lines s).map trim))).isEmpty = true ↔
      isBlankText s = true := by
    rw [String.isEmpty_iff, ← String.toList_eq_nil_iff, toList_trim_intercalate, isBlankText,
      List.all_eq_true, ← innerLines_eq_nil_iff]
    constructor
    · exact fun h => innerLines_eq_nil_of_forall fun l hl =>
        List.infix_nil.mp (h ▸ infix_of_mem_intercalate hl)
    · intro h
      rw [h]
      rfl
  exact Bool.eq_iff_iff.mpr hempty

theorem exists_dropWhile_append {α : Type} {p : α → Bool} {x : α} (hx : p x = false)
    (before rest : List α) :
    ∃ before', (before ++ x :: rest).dropWhile p = before' ++ x :: rest := by
  rw [List.dropWhile_append]
  split
  · exact ⟨[], List.dropWhile_cons_of_neg (by simp [hx])⟩
  · exact ⟨_, rfl⟩

theorem exists_dropTrailing_append {α : Type} {p : α → Bool} {y : α} (hy : p y = false)
    (before after : List α) :
    ∃ after', dropTrailing p (before ++ y :: after) = before ++ y :: after' := by
  have hreverse : (before ++ y :: after).reverse = after.reverse ++ y :: before.reverse := by simp
  obtain ⟨rest, hrest⟩ := exists_dropWhile_append hy after.reverse before.reverse
  refine ⟨rest.reverse, ?_⟩
  rw [dropTrailing, hreverse, hrest]
  simp

theorem mem_dropTrailing_iff {α : Type} {p : α → Bool} {x : α} (hx : p x = false) (xs : List α) :
    x ∈ dropTrailing p xs ↔ x ∈ xs := by
  constructor
  · exact fun h => (List.rdropWhile_prefix p xs).subset h
  · intro h
    have happend := List.rdropWhile_append_rtakeWhile (p := p) (l := xs)
    rw [← happend] at h
    refine (List.mem_append.mp h).resolve_right fun hmem => ?_
    rw [List.mem_rtakeWhile_imp hmem] at hx
    exact Bool.noConfusion hx

/-- A blank that trimming leaves stands between two characters that are not blank. -/
theorem mem_trimChars_iff {c : Char} (h : isBlank c = true) (cs : List Char) :
    c ∈ trimChars cs ↔ ∃ before x middle y after, cs = before ++ x :: (middle ++ y :: after) ∧
      isBlank x = false ∧ isBlank y = false ∧ c ∈ middle := by
  constructor
  · intro hc
    obtain ⟨before, after, hcs⟩ := isInfix_trimChars cs
    obtain ⟨hhead, hlast⟩ := isTight_trimChars cs
    have hne {d : Char} (hd : isBlank d = false) : c ≠ d := by
      rintro rfl
      simp [h] at hd
    cases htrim : trimChars cs with
    | nil => simp [htrim] at hc
    | cons x rest =>
        rw [htrim] at hc hcs hhead hlast
        have hx := hhead x rfl
        have hrest := (List.mem_cons.mp hc).resolve_left (hne hx)
        obtain rfl | ⟨middle, y, rfl⟩ := List.eq_nil_or_concat rest
        · simp at hrest
        · have hy := hlast y (by simp [List.getLast?_cons])
          refine ⟨before, x, middle, y, after, by simp [← hcs], hx, hy, ?_⟩
          simpa [hne hy] using hrest
  · rintro ⟨before, x, middle, y, after, rfl, hx, hy, hc⟩
    obtain ⟨before', hfront⟩ := exists_dropWhile_append hx before (middle ++ y :: after)
    obtain ⟨after', hback⟩ := exists_dropTrailing_append hy (before' ++ x :: middle) after
    have hsplit : before' ++ x :: (middle ++ y :: after) =
        before' ++ x :: middle ++ y :: after := by simp
    rw [trimChars, hfront, hsplit, hback]
    exact List.mem_append_left _ (List.mem_append_right _ (List.mem_cons_of_mem x hc))

/-- A carriage return stands between two characters of one line that are not blank. -/
def HasStrayReturn (cs : List Char) : Prop :=
  ∃ before x middle y after, cs = before ++ x :: (middle ++ y :: after) ∧
    isBlank x = false ∧ isBlank y = false ∧ '\r' ∈ middle ∧ '\n' ∉ middle

/-- The trimmed lines have a carriage return left exactly if there is a stray one. -/
theorem return_mem_innerLines_iff (cs : List Char) :
    (∃ l ∈ innerLines cs, '\r' ∈ l) ↔ HasStrayReturn cs := by
  have hblank : isBlank '\r' = true := by decide
  rw [← List.mem_flatten, innerLines, flatten_withoutEmptyEnds, List.mem_flatten]
  constructor
  · rintro ⟨l, hl, hreturn⟩
    obtain ⟨part, hpart, rfl⟩ := List.mem_map.mp hl
    obtain ⟨before, x, middle, y, after, rfl, hx, hy, hmem⟩ :=
      (mem_trimChars_iff hblank part).mp hreturn
    have hfeed : '\n' ∉ middle := fun hfeed => not_mem_of_mem_splitOn hpart (by simp [hfeed])
    obtain ⟨front, back, rfl⟩ := infix_of_mem_splitOn hpart
    exact ⟨front ++ before, x, middle, y, after ++ back, by simp, hx, hy, hmem, hfeed⟩
  · rintro ⟨before, x, middle, y, after, rfl, hx, hy, hmem, hfeed⟩
    have hends {c : Char} (hc : isBlank c = false) : '\n' ≠ c := by
      rintro rfl
      exact absurd hc (by decide)
    have hpart : '\n' ∉ x :: (middle ++ [y]) := by simp [hends hx, hfeed, hends hy]
    have hinfix : x :: (middle ++ [y]) <:+: before ++ x :: (middle ++ y :: after) :=
      ⟨before, after, by simp⟩
    obtain ⟨piece, hpiece, front, back, rfl⟩ := exists_mem_splitOn_of_infix hpart hinfix
    refine ⟨_, List.mem_map_of_mem hpiece, (mem_trimChars_iff hblank _).mpr ?_⟩
    exact ⟨front, x, middle, y, back, by simp, hx, hy, hmem⟩

end Text

end Protogen
