import Mathlib.Data.List.Basic
import Protogen.Files.Path
import Protogen.Proofs.Text.Pieces

/-!
# The components of joined paths and of directories

A path is determined by its pieces, and its components by theirs: only the first piece can be
more than what it is elsewhere. So the components of a joined path are those of both parts,
and a directory above a path, which is a beginning of its pieces, has a beginning of its
components.
-/

namespace Protogen

namespace Files

/-! ### Pieces -/

theorem pieces_ne_nil (path : String) : pieces path ≠ [] := by
  simp [pieces, List.splitOn_ne_nil]

@[simp] theorem pieces_empty : pieces "" = [""] := rfl

theorem pieces_of_not_mem {s : String} (h : '/' ∉ s.toList) : pieces s = [s] := by
  simp [pieces, List.splitOn_eq_singleton h]

@[simp] theorem pieces_dot : pieces "." = ["."] := pieces_of_not_mem (by simp)

theorem pieces_append_slash (before after : String) :
    pieces (before ++ "/" ++ after) = pieces before ++ pieces after := by
  have hslash : "/".toList = ['/'] := rfl
  rw [pieces, String.toList_append, String.toList_append, hslash, List.append_assoc,
    List.singleton_append, List.splitOn_append_cons_self, List.map_append]
  rfl

@[simp] theorem pieces_root : pieces "/" = ["", ""] := by
  simpa using pieces_append_slash "" ""

theorem not_mem_of_mem_pieces {path piece : String} (h : piece ∈ pieces path) :
    '/' ∉ piece.toList := by
  obtain ⟨part, hpart, rfl⟩ := List.mem_map.mp h
  simpa using Text.not_mem_of_mem_splitOn hpart

/-- Pieces that are put together can be taken apart again. -/
theorem pieces_intercalate {parts : List String} (hparts : ∀ part ∈ parts, '/' ∉ part.toList)
    (hne : parts ≠ []) : pieces ("/".intercalate parts) = parts := by
  have hslash : "/".toList = ['/'] := rfl
  have hsplit : (['/'].intercalate (parts.map String.toList)).splitOn '/' =
      parts.map String.toList :=
    List.splitOn_intercalate '/' (by simpa using hparts) (by simpa using hne)
  rw [pieces, String.toList_intercalate, hslash, hsplit, List.map_map]
  simp

theorem intercalate_pieces (path : String) : "/".intercalate (pieces path) = path := by
  have hslash : "/".toList = ['/'] := rfl
  have hjoin : ['/'].intercalate (path.toList.splitOn '/') = path.toList :=
    List.intercalate_splitOn '/'
  rw [← String.toList_inj, String.toList_intercalate, hslash, pieces, List.map_map]
  simp [Function.comp_def]

/-! ### Components -/

/-- The component that only the first piece can be. -/
def frontOf : List String → List Component
  | [] => []
  | piece :: rest =>
    if piece = "" ∧ rest ≠ [] then [.root] else if piece = "." then [.current] else []

/-- An empty piece is in front of a path that begins with a slash. -/
theorem isAbsolute_iff (path : String) :
    isAbsolute path = true ↔ ∃ rest, rest ≠ [] ∧ pieces path = "" :: rest := by
  rw [isAbsolute, decide_eq_true_eq, pieces]
  cases path.toList with
  | nil => simp [List.splitOn_nil]
  | cons c cs =>
      obtain ⟨first, rest, hsplit⟩ := List.exists_cons_of_ne_nil (List.splitOn_ne_nil '/' cs)
      rw [List.splitOn_cons_eq_if_modifyHead, hsplit]
      by_cases hc : c = '/'
      · simp [hc]
      · simp [hc, ← String.toList_inj]

theorem frontComponents_eq (path : String) : frontComponents path = frontOf (pieces path) := by
  obtain ⟨piece, rest, hpieces⟩ := List.exists_cons_of_ne_nil (pieces_ne_nil path)
  have habs : isAbsolute path = true ↔ piece = "" ∧ rest ≠ [] := by
    rw [isAbsolute_iff, hpieces]
    constructor
    · rintro ⟨other, hne, heq⟩
      obtain ⟨rfl, rfl⟩ := List.cons.inj heq
      exact ⟨rfl, hne⟩
    · rintro ⟨rfl, hne⟩
      exact ⟨rest, hne, rfl⟩
  simp only [frontComponents, habs, hpieces, frontOf, List.head?_cons, Option.some.injEq]

theorem components_eq (path : String) :
    components path = frontOf (pieces path) ++ (pieces path).filterMap Component.ofPiece? := by
  rw [components, frontComponents_eq]

theorem frontOf_append {front rest rest' : List String} (hne : front ≠ []) (hrest : rest ≠ [])
    (hrest' : rest' ≠ []) : frontOf (front ++ rest) = frontOf (front ++ rest') := by
  obtain ⟨piece, front, rfl⟩ := List.exists_cons_of_ne_nil hne
  simp [frontOf, hrest, hrest']

theorem frontOf_append_of_ne {front : List String} (hne : front ≠ []) (hempty : front ≠ [""])
    (rest : List String) : frontOf (front ++ rest) = frontOf front := by
  obtain ⟨piece, front, rfl⟩ := List.exists_cons_of_ne_nil hne
  have hmore : piece = "" → front ≠ [] := by
    rintro rfl rfl
    exact hempty rfl
  by_cases hpiece : piece = ""
  · simp [frontOf, hpiece, hmore hpiece]
  · simp [frontOf, hpiece]

/-! ### Joined paths -/

/-- The pieces of a joined path are those of its parts, apart from an empty one at the end
of the base. -/
theorem exists_pieces_join (base : String) :
    ∃ above, (pieces base = above ∨ pieces base = above ++ [""]) ∧
      (base ≠ "" → above ≠ []) ∧
      ∀ path, isAbsolute path = false → pieces (join base path) = above ++ pieces path := by
  by_cases hempty : base = ""
  · refine ⟨[], .inr (by simp [hempty]), fun h => absurd hempty h, fun path hpath => ?_⟩
    simp [join, hpath, hempty]
  by_cases hlast : base.toList.getLast? = some '/'
  · obtain ⟨cs, hcs⟩ := List.getLast?_eq_some_iff.mp hlast
    have hbase : base = String.ofList cs ++ "/" := by
      rw [← String.toList_inj, String.toList_append, String.toList_ofList, hcs]
      rfl
    refine ⟨pieces (String.ofList cs), .inr ?_, fun _ => pieces_ne_nil _, fun path hpath => ?_⟩
    · have hend := pieces_append_slash (String.ofList cs) ""
      rwa [String.append_empty, ← hbase, pieces_empty] at hend
    · rw [join, if_neg (by simp [hpath]), if_pos (by simp [hlast]), hbase, pieces_append_slash]
  · refine ⟨pieces base, .inl rfl, fun _ => pieces_ne_nil _, fun path hpath => ?_⟩
    rw [join, if_neg (by simp [hpath]), if_neg (by simp [hempty, hlast]), pieces_append_slash]

/-- Below a base a path has the components of the base, followed by its own. -/
theorem components_join {base path : String} (hbase : base ≠ "")
    (hpath : isAbsolute path = false) :
    components (join base path) =
      components base ++ (pieces path).filterMap Component.ofPiece? := by
  obtain ⟨above, habove, hne, hjoin⟩ := exists_pieces_join base
  have hempty : Component.ofPiece? "" = none := rfl
  rw [components_eq, components_eq, hjoin path hpath, List.filterMap_append, ← List.append_assoc]
  rcases habove with habove | habove
  · have hsome : above ≠ [""] := by
      rintro rfl
      have hback := intercalate_pieces base
      rw [habove, String.intercalate_singleton] at hback
      exact hbase hback.symm
    rw [habove, frontOf_append_of_ne (hne hbase) hsome]
  · rw [habove, frontOf_append (hne hbase) (pieces_ne_nil path) (List.cons_ne_nil "" [])]
    simp [List.filterMap_append, hempty]

/-! ### Directories above a path -/

/-- The directory lies on the way to the path: its components come first. -/
def LeadsTowards (directory path : String) : Prop :=
  ∃ rest, rest ≠ [] ∧ components path = components directory ++ rest

theorem isSolid_iff (piece : String) : isSolid piece = true ↔ piece ≠ "" ∧ piece ≠ "." := by
  rw [isSolid, Component.ofPiece?]
  by_cases hplain : piece = "" ∨ piece = "."
  · rcases hplain with rfl | rfl <;> simp
  · rw [if_neg hplain]
    rw [not_or] at hplain
    split <;> simp [hplain]

/-- The paths above end at a solid piece, or they are the front alone. -/
theorem mem_ancestorsFrom {anchor directory : String} {reversed : List String}
    (h : directory ∈ ancestorsFrom anchor reversed) :
    (directory = anchor ∧ anchor ≠ "") ∨ ∃ below piece above, reversed = below ++ piece :: above ∧
      isSolid piece ∧ directory = anchor ++ "/".intercalate (piece :: above).reverse := by
  induction reversed with
  | nil =>
      rw [ancestorsFrom] at h
      split at h
      · simp at h
      · rename_i hanchor
        exact .inl ⟨List.mem_singleton.mp h, by simpa using hanchor⟩
  | cons piece above ih =>
      have hmore (hdirectory : directory ∈ ancestorsFrom anchor above) :
          (directory = anchor ∧ anchor ≠ "") ∨ ∃ below next rest,
            piece :: above = below ++ next :: rest ∧ isSolid next ∧
              directory = anchor ++ "/".intercalate (next :: rest).reverse := by
        rcases ih hdirectory with hanchor | ⟨below, next, rest, rfl, hsolid, hdirectory⟩
        · exact .inl hanchor
        · exact .inr ⟨piece :: below, next, rest, rfl, hsolid, hdirectory⟩
      rw [ancestorsFrom] at h
      split at h
      · rename_i hsolid
        rcases List.mem_cons.mp h with rfl | h
        · exact .inr ⟨[], piece, above, rfl, hsolid, rfl⟩
        · exact hmore h
      · exact hmore h

/-- All but the first of them leave a solid piece out. -/
theorem mem_tail_ancestorsFrom {anchor directory : String} {reversed : List String}
    (h : directory ∈ (ancestorsFrom anchor reversed).tail) :
    ∃ below piece above, reversed = below ++ piece :: above ∧ isSolid piece ∧
      directory ∈ ancestorsFrom anchor above := by
  induction reversed with
  | nil =>
      rw [ancestorsFrom] at h
      split at h <;> simp at h
  | cons piece above ih =>
      rw [ancestorsFrom] at h
      split at h
      · rename_i hsolid
        exact ⟨[], piece, above, rfl, hsolid, h⟩
      · obtain ⟨below, next, rest, rfl, hsolid, hdirectory⟩ := ih h
        exact ⟨piece :: below, next, rest, rfl, hsolid, hdirectory⟩

/-- A path is anchored at its first piece, or not at all. -/
theorem anchored_cases (path : String) :
    (∃ piece rest, pieces path = "" :: piece :: rest ∧ anchored path = ("/", piece :: rest)) ∨
      (∃ rest, pieces path = "." :: rest ∧ anchored path = (".", "" :: rest)) ∨
      anchored path = ("", pieces path) := by
  rw [anchored]
  split
  · rename_i piece rest heq
    exact .inl ⟨piece, rest, heq, rfl⟩
  · rename_i rest heq
    exact .inr (.inl ⟨rest, heq, rfl⟩)
  · exact .inr (.inr rfl)

/-- Some pieces of a path, put together, are the pieces of what comes out. -/
theorem pieces_intercalate_of_infix {path : String} {before parts after : List String}
    (h : pieces path = before ++ parts ++ after) (hne : parts ≠ []) :
    pieces ("/".intercalate parts) = parts := by
  refine pieces_intercalate (fun part hpart => ?_) hne
  have hmem : part ∈ pieces path := by
    rw [h]
    simp [hpart]
  exact not_mem_of_mem_pieces hmem

/-- What is put together of the anchor and the pieces up to a solid one has just these. -/
theorem exists_pieces_of_anchored {path anchor piece : String} {taken below : List String}
    (h : anchored path = (anchor, taken ++ piece :: below)) (hsolid : isSolid piece) :
    ∃ lead, pieces (anchor ++ "/".intercalate (taken ++ [piece])) = lead ++ [piece] ∧
      pieces path = lead ++ piece :: below := by
  rcases anchored_cases path with ⟨next, rest, hpieces, hanchored⟩ | ⟨rest, hpieces, hanchored⟩ |
    hanchored <;> obtain ⟨rfl, hrest⟩ := Prod.mk.inj (hanchored.symm.trans h)
  · have hparts : pieces path = [""] ++ (taken ++ [piece]) ++ below := by
      rw [hpieces, hrest]
      simp
    have hslash : "/" ++ "/".intercalate (taken ++ [piece]) =
        "" ++ "/" ++ "/".intercalate (taken ++ [piece]) := by simp
    refine ⟨"" :: taken, ?_, by simp [hparts]⟩
    rw [hslash, pieces_append_slash, pieces_intercalate_of_infix hparts (by simp)]
    rfl
  · obtain _ | ⟨first, taken⟩ := taken
    · obtain ⟨rfl, -⟩ := List.cons.inj hrest
      simp [isSolid_iff] at hsolid
    · obtain ⟨rfl, rfl⟩ := List.cons.inj hrest
      have hparts : pieces path = ["."] ++ (taken ++ [piece]) ++ below := by
        rw [hpieces]
        simp
      have hslash : "." ++ "/".intercalate ("" :: taken ++ [piece]) =
          "." ++ "/" ++ "/".intercalate (taken ++ [piece]) := by
        obtain ⟨second, more, heq⟩ := List.exists_cons_of_ne_nil
          (List.append_ne_nil_of_right_ne_nil taken (List.cons_ne_nil piece []))
        rw [List.cons_append, heq, String.intercalate_cons_cons, String.empty_append,
          String.append_assoc]
      refine ⟨"." :: taken, ?_, by simp [hparts]⟩
      rw [hslash, pieces_append_slash, pieces_intercalate_of_infix hparts (by simp)]
      rfl
  · have hparts : pieces path = [] ++ (taken ++ [piece]) ++ below := by
      rw [hrest]
      simp
    refine ⟨taken, ?_, hrest⟩
    rw [String.empty_append, pieces_intercalate_of_infix hparts (by simp)]

theorem isAbsolute_of_anchored {path : String} {rest : List String}
    (h : anchored path = ("/", rest)) : isAbsolute path = true := by
  rcases anchored_cases path with ⟨piece, rest', hpieces, -⟩ | ⟨_, -, heq⟩ | heq
  · exact (isAbsolute_iff path).mpr ⟨piece :: rest', List.cons_ne_nil _ _, hpieces⟩
  · simp [heq] at h
  · simp [heq] at h

/-- A directory above a path is the root, or its pieces are the first ones of the path, and
there are no slashes at its end. -/
theorem exists_pieces_of_mem_ancestors {directory path : String}
    (h : directory ∈ ancestors path) :
    (directory = "/" ∧ isAbsolute path = true) ∨ ∃ lead piece below, piece ≠ "" ∧
      pieces directory = lead ++ [piece] ∧ pieces path = lead ++ piece :: below := by
  rcases hanchored : anchored path with ⟨anchor, rest⟩
  rw [ancestors, hanchored] at h
  rcases mem_ancestorsFrom h with ⟨rfl, hanchor⟩ | ⟨below, piece, above, hrest, hsolid, rfl⟩
  · rcases anchored_cases path with ⟨_, _, -, heq⟩ | ⟨below, hpieces, heq⟩ | heq <;>
      obtain ⟨rfl, -⟩ := Prod.mk.inj (hanchored.symm.trans heq)
    · exact .inl ⟨rfl, isAbsolute_of_anchored hanchored⟩
    · exact .inr ⟨[], ".", below, by simp, pieces_dot, hpieces⟩
    · exact absurd rfl hanchor
  · have hsplit : rest = above.reverse ++ piece :: below.reverse := by
      rw [← List.reverse_reverse rest, hrest]
      simp
    rw [hsplit] at hanchored
    obtain ⟨lead, hlead, hpieces⟩ := exists_pieces_of_anchored hanchored hsolid
    rw [List.reverse_cons]
    exact .inr ⟨lead, piece, below.reverse, ((isSolid_iff piece).mp hsolid).1, hlead, hpieces⟩

/-- The directories above a path lie on the way to it. -/
theorem leadsTowards_of_mem_ancestors {directory path : String}
    (h : directory ∈ (ancestors path).tail) : LeadsTowards directory path := by
  rcases hanchored : anchored path with ⟨anchor, rest⟩
  rw [ancestors, hanchored] at h
  obtain ⟨later, next, reversed, hreversed, hnext, hmem⟩ := mem_tail_ancestorsFrom h
  have hrest : rest = reversed.reverse ++ next :: later.reverse := by
    rw [← List.reverse_reverse rest, hreversed]
    simp
  obtain ⟨component, hcomponent⟩ := Option.isSome_iff_exists.mp hnext
  rcases mem_ancestorsFrom hmem with ⟨rfl, hanchor⟩ | ⟨below, piece, above, hsplit, hsolid, rfl⟩
  · have hfound : rest.filterMap Component.ofPiece? ≠ [] := by
      simp [hrest, hcomponent]
    refine ⟨rest.filterMap Component.ofPiece?, hfound, ?_⟩
    rw [components_eq, components_eq]
    rcases anchored_cases path with ⟨piece, rest', hpieces, heq⟩ | ⟨rest', hpieces, heq⟩ | heq <;>
      obtain ⟨rfl, rfl⟩ := Prod.mk.inj (hanchored.symm.trans heq)
    · simp [hpieces, pieces_root, frontOf, Component.ofPiece?]
    · simp [hpieces, pieces_dot, frontOf, Component.ofPiece?]
    · exact absurd rfl hanchor
  · have hrest' : rest = above.reverse ++ piece :: (below.reverse ++ next :: later.reverse) := by
      rw [hrest, hsplit]
      simp
    rw [hrest'] at hanchored
    obtain ⟨lead, hlead, hpieces⟩ := exists_pieces_of_anchored hanchored hsolid
    have hfound : (below.reverse ++ next :: later.reverse).filterMap Component.ofPiece? ≠ [] := by
      simp [hcomponent]
    refine ⟨_, hfound, ?_⟩
    have hpath : pieces path =
        (lead ++ [piece]) ++ (below.reverse ++ next :: later.reverse) := by
      rw [hpieces]
      simp
    have hne : lead ++ [piece] ≠ [""] := by
      intro heq
      have hlast := (List.append_inj' (heq.trans (List.nil_append [""]).symm) rfl).2
      exact ((isSolid_iff piece).mp hsolid).1 (List.singleton_inj.mp hlast)
    rw [List.reverse_cons, components_eq, components_eq, hlead, hpath,
      frontOf_append_of_ne (by simp) hne, List.filterMap_append, List.append_assoc]

end Files

end Protogen
