import Protogen.CommandLine.Configuration
import Protogen.Proofs.PathMapping.Packages

/-!
# Mappings that are given as arguments

A mapping is given as a text with an equals sign. Before the first one stands a package, with
any number of dots in front, and behind it a path. Nothing more is asked of the two than not to
be empty, so a package that no type can lie in is taken as well, and nobody is told.
-/

namespace Protogen

namespace CommandLine

open PathMapping Generator Request Text

/-- The text has an equals sign. Before the first one stands the proto path, behind it the path,
without the blanks around them. The proto path is more than dots, and the path is not empty. -/
structure IsMapping (text proto path : String) : Prop where
  sides : ∃ left right, text = left ++ "=" ++ right ∧ '=' ∉ left.toList ∧ proto = trim left ∧
    path = trim right
  proto_ne : withoutLeadingDots proto ≠ ""
  path_ne : path ≠ ""

theorem splitAtEquals?_eq_some_iff (text left right : String) :
    splitAtEquals? text = some (left, right) ↔
      text = left ++ "=" ++ right ∧ '=' ∉ left.toList := by
  have hequals : "=".toList = ['='] := rfl
  constructor
  · intro h
    rw [splitAtEquals?] at h
    split at h
    · simp at h
    · rename_i c behind hdrop
      obtain ⟨rfl, rfl⟩ := Prod.mk.inj (Option.some.inj h)
      obtain rfl : '=' = c := by
        have hnot := List.head?_dropWhile_not (· != '=') text.toList
        rw [hdrop] at hnot
        exact (bne_eq_false_iff_eq.mp hnot).symm
      refine ⟨?_, ?_⟩
      · rw [← String.toList_inj, String.toList_append, String.toList_append, hequals,
          String.toList_ofList, String.toList_ofList, List.append_assoc, List.singleton_append,
          ← hdrop, List.takeWhile_append_dropWhile]
      · rw [String.toList_ofList]
        intro hmem
        simpa using List.mem_takeWhile_imp hmem
  · rintro ⟨rfl, hleft⟩
    have hpos : ∀ c ∈ left.toList, (c != '=') = true := by
      intro c hc
      simpa using fun heq : c = '=' => hleft (heq ▸ hc)
    have htext : (left ++ "=" ++ right).toList = left.toList ++ '=' :: right.toList := by
      simp [hequals]
    rw [splitAtEquals?, htext, List.dropWhile_append_of_pos hpos, List.takeWhile_append_of_pos hpos]
    simp

theorem all_dots_iff (proto : String) :
    proto.toList.all (· = '.') = true ↔ withoutLeadingDots proto = "" := by
  rw [withoutLeadingDots, ← String.toList_inj, String.toList_ofList]
  simp

theorem parseMapping_eq_ok_iff (text : String) (pair : String × String) :
    parseMapping text = .ok pair ↔ IsMapping text pair.1 pair.2 := by
  constructor
  · intro h
    rw [parseMapping] at h
    split at h
    · simp at h
    · rename_i left right hsplit
      split at h
      · simp at h
      · rename_i hsides
        obtain rfl := Except.ok.inj h
        obtain ⟨htext, hleft⟩ := (splitAtEquals?_eq_some_iff _ _ _).mp hsplit
        obtain ⟨hproto, hpath⟩ := not_or.mp (mt (Bool.or_eq_true _ _).mpr hsides)
        exact ⟨⟨left, right, htext, hleft, rfl, rfl⟩, mt (all_dots_iff _).mpr hproto,
          mt String.isEmpty_iff.mpr hpath⟩
  · rintro ⟨⟨left, right, htext, hleft, hproto, hpath⟩, hproto_ne, hpath_ne⟩
    have hsides : ¬(pair.1.toList.all (· = '.') || pair.2.isEmpty) = true := by
      rw [Bool.or_eq_true, all_dots_iff, String.isEmpty_iff, not_or]
      exact ⟨hproto_ne, hpath_ne⟩
    rw [parseMapping, (splitAtEquals?_eq_some_iff _ _ _).mpr ⟨htext, hleft⟩]
    simp only [← hproto, ← hpath]
    exact if_neg hsides

/-- The mapping is extended by one insert for each of the texts, if they are mappings. -/
theorem extend_eq_ok_iff (mapping extended : PathMapping) (texts : List String) :
    extend mapping texts = .ok extended ↔ ∃ pairs : List (String × String),
      List.Forall₂ (fun text pair => IsMapping text pair.1 pair.2) texts pairs ∧
        extended = mapping.insertAll pairs := by
  induction texts generalizing mapping with
  | nil => simp [extend, insertAll, eq_comm]
  | cons text texts ih =>
      rw [extend]
      constructor
      · intro h
        split at h
        · rename_i proto path hparse
          obtain ⟨pairs, hpairs, rfl⟩ := (ih _).mp h
          exact ⟨(proto, path) :: pairs, .cons ((parseMapping_eq_ok_iff _ _).mp hparse) hpairs, rfl⟩
        · simp at h
      · rintro ⟨pairs, hpairs, rfl⟩
        obtain _ | ⟨hpair, hpairs⟩ := hpairs
        rw [(parseMapping_eq_ok_iff _ _).mpr hpair]
        exact (ih _).mpr ⟨_, hpairs, rfl⟩

theorem exists_extend_iff (mapping : PathMapping) (texts : List String) :
    (∃ extended, extend mapping texts = .ok extended) ↔
      ∀ text ∈ texts, ∃ proto path, IsMapping text proto path := by
  simp only [extend_eq_ok_iff]
  constructor
  · rintro ⟨_, pairs, hpairs, -⟩ text htext
    obtain ⟨pair, -, hpair⟩ := Outcome.exists_right_of_forall₂ hpairs text htext
    exact ⟨pair.1, pair.2, hpair⟩
  · intro h
    choose! proto path hmapping using h
    refine ⟨_, texts.map fun text => (proto text, path text), ?_, rfl⟩
    rw [List.forall₂_map_right_iff, List.forall₂_same]
    exact hmapping

/-- With a key and a dataset only the path mappings can be at fault. -/
theorem ofArguments_eq_ok_iff {a : Arguments} (hkey : isBlankText a.apiKey = false)
    (hdataset : isBlankText a.dataset = false) (c : Configuration) :
    Configuration.ofArguments a = .ok c ↔
      ∃ mapping, extend PathMapping.standard a.pathMappings = .ok mapping ∧
        c = ⟨a.apiKey, trim a.dataset, a.endpoint, a.plugin?, mapping,
          ⟨Overrides.ofTexts (some a.package) a.name?, a.out, a.pluginOption?⟩⟩ := by
  rw [Configuration.ofArguments, if_neg (by simp [hkey]), if_neg (by simp [hdataset]),
    Outcome.bind_eq_ok_iff]
  simp only [Except.ok.injEq, eq_comm]

/-- With a key and a dataset the arguments are a configuration exactly if every path mapping has
its two sides. All of them are then inserted in their order, after the standard ones. On its own
each applies to every type of its package exactly if no component of the package is empty, and
else to no type at all. -/
theorem accepted_mappings_apply_iff (a : Arguments) (hkey : isBlankText a.apiKey = false)
    (hdataset : isBlankText a.dataset = false) :
    ((∃ c, Configuration.ofArguments a = .ok c) ↔
      ∀ text ∈ a.pathMappings, ∃ proto path, IsMapping text proto path) ∧
    ∀ c, Configuration.ofArguments a = .ok c → ∃ pairs : List (String × String),
      List.Forall₂ (fun text pair => IsMapping text pair.1 pair.2) a.pathMappings pairs ∧
      c.mapping = PathMapping.standard.insertAll pairs ∧
      ∀ pair ∈ pairs,
        let alone := PathMapping.empty.insert pair.1 pair.2
        let package := withoutLeadingDots pair.1
        (MapsPackage alone package (normalPath pair.2) ↔ IsPlainPackage package) ∧
          (IsDead alone ↔ ¬IsPlainPackage package) := by
  have hok := ofArguments_eq_ok_iff hkey hdataset
  constructor
  · rw [← exists_extend_iff PathMapping.standard]
    simp only [hok]
    constructor
    · rintro ⟨_, mapping, hmapping, -⟩
      exact ⟨mapping, hmapping⟩
    · rintro ⟨mapping, hmapping⟩
      exact ⟨_, mapping, hmapping, rfl⟩
  · intro c hc
    obtain ⟨mapping, hmapping, rfl⟩ := (hok c).mp hc
    obtain ⟨pairs, hpairs, rfl⟩ := (extend_eq_ok_iff _ _ _).mp hmapping
    refine ⟨pairs, hpairs, rfl, fun pair hpair => ?_⟩
    obtain ⟨_, -, h⟩ := Outcome.exists_left_of_forall₂ hpairs pair hpair
    exact mapsPackage_alone_iff h.proto_ne

/-- Arguments with a key, a dataset and this path mapping. -/
def argumentsFor (text : String) : Arguments :=
  ⟨"key", "open_data.tracks", Arguments.defaultOut, Arguments.defaultPackage, none,
    "https://api.tilebox.com", none, none, [text]⟩

/-- The shared types are mapped with a dot in front and blanks around, and all of them have a
path. -/
theorem datasets_mapping_applies :
    let a := argumentsFor " .datasets.v1 = ::tilebox_datasets"
    isBlankText a.apiKey = false ∧ isBlankText a.dataset = false ∧
      ∃ c, Configuration.ofArguments a = .ok c ∧
        c.mapping = PathMapping.standard.insert ".datasets.v1" "::tilebox_datasets" ∧
        MapsPackage (PathMapping.empty.insert ".datasets.v1" "::tilebox_datasets") "datasets.v1"
          "::tilebox_datasets" := by
  intro a
  have hkey : isBlankText a.apiKey = false := by decide
  have hdataset : isBlankText a.dataset = false := by decide
  have hparse : parseMapping " .datasets.v1 = ::tilebox_datasets" =
      .ok (".datasets.v1", "::tilebox_datasets") := by decide +kernel
  have hpackage : withoutLeadingDots ".datasets.v1" = "datasets.v1" := by decide +kernel
  have hpath : normalPath "::tilebox_datasets" = "::tilebox_datasets" := by decide +kernel
  obtain ⟨haccepted, hmapped⟩ := accepted_mappings_apply_iff a hkey hdataset
  obtain ⟨c, hc⟩ := haccepted.mpr
    (List.forall_mem_singleton.mpr ⟨_, _, (parseMapping_eq_ok_iff _ _).mp hparse⟩)
  obtain ⟨pairs, _ | ⟨hpair, _ | _⟩, hmapping, happlies⟩ := hmapped c hc
  obtain rfl := Except.ok.inj (hparse.symm.trans ((parseMapping_eq_ok_iff _ _).mpr hpair))
  obtain ⟨hmaps, -⟩ := happlies _ List.mem_cons_self
  simp only [hpackage, hpath] at hmaps
  exact ⟨hkey, hdataset, c, hc, hmapping, hmaps.mpr (.inr (by decide))⟩

/-- A dot too many behind the package goes unnoticed, and no album has a path. -/
theorem albums_mapping_dead :
    let a := argumentsFor "albums.=crate::albums"
    isBlankText a.apiKey = false ∧ isBlankText a.dataset = false ∧
      ∃ c, Configuration.ofArguments a = .ok c ∧
        c.mapping = PathMapping.standard.insert "albums." "crate::albums" ∧
        ¬IsPlainPackage "albums." ∧ IsDead (PathMapping.empty.insert "albums." "crate::albums") ∧
        c.mapping.resolve? ".albums.Album" = none := by
  intro a
  have hok : Configuration.ofArguments a = .ok ⟨a.apiKey, a.dataset, a.endpoint, none,
      PathMapping.standard.insert "albums." "crate::albums",
      ⟨Overrides.ofTexts (some a.package) none, a.out, none⟩⟩ := by decide +kernel
  have hpackage : withoutLeadingDots "albums." = "albums." := by decide +kernel
  have hplain : ¬IsPlainPackage "albums." := by
    rintro (h | h)
    · exact absurd h (by decide)
    · exact absurd (h [] (by decide)) (by simp)
  have hdead : IsDead (PathMapping.empty.insert "albums." "crate::albums") :=
    isDead_alone (hpackage.symm ▸ hplain)
  exact ⟨by decide, by decide, _, hok, rfl, hplain, hdead, by decide +kernel⟩

end CommandLine

end Protogen
