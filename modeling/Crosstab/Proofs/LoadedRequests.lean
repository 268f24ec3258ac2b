import Mathlib.Data.List.Induction
import Mathlib.Data.List.Nodup
import Crosstab.Proofs.PatternSearch
import Crosstab.Proofs.StoredRequests

/-!
# Loading one request after another

A registry is filled file by file, and a name that is taken already stops it. `Adds` says what is
added by a file, and by any number of files (`foldlM_loadFile_ok`): their requests in order, each
under a name that was free. A directory is loaded in three passes, but they are one such run, over
the paths that the path of the directory spells out (`load_spelled`).
-/

namespace Crosstab.Registry

open Disk (Tree join)

variable {registry result : Registry} {name : String} {named : NamedRequest}

/-! ## Distinct names -/

/-- No two requests have one name. -/
def Distinct (registry : Registry) : Prop := (registry.requests.map (·.name)).Nodup

theorem distinct_empty : empty.Distinct := List.nodup_nil

theorem find?_eq_none : registry.find? name = none ↔ name ∉ registry.requests.map (·.name) := by
  simp [find?]

theorem Distinct.find?_eq_some (h : registry.Distinct) :
    registry.find? name = some named ↔ named ∈ registry.requests ∧ named.name = name := by
  constructor
  · intro hfound
    exact ⟨List.mem_of_find?_eq_some hfound, by simpa using List.find?_some hfound⟩
  · rintro ⟨hmem, rfl⟩
    obtain ⟨other, hother⟩ := Option.ne_none_iff_exists'.mp fun hnone =>
      find?_eq_none.mp hnone (List.mem_map_of_mem hmem)
    have hsame := List.inj_on_of_nodup_map h (List.mem_of_find?_eq_some hother) hmem
      (by simpa using List.find?_some hother)
    rwa [hsame] at hother

theorem names_perm (registry : Registry) :
    registry.names.Perm (registry.requests.map (·.name)) :=
  List.mergeSort_perm _ _

theorem pairwise_names (registry : Registry) : registry.names.Pairwise (· ≤ ·) := by
  have hle (a b : String) : (!decide (b < a)) = true ↔ a ≤ b := by
    rw [Bool.not_eq_true', decide_eq_false_iff_not, String.not_lt]
  refine (List.pairwise_mergeSort (fun a b c hab hbc => ?_) (fun a b => ?_) _).imp fun {a b} =>
    (hle a b).mp
  · rw [hle] at hab hbc ⊢
    exact String.le_trans hab hbc
  · rw [Bool.or_eq_true, hle, hle]
    exact String.le_total a b

theorem Distinct.names_lt (h : registry.Distinct) : registry.names.Pairwise (· < ·) := by
  have hnodup : registry.names.Nodup := registry.names_perm.nodup_iff.mpr h
  exact (registry.pairwise_names.and hnodup).imp fun hboth => Std.lt_of_le_of_ne hboth.1 hboth.2

/-! ## Inserting -/

theorem insert_free (h : registry.find? named.name = none) :
    registry.insert named = ⟨registry.requests ++ [named]⟩ := by
  have hkept : registry.requests.filter (·.name != named.name) = registry.requests := by
    refine List.filter_eq_self.mpr fun other hother => ?_
    exact bne_iff_ne.mpr fun hname => find?_eq_none.mp h (List.mem_map.mpr ⟨other, hother, hname⟩)
  rw [insert, hkept]

theorem find?_insert :
    (registry.insert named).find? name =
      if named.name = name then some named else registry.find? name := by
  rw [insert, find?, List.find?_append, List.find?_singleton]
  by_cases hname : named.name = name
  · obtain rfl := hname
    have hnone : (registry.requests.filter (·.name != named.name)).find?
        (·.name == named.name) = none := by
      rw [List.find?_eq_none]
      rintro other hother hsame
      exact bne_iff_ne.mp (List.mem_filter.mp hother).2 (beq_iff_eq.mp hsame)
    rw [hnone]
    simp
  · have hkept : (registry.requests.filter (·.name != named.name)).find? (·.name == name) =
        registry.find? name := by
      rw [List.find?_filter, find?]
      congr 1
      funext other
      by_cases hother : other.name = name
      · simp [hother, Ne.symm hname]
      · simp [hother]
    rw [hkept]
    simp [hname]

/-- In a list the last request of a name wins. -/
theorem find?_ofList (requests : List NamedRequest) (name : String) :
    (ofList requests).find? name = (requests.filter (·.name == name)).getLast? := by
  induction requests using List.reverseRecOn with
  | nil => rfl
  | append_singleton requests named ih =>
      have hstep : ofList (requests ++ [named]) = (ofList requests).insert named := by
        simp [ofList]
      rw [hstep, find?_insert, ih, List.filter_append]
      by_cases hname : named.name = name
      · simp [hname]
      · simp [hname]

/-! ## Adding what was read -/

/-- What was read is put behind the requests of a registry, under names that are still free. -/
def Adds (registry : Registry) (outcomes : List (Outcome NamedRequest)) (result : Registry) :
    Prop :=
  ∃ nameds, outcomes = nameds.map .ok ∧ ((registry.requests ++ nameds).map (·.name)).Nodup ∧
    result = ⟨registry.requests ++ nameds⟩

theorem Adds.distinct {outcomes : List (Outcome NamedRequest)} (h : Adds registry outcomes result) :
    result.Distinct := by
  obtain ⟨nameds, -, hnodup, rfl⟩ := h
  exact hnodup

theorem adds_empty {outcomes : List (Outcome NamedRequest)} :
    Adds empty outcomes registry ↔ outcomes = registry.requests.map .ok ∧ registry.Distinct := by
  constructor
  · rintro ⟨nameds, rfl, hnodup, rfl⟩
    exact ⟨rfl, hnodup⟩
  · rintro ⟨rfl, hdistinct⟩
    exact ⟨registry.requests, rfl, hdistinct, rfl⟩

theorem adds_nil (h : registry.Distinct) : Adds registry [] result ↔ registry = result := by
  constructor
  · rintro ⟨nameds, hnameds, -, rfl⟩
    obtain rfl := List.map_eq_nil_iff.mp hnameds.symm
    rw [List.append_nil]
  · rintro rfl
    refine ⟨[], rfl, ?_, ?_⟩
    · rwa [List.append_nil]
    · rw [List.append_nil]

theorem adds_append {first second : List (Outcome NamedRequest)} :
    Adds registry (first ++ second) result ↔
      ∃ between, Adds registry first between ∧ Adds between second result := by
  constructor
  · rintro ⟨nameds, hnameds, hnodup, rfl⟩
    obtain ⟨before, after, rfl, rfl, rfl⟩ := List.append_eq_map_iff.mp hnameds
    rw [← List.append_assoc] at hnodup ⊢
    refine ⟨⟨registry.requests ++ before⟩, ⟨before, rfl, ?_, rfl⟩, after, rfl, hnodup, rfl⟩
    rw [List.map_append] at hnodup
    exact hnodup.of_append_left
  · rintro ⟨_, ⟨before, rfl, -, rfl⟩, after, rfl, hnodup, rfl⟩
    refine ⟨before ++ after, List.map_append.symm, ?_, ?_⟩
    · rwa [← List.append_assoc]
    · rw [← List.append_assoc]

theorem loadFile_ok {tree : Tree} {path : String} (h : registry.Distinct) :
    loadFile tree registry path = .ok result ↔ Adds registry [readRequest tree path] result := by
  have hfree {named : NamedRequest} : registry.find? named.name = none ↔
      ((registry.requests ++ [named]).map (·.name)).Nodup := by
    rw [List.map_append, List.map_singleton, ← List.concat_eq_append, List.nodup_concat,
      find?_eq_none]
    exact ⟨fun hfree => ⟨hfree, h⟩, And.left⟩
  rw [loadFile, bind_eq_ok]
  constructor
  · rintro ⟨named, hread, hadd⟩
    split at hadd
    · cases hadd
    · rename_i hnone
      rw [Bool.not_eq_true, Option.isSome_eq_false_iff, Option.isNone_iff_eq_none] at hnone
      rw [insert_free hnone] at hadd
      cases hadd
      exact ⟨[named], by rw [hread]; rfl, hfree.mp hnone, rfl⟩
  · rintro ⟨nameds, hnameds, hnodup, rfl⟩
    obtain ⟨named, rfl, hread⟩ := List.map_eq_singleton_iff.mp hnameds.symm
    have hnone := hfree.mpr hnodup
    refine ⟨named, hread.symm, ?_⟩
    rw [hnone, insert_free hnone]
    rfl

/-- Files are read one after the other, and each adds its request. -/
theorem foldlM_loadFile_ok {tree : Tree} {paths : List String} (h : registry.Distinct) :
    paths.foldlM (loadFile tree) registry = .ok result ↔
      Adds registry (paths.map (readRequest tree)) result := by
  induction paths generalizing registry with
  | nil =>
      rw [List.map_nil, adds_nil h]
      exact iff_of_eq (Except.ok.injEq ..)
  | cons path paths ih =>
      rw [List.foldlM_cons, bind_eq_ok, List.map_cons, ← List.singleton_append, adds_append]
      refine exists_congr fun between => ?_
      rw [loadFile_ok h]
      exact and_congr_right fun hadds => ih hadds.distinct

/-- What is read is found under its name. -/
theorem found_of_foldlM {tree : Tree} {paths : List String}
    (h : paths.foldlM (loadFile tree) empty = .ok registry) {path : String} (hpath : path ∈ paths) :
    ∃ named, readRequest tree path = .ok named ∧ registry.find? named.name = some named := by
  obtain ⟨houtcomes, hdistinct⟩ := adds_empty.mp ((foldlM_loadFile_ok distinct_empty).mp h)
  have hmem : readRequest tree path ∈ registry.requests.map Except.ok :=
    houtcomes ▸ List.mem_map_of_mem hpath
  obtain ⟨named, hnamed, hread⟩ := List.mem_map.mp hmem
  exact ⟨named, hread.symm, hdistinct.find?_eq_some.mpr ⟨hnamed, rfl⟩⟩

theorem foldlM_loadFile_single {tree : Tree} {path : String}
    (h : readRequest tree path = .ok named) :
    [path].foldlM (loadFile tree) empty = .ok ⟨[named]⟩ := by
  rw [List.foldlM_cons, loadFile_empty h]
  rfl

/-! ## Loading what a path spells out -/

/-- The paths of request files at these paths. -/
def pathsAt (tree : Tree) (bases : List String) : List String :=
  fileEndings.flatMap fun ending =>
    bases.flatMap (tree.search [.wild (.anyChars :: ending.toList.map .char)])

theorem mem_pathsAt {tree : Tree} {bases : List String} {path : String} :
    path ∈ pathsAt tree bases ↔ ∃ base ∈ bases, ∃ place, tree.Leads base place ∧
      ∃ file ∈ (tree.names place).filter isRequestFile, path = join base file := by
  simp only [pathsAt, List.mem_flatMap, Tree.mem_search_star, List.mem_filter, isRequestFile,
    List.any_eq_true, List.isSuffixOf_iff_suffix]
  constructor
  · rintro ⟨ending, hending, base, hbase, place, hplace, file, hfile, hends, rfl⟩
    exact ⟨base, hbase, place, hplace, file, ⟨hfile, ending, hending, hends⟩, rfl⟩
  · rintro ⟨base, hbase, place, hplace, file, ⟨hfile, ending, hending, hends⟩, rfl⟩
    exact ⟨ending, hending, base, hbase, place, hplace, file, hfile, hends, rfl⟩

section
variable {tree : Tree} {directory : String} (hexists : tree.exists? directory = true)
include hexists

theorem ne_empty_of_exists? : directory ≠ "" := by
  rintro rfl
  cases hexists

theorem load_fault {failure : Failure} (h : Disk.spelled tree directory = .error failure) :
    load tree directory = .error failure := by
  have hfault : Disk.find tree (directory ++ "/" ++ ("*" ++ ".yml")) = .error failure :=
    Disk.find_fault (ne_empty_of_exists? hexists) (List.all_eq_true.mp (by decide)) (by decide)
      (by decide) h
  rw [load, if_pos hexists, filePatterns_eq, fileEndings, List.map_cons, List.foldlM_cons,
    loadPattern, hfault]
  rfl

/-- A directory is read file by file, at every path that its own path spells out. -/
theorem load_spelled {bases : List String} (h : Disk.spelled tree directory = .ok bases) :
    ∃ paths : List String, paths.Perm (pathsAt tree bases) ∧
      load tree directory = paths.foldlM (loadFile tree) empty := by
  have hending : ∀ ending ∈ fileEndings, (ending.toList.all Disk.isPlainGlyph = true ∧
      '/' ∉ ending.toList) ∧ ']' ∉ ending.toList := by decide
  have hpasses : ∀ endings ⊆ fileEndings, ∃ paths : List String,
      paths.Perm (endings.flatMap fun ending => bases.flatMap
        (tree.search [.wild (.anyChars :: ending.toList.map .char)])) ∧
      ∀ registry, (endings.map ("*" ++ ·)).foldlM (loadPattern tree directory) registry =
        paths.foldlM (loadFile tree) registry := by
    intro endings hsub
    induction endings with
    | nil => exact ⟨[], List.Perm.refl _, fun _ => rfl⟩
    | cons ending endings ih =>
        rw [List.cons_subset] at hsub
        obtain ⟨⟨hplain, hslash⟩, hclass⟩ := hending ending hsub.1
        obtain ⟨first, hfind, hfirst⟩ := Disk.find_listing (ne_empty_of_exists? hexists)
          (List.all_eq_true.mp hplain) hslash hclass h
        obtain ⟨more, hmore, hpasses⟩ := ih hsub.2
        refine ⟨first ++ more, hfirst.append hmore, fun registry => ?_⟩
        rw [List.map_cons, List.foldlM_cons, List.foldlM_append, loadPattern, hfind]
        exact congrArg (_ >>= ·) (funext hpasses)
  obtain ⟨paths, hpaths, hload⟩ := hpasses fileEndings (List.Subset.refl _)
  refine ⟨paths, hpaths, ?_⟩
  rw [load, if_pos hexists, filePatterns_eq]
  exact hload empty

end

end Crosstab.Registry
