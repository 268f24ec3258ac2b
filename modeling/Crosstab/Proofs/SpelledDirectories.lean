import Crosstab.Proofs.LoadedDirectories

/-!
# Directories whose paths are patterns

The path of a directory is put in front of a star, and what is searched for is a pattern. So the
directories that are read are those that the path spells out, whatever stands at the path itself
(`mem_pathsAt`), and a path that is no pattern is refused (`load_fault`). Where the path spells out
one directory only, it is that one which is read, and it is read whole (`SinglesOut.reads`). A path
without wildcards does that for its own directory, and other paths may; `reads_another_directory` is
one that spells out its neighbour.
-/

namespace Crosstab

open Disk (Tree Path isPlainGlyph losesTrack join)

namespace Registry

/-- The directories at these paths are all one, which stands at the place. -/
structure SinglesOut (tree : Tree) (bases : List String) (place : Path) : Prop where
  found : ∃ base ∈ bases, tree.Leads base place
  only : ∀ base ∈ bases, ∀ other, tree.Leads base other → other = place

theorem singlesOut_single {tree : Tree} {base : String} {place : Path}
    (h : tree.Leads base place) : SinglesOut tree [base] place := by
  refine ⟨⟨base, List.mem_singleton_self _, h⟩, fun other hother place' hplace' => ?_⟩
  rw [List.mem_singleton.mp hother] at hplace'
  exact hplace'.unique h

section
variable {tree : Tree} {bases : List String} {place : Path} (hproper : tree.Proper)
  (h : SinglesOut tree bases place)
include hproper h

theorem SinglesOut.resolve? {path : String} (hpath : path ∈ pathsAt tree bases) :
    ∃ file ∈ requestFiles tree place, tree.resolve? path = some (place ++ [file]) := by
  obtain ⟨base, hbase, other, hleads, file, hfile, rfl⟩ := mem_pathsAt.mp hpath
  obtain rfl := h.only base hbase other hleads
  exact ⟨file, hfile, hproper.resolve?_join hleads (List.mem_filter.mp hfile).1⟩

theorem SinglesOut.reads {paths : List String} (hpaths : paths.Perm (pathsAt tree bases))
    {registry : Registry} (hload : paths.foldlM (loadFile tree) empty = .ok registry)
    {file : String} (hfile : file ∈ requestFiles tree place) :
    ∃ named, requestAt tree place file = .ok named ∧ registry.find? named.name = some named := by
  obtain ⟨base, hbase, hleads⟩ := h.found
  rw [← readRequest_join hproper hleads (List.mem_filter.mp hfile).1]
  have hpath : join base file ∈ pathsAt tree bases :=
    mem_pathsAt.mpr ⟨base, hbase, place, hleads, file, hfile, rfl⟩
  exact found_of_foldlM hload (hpaths.mem_iff.mpr hpath)

end

theorem load_single {tree : Tree} {directory path : String} {bases : List String}
    {named : NamedRequest} (hexists : tree.exists? directory = true)
    (hspelled : Disk.spelled tree directory = .ok bases) (hpath : pathsAt tree bases = [path])
    (hread : readRequest tree path = .ok named) : load tree directory = .ok ⟨[named]⟩ := by
  obtain ⟨paths, hpaths, hload⟩ := load_spelled hexists hspelled
  rw [hpath, List.perm_singleton] at hpaths
  rw [hload, hpaths, foldlM_loadFile_single hread]

/-! ## The headline -/

/-- **The directories that a path spells out are read.** The path is taken for a pattern: a faulty
one is refused, and else the request files of all directories are read that it spells out. If that
is one directory, then nothing outside of it is read, and a success has read all of its request
files. What is spelled out is what the pattern finds, but for a `**` at its end. A path without
wildcards spells out the directory that it leads to, or the search for it loses track and nothing is
read. -/
theorem directories_read_as_spelled {tree : Tree} {directory : String} (hproper : tree.Proper)
    (hexists : tree.exists? directory = true) :
    (∀ failure, Disk.spelled tree directory = .error failure →
      load tree directory = .error failure) ∧
    (∀ bases, Disk.spelled tree directory = .ok bases →
      ∃ paths : List String, load tree directory = paths.foldlM (loadFile tree) empty ∧
      (∀ path, path ∈ paths ↔ ∃ base ∈ bases, ∃ place, tree.Leads base place ∧
        ∃ file ∈ requestFiles tree place, path = join base file) ∧
      ∀ place, SinglesOut tree bases place →
        (∀ path ∈ paths,
          ∃ file ∈ requestFiles tree place, tree.resolve? path = some (place ++ [file])) ∧
        ∀ registry, load tree directory = .ok registry → ∀ file ∈ requestFiles tree place,
          ∃ named, requestAt tree place file = .ok named ∧
            registry.find? named.name = some named) ∧
    ((Disk.partsOf directory).getLast? ≠ some ['*', '*'] →
      Disk.spelled tree directory = Disk.find tree directory) ∧
    ∀ place, tree.Leads directory place → (∀ c ∈ directory.toList, isPlainGlyph c = true) →
      (losesTrack directory = true → load tree directory = .ok empty) ∧
      (losesTrack directory = false → ∃ base, Disk.spelled tree directory = .ok [base] ∧
        SinglesOut tree [base] place) := by
  refine ⟨fun failure => load_fault hexists, fun bases hspelled => ?_,
    Disk.spelled_eq_find tree, fun place hleads hplain =>
      ⟨load_nothing hleads hplain, fun htracked => ?_⟩⟩
  · obtain ⟨paths, hpaths, hload⟩ := load_spelled hexists hspelled
    refine ⟨paths, hload, fun path => hpaths.mem_iff.trans mem_pathsAt, fun place hsingle =>
      ⟨fun path hpath => hsingle.resolve? hproper (hpaths.mem_iff.mp hpath),
        fun registry hregistry file hfile => ?_⟩⟩
    rw [hload] at hregistry
    exact hsingle.reads hproper hpaths hregistry hfile
  · obtain ⟨base, hbase, hspelled⟩ := Disk.spelled_plain hplain htracked hleads
    exact ⟨base, hspelled, singlesOut_single hbase⟩

/-- A path with a wildcard that spells out its own directory. -/
theorem directories_read_as_spelled_star :
    let daily : NamedRequest := ⟨"daily", none, ⟨[], none⟩⟩
    let tree := Tree.empty.write "r*/a.json" (.file daily.json.toUTF8)
    ∃ bases paths registry, Disk.spelled tree "r*" = .ok bases ∧ SinglesOut tree bases ["r*"] ∧
      load tree "r*" = List.foldlM (loadFile tree) empty paths ∧
      (∀ path ∈ paths, ∃ file ∈ requestFiles tree ["r*"],
        tree.resolve? path = some (["r*"] ++ [file])) ∧
      load tree "r*" = .ok registry ∧ registry.find? "daily" = some daily := by
  intro daily tree
  have hproper : tree.Proper := Disk.Tree.proper_empty.write (by decide +kernel) (by decide +kernel)
  have hleads : tree.Leads "r*" ["r*"] := ⟨by decide, by decide +kernel, by rfl⟩
  have hnames : tree.names ["r*"] = ["a.json"] :=
    Disk.Tree.names_of_pairwise (by decide +kernel) (by decide +kernel)
  have hfiles : requestFiles tree ["r*"] = ["a.json"] := by
    rw [requestFiles, hnames]
    decide
  have hspelled : Disk.spelled tree "r*" = .ok ["r*"] := by decide +kernel
  have hsingle : SinglesOut tree ["r*"] ["r*"] := singlesOut_single hleads
  have hlisted : "a.json" ∈ tree.names ["r*"] := hnames ▸ List.mem_singleton_self _
  have hdaily : requestAt tree ["r*"] "a.json" = .ok daily :=
    requestAt_json (hproper.isName_of_mem_names hlisted) ⟨"a", by decide, by decide⟩ (by rfl)
  have hpaths : pathsAt tree ["r*"] = ["r*/a.json"] := by
    rw [pathsAt_single hleads, hnames]
    decide
  have hloaded : load tree "r*" = .ok ⟨[daily]⟩ :=
    load_single hleads.exists? hspelled hpaths
      ((readRequest_join hproper hleads hlisted).trans hdaily)
  obtain ⟨-, hreads, -⟩ := directories_read_as_spelled hproper hleads.exists?
  obtain ⟨paths, hload, -, hsole⟩ := hreads _ hspelled
  obtain ⟨hwithin, hwhole⟩ := hsole _ hsingle
  obtain ⟨named, hnamed, hfound⟩ := hwhole _ hloaded "a.json" (by simp [hfiles])
  rw [hdaily] at hnamed
  cases hnamed
  exact ⟨_, paths, _, hspelled, hsingle, hload, hwithin, hloaded, hfound⟩

/-- A directory is loaded with the request of its neighbour and without its own. -/
theorem reads_another_directory :
    let daily : NamedRequest := ⟨"daily", none, ⟨[], none⟩⟩
    let weekly : NamedRequest := ⟨"weekly", none, ⟨[], none⟩⟩
    let tree := (Tree.empty.write "r1/b.json" (.file weekly.json.toUTF8)).write "r[1]/a.json"
      (.file daily.json.toUTF8)
    tree.Proper ∧ tree.Leads "r[1]" ["r[1]"] ∧ requestFiles tree ["r[1]"] = ["a.json"] ∧
    requestAt tree ["r[1]"] "a.json" = .ok daily ∧
    Disk.find tree "r[1]" = .ok ["r1"] ∧ pathsAt tree ["r1"] = ["r1/b.json"] ∧
    tree.resolve? "r1/b.json" = some ["r1", "b.json"] ∧
    load tree "r[1]" = .ok ⟨[weekly]⟩ := by
  intro daily weekly tree
  have hproper : tree.Proper :=
    (Disk.Tree.proper_empty.write (by decide +kernel) (by decide +kernel)).write
      (by decide +kernel) (by decide +kernel)
  have hleads : tree.Leads "r[1]" ["r[1]"] := ⟨by decide, by decide +kernel, by rfl⟩
  have hneighbour : tree.Leads "r1" ["r1"] := ⟨by decide, by decide +kernel, by rfl⟩
  have hnames : tree.names [] = ["r1", "r[1]"] ∧ tree.names ["r1"] = ["b.json"] ∧
      tree.names ["r[1]"] = ["a.json"] :=
    ⟨Disk.Tree.names_of_pairwise (by decide +kernel) (by decide +kernel),
      Disk.Tree.names_of_pairwise (by decide +kernel) (by decide +kernel),
      Disk.Tree.names_of_pairwise (by decide +kernel) (by decide +kernel)⟩
  have hfind : Disk.find tree "r[1]" = .ok ["r1"] := by
    have hcomponents : Disk.componentsOf "r[1]" =
        .ok [.wild [.char 'r', .oneOf false [('1', '1')]]] := by decide +kernel
    have hlist : tree.namesAt "." = ["r1", "r[1]"] := hnames.1
    rw [Disk.find_eq, hcomponents]
    show Except.ok (tree.search [.wild _] ".") = _
    rw [Tree.search, if_pos (Disk.Tree.leads_dot).leadsToDirectory, hlist]
    decide
  have hlisted : "b.json" ∈ tree.names ["r1"] := hnames.2.1 ▸ List.mem_singleton_self _
  have hlisted' : "a.json" ∈ tree.names ["r[1]"] := hnames.2.2 ▸ List.mem_singleton_self _
  have hpaths : pathsAt tree ["r1"] = ["r1/b.json"] := by
    rw [pathsAt_single hneighbour, hnames.2.1]
    decide
  have hread : readRequest tree "r1/b.json" = .ok weekly :=
    (readRequest_join hproper hneighbour hlisted).trans <|
      requestAt_json (hproper.isName_of_mem_names hlisted) ⟨"b", by decide, by decide⟩ (by rfl)
  refine ⟨hproper, hleads, ?_, ?_, hfind, hpaths, hproper.resolve?_join hneighbour hlisted, ?_⟩
  · rw [requestFiles, hnames.2.2]
    decide
  · exact requestAt_json (hproper.isName_of_mem_names hlisted') ⟨"a", by decide, by decide⟩
      (by rfl)
  · exact load_single hleads.exists? ((Disk.spelled_eq_find tree (by decide)).trans hfind) hpaths
      hread

end Registry

end Crosstab
