import Mathlib.Data.List.Pairwise
import Mathlib.Data.List.Perm.Basic
import Crosstab.Proofs.LoadedRequests
import Crosstab.Proofs.ProperTrees

/-!
# The requests of a directory

A directory is read in three passes, one for each ending, and the passes go on with the same
registry. Since an ending is no ending of another one, they go through each request file once
(`readOrder_perm`), so what is loaded holds the requests of the directory's files, one for each
file and each under a name of its own (`Holds`). There is at most one such registry up to order, and
neither it nor whether there is one depends on how the files are called (`Renames.holds_iff`).

That goes for a path on which the search for the files does not lose track (`Reaches`). On another
one nothing is read and nothing is refused: `files_lost` is a directory with two request files that
is loaded as an empty one.
-/

namespace Crosstab

open Disk (Tree Path IsName losesTrack isPlainGlyph join)

namespace Registry

/-! ## The request files of a directory -/

/-- The names in a directory that are read. -/
def requestFiles (tree : Tree) (place : Path) : List String :=
  (tree.names place).filter isRequestFile

/-- The request in a file of a directory. -/
def requestAt (tree : Tree) (place : Path) (file : String) : Outcome NamedRequest :=
  match tree.node? (place ++ [file]) with
  | some (.file bytes) =>
    match String.fromUTF8? bytes with
    | some text => decode file text
    | none => .error .io
  | _ => .error .io

theorem extension?_join {base file : String} (hfile : IsName file) :
    extension? (join base file) = extension? file := by
  have hlast : (Disk.components (join base file)).getLast? = (Disk.components file).getLast? := by
    by_cases hbase : base = "."
    · rw [join, if_pos hbase]
    · rw [Disk.components_join hbase, hfile.components, List.getLast?_concat]
      rfl
  rw [extension?, hlast, extension?]

theorem readRequest_join {tree : Tree} (hproper : tree.Proper) {base file : String} {place : Path}
    (hbase : tree.Leads base place) (hfile : file ∈ tree.names place) :
    readRequest tree (join base file) = requestAt tree place file := by
  have hdecode (text : String) : decode (join base file) text = decode file text := by
    rw [decode, extension?_join (hproper.isName_of_mem_names hfile), decode]
  rw [readRequest, Tree.readText?, hproper.resolve?_join hbase hfile, Option.bind_some, requestAt]
  simp only [hdecode]
  cases tree.node? (place ++ [file]) with
  | none => rfl
  | some node => cases node <;> rfl

/-- What follows the dot of an ending is the extension of a file with that ending. -/
theorem extension?_ending {stem ending : String} (hstem : stem ≠ "")
    (hending : ending ∈ fileEndings) (hname : IsName (stem ++ ending)) :
    extension? (stem ++ ending) = some (String.ofList (ending.toList.drop 1)) := by
  obtain ⟨c, cs, hback⟩ := List.exists_cons_of_ne_nil
    (List.reverse_ne_nil_iff.mpr fun h => hstem (String.toList_eq_nil_iff.mp h))
  rw [extension?, hname.components]
  simp only [fileEndings, List.mem_cons, List.not_mem_nil, or_false] at hending
  rcases hending with rfl | rfl | rfl <;> simp [hback]

theorem requestAt_json {tree : Tree} {place : Path} {file : String} {named : NamedRequest}
    (hname : IsName file) (hjson : ∃ stem, stem ≠ "" ∧ file = stem ++ ".json")
    (hnode : tree.node? (place ++ [file]) = some (.file named.json.toUTF8)) :
    requestAt tree place file = .ok named := by
  have hextension : extension? file = some "json" := by
    obtain ⟨stem, hstem, rfl⟩ := hjson
    exact (extension?_ending hstem (by decide) hname).trans (by decide)
  rw [requestAt, hnode]
  simp only [fromUTF8?_toUTF8]
  rw [decode, if_pos hextension, named.decode_json]

/-! ## The order of reading -/

/-- Each file once, one ending after the other. -/
def readOrder (names : List String) : List String :=
  fileEndings.flatMap fun ending => names.filter (ending.toList.isSuffixOf ·.toList)

theorem readOrder_perm {names : List String} (h : names.Nodup) :
    (readOrder names).Perm (names.filter isRequestFile) := by
  have hends {ending name : String}
      (hname : name ∈ names.filter (ending.toList.isSuffixOf ·.toList)) :
      ending.toList <:+ name.toList :=
    List.isSuffixOf_iff_suffix.mp (List.mem_filter.mp hname).2
  -- No ending ends in another one, so no name comes up in two passes.
  have hdiffer : fileEndings.Pairwise fun ending ending' =>
      ¬ ending.toList <:+ ending'.toList ∧ ¬ ending'.toList <:+ ending.toList := by decide
  have hnodup : (readOrder names).Nodup := by
    refine List.nodup_flatMap.mpr ⟨fun ending _ => h.filter _, hdiffer.imp ?_⟩
    intro ending ending' hneither name hname hname'
    exact (List.suffix_or_suffix_of_suffix (hends hname) (hends hname')).elim hneither.1 hneither.2
  refine (List.perm_ext_iff_of_nodup hnodup (h.filter _)).mpr fun name => ?_
  simp only [readOrder, List.mem_flatMap, List.mem_filter, isRequestFile, List.any_eq_true]
  constructor
  · rintro ⟨ending, hending, hname, hsuffix⟩
    exact ⟨hname, ending, hending, hsuffix⟩
  · rintro ⟨hname, ending, hending, hsuffix⟩
    exact ⟨ending, hending, hname, hsuffix⟩

theorem pathsAt_single {tree : Tree} {base : String} {place : Path}
    (hbase : tree.Leads base place) :
    pathsAt tree [base] = (readOrder (tree.names place)).map (join base) := by
  rw [pathsAt, readOrder, List.map_flatMap]
  refine congrArg (List.flatMap · _) (funext fun ending => ?_)
  rw [List.flatMap_singleton, Tree.search_star hbase]

/-! ## What is loaded -/

/-- What was read from two files can stand in one registry. -/
def Apart (outcome outcome' : Outcome NamedRequest) : Prop :=
  ∀ named named', outcome = .ok named → outcome' = .ok named' → named.name ≠ named'.name

theorem Apart.symm {outcome outcome' : Outcome NamedRequest} (h : Apart outcome outcome') :
    Apart outcome' outcome :=
  fun named named' hnamed hnamed' heq => h named' named hnamed' hnamed heq.symm

theorem distinct_iff {registry : Registry} :
    registry.Distinct ↔ (registry.requests.map Except.ok).Pairwise Apart := by
  rw [Distinct, List.Nodup, List.pairwise_map, List.pairwise_map]
  refine List.Pairwise.iff fun named named' => ?_
  constructor
  · rintro hname _ _ ⟨⟩ ⟨⟩
    exact hname
  · exact fun hapart => hapart named named' rfl rfl

/-- The registry holds the requests of a directory's files, one for each file. -/
structure Holds (registry : Registry) (tree : Tree) (place : Path) : Prop where
  requests : (registry.requests.map Except.ok).Perm
    ((requestFiles tree place).map (requestAt tree place))
  distinct : registry.Distinct

/-- Each file of a directory has a request, and no two files have one name for it. -/
structure Loadable (tree : Tree) (place : Path) : Prop where
  decodes : ∀ file ∈ requestFiles tree place, ∃ named, requestAt tree place file = .ok named
  distinct : ∀ file ∈ requestFiles tree place, ∀ other ∈ requestFiles tree place, file ≠ other →
    Apart (requestAt tree place file) (requestAt tree place other)

theorem exists_map_ok {outcomes : List (Outcome NamedRequest)}
    (h : ∀ outcome ∈ outcomes, ∃ named, outcome = .ok named) :
    ∃ nameds : List NamedRequest, outcomes = nameds.map .ok := by
  induction outcomes with
  | nil => exact ⟨[], rfl⟩
  | cons outcome outcomes ih =>
      obtain ⟨⟨named, rfl⟩, hmore⟩ := List.forall_mem_cons.mp h
      obtain ⟨nameds, rfl⟩ := ih hmore
      exact ⟨named :: nameds, rfl⟩

section
variable {tree : Tree} {place : Path}

/-- In whatever order the files are read, a directory that can be loaded is. -/
theorem Loadable.adds (h : Loadable tree place) (hnodup : (requestFiles tree place).Nodup)
    {outcomes : List (Outcome NamedRequest)}
    (houtcomes : outcomes.Perm ((requestFiles tree place).map (requestAt tree place))) :
    ∃ registry, Adds empty outcomes registry := by
  obtain ⟨nameds, hnameds⟩ := exists_map_ok fun outcome houtcome => by
    obtain ⟨file, hfile, rfl⟩ := List.mem_map.mp (houtcomes.mem_iff.mp houtcome)
    exact h.decodes file hfile
  have hapart : ((requestFiles tree place).map (requestAt tree place)).Pairwise Apart :=
    List.pairwise_map.mpr (hnodup.pairwise_of_forall_ne h.distinct)
  refine ⟨⟨nameds⟩, adds_empty.mpr ⟨hnameds, distinct_iff.mpr ?_⟩⟩
  rw [← hnameds]
  exact (houtcomes.pairwise_iff Apart.symm).mpr hapart

theorem holds_of_adds {registry : Registry} {outcomes : List (Outcome NamedRequest)}
    (houtcomes : outcomes.Perm ((requestFiles tree place).map (requestAt tree place)))
    (h : Adds empty outcomes registry) : registry.Holds tree place := by
  obtain ⟨rfl, hdistinct⟩ := adds_empty.mp h
  exact ⟨houtcomes, hdistinct⟩

namespace Holds

variable {registry : Registry} (h : registry.Holds tree place)
include h

theorem mem_iff {named : NamedRequest} : named ∈ registry.requests ↔
    ∃ file ∈ requestFiles tree place, requestAt tree place file = .ok named := by
  have hmem := h.requests.mem_iff (a := Except.ok named)
  rw [List.mem_map, List.mem_map] at hmem
  rw [← hmem]
  constructor
  · exact fun hnamed => ⟨named, hnamed, rfl⟩
  · rintro ⟨_, hnamed, ⟨⟩⟩
    exact hnamed

theorem length_eq : registry.requests.length = (requestFiles tree place).length := by
  simpa using h.requests.length_eq

theorem find?_eq_some {name : String} {named : NamedRequest} :
    registry.find? name = some named ↔ named.name = name ∧
      ∃ file ∈ requestFiles tree place, requestAt tree place file = .ok named := by
  rw [h.distinct.find?_eq_some, h.mem_iff, and_comm]

theorem mem_names {name : String} : name ∈ registry.names ↔
    ∃ file ∈ requestFiles tree place, ∃ named, requestAt tree place file = .ok named ∧
      named.name = name := by
  rw [registry.names_perm.mem_iff, List.mem_map]
  simp only [h.mem_iff]
  constructor
  · rintro ⟨named, ⟨file, hfile, hread⟩, hname⟩
    exact ⟨file, hfile, named, hread, hname⟩
  · rintro ⟨file, hfile, named, hread, hname⟩
    exact ⟨named, ⟨file, hfile, hread⟩, hname⟩

/-- What a directory holds decides what is looked up and listed. -/
theorem unique {registry' : Registry} (h' : registry'.Holds tree place) :
    registry'.names = registry.names ∧ ∀ name, registry'.find? name = registry.find? name := by
  constructor
  · have hrequests : registry'.requests.Perm registry.requests :=
      (List.map_perm_map_iff fun _ _ heq => Except.ok.inj heq).mp
        (h'.requests.trans h.requests.symm)
    have hnames : registry'.names.Perm registry.names :=
      registry'.names_perm.trans ((hrequests.map _).trans registry.names_perm.symm)
    exact hnames.eq_of_pairwise (fun a b _ _ hab hba => String.le_antisymm hab hba)
      registry'.pairwise_names registry.pairwise_names
  · intro name
    ext named
    rw [h'.find?_eq_some, h.find?_eq_some]

theorem loadable : Loadable tree place := by
  constructor
  · intro file hfile
    obtain ⟨named, -, hnamed⟩ := List.mem_map.mp
      (h.requests.mem_iff.mpr (List.mem_map_of_mem hfile))
    exact ⟨named, hnamed.symm⟩
  · have hpairwise := (h.requests.pairwise_iff Apart.symm).mp (distinct_iff.mp h.distinct)
    rw [List.pairwise_map] at hpairwise
    intro file hfile other hother hne
    have hsymm : Std.Symm fun file other =>
        Apart (requestAt tree place file) (requestAt tree place other) :=
      ⟨fun _ _ => Apart.symm⟩
    exact hpairwise.forall hfile hother hne

end Holds

end

/-! ## Reading a directory -/

/-- A path without wildcards that leads to a directory, on which a search does not lose track. -/
structure Reaches (tree : Tree) (directory : String) (place : Path) : Prop where
  proper : tree.Proper
  leads : tree.Leads directory place
  plain : ∀ c ∈ directory.toList, isPlainGlyph c = true
  tracked : losesTrack directory = false

section
variable {tree : Tree} {directory : String} {place : Path} (h : Reaches tree directory place)
include h

theorem Reaches.load_ok : ∃ outcomes : List (Outcome NamedRequest),
    outcomes.Perm ((requestFiles tree place).map (requestAt tree place)) ∧
      ∀ registry, load tree directory = .ok registry ↔ Adds empty outcomes registry := by
  obtain ⟨hproper, hleads, hplain, htracked⟩ := h
  obtain ⟨base, hbase, hspelled⟩ := Disk.spelled_plain hplain htracked hleads
  obtain ⟨paths, hpaths, hload⟩ := load_spelled hleads.exists? hspelled
  refine ⟨paths.map (readRequest tree), ?_, fun registry => ?_⟩
  · have hread : ((requestFiles tree place).map (join base)).map (readRequest tree) =
        (requestFiles tree place).map (requestAt tree place) := by
      rw [List.map_map]
      exact List.map_congr_left fun file hfile =>
        readRequest_join hproper hbase (List.mem_filter.mp hfile).1
    rw [← hread]
    rw [pathsAt_single hbase] at hpaths
    exact (hpaths.trans ((readOrder_perm (hproper.nodup_names place)).map _)).map _
  · rw [hload, foldlM_loadFile_ok distinct_empty]

theorem Reaches.holds {registry : Registry} (hload : load tree directory = .ok registry) :
    registry.Holds tree place := by
  obtain ⟨outcomes, houtcomes, hok⟩ := h.load_ok
  exact holds_of_adds houtcomes ((hok registry).mp hload)

theorem Reaches.exists_load : (∃ registry, load tree directory = .ok registry) ↔
    Loadable tree place := by
  constructor
  · rintro ⟨registry, hload⟩
    exact (h.holds hload).loadable
  · intro hloadable
    obtain ⟨outcomes, houtcomes, hok⟩ := h.load_ok
    obtain ⟨registry, hadds⟩ :=
      hloadable.adds ((h.proper.nodup_names place).filter _) houtcomes
    exact ⟨registry, (hok registry).mpr hadds⟩

end

/-! ## Other names -/

/-- The request files of one directory are those of another one under other names, which have the
same endings. -/
structure Renames (rename : String → String) (tree : Tree) (place : Path) (tree' : Tree)
    (place' : Path) : Prop where
  files : (requestFiles tree' place').Perm ((requestFiles tree place).map rename)
  contents : ∀ file ∈ requestFiles tree place,
    tree'.node? (place' ++ [rename file]) = tree.node? (place ++ [file])
  endings : ∀ file ∈ requestFiles tree place, ∃ stem stem' ending, stem ≠ "" ∧ stem' ≠ "" ∧
    ending ∈ fileEndings ∧ file = stem ++ ending ∧ rename file = stem' ++ ending

namespace Renames

variable {rename : String → String} {tree tree' : Tree} {place place' : Path}
  (h : Renames rename tree place tree' place') (hproper : tree.Proper) (hproper' : tree'.Proper)
include h hproper hproper'

theorem requestAt_eq {file : String} (hfile : file ∈ requestFiles tree place) :
    requestAt tree' place' (rename file) = requestAt tree place file := by
  obtain ⟨stem, stem', ending, hstem, hstem', hending, hold, hnew⟩ := h.endings file hfile
  have hname := hproper.isName_of_mem_names (List.mem_filter.mp hfile).1
  have hname' := hproper'.isName_of_mem_names
    (List.mem_filter.mp (h.files.mem_iff.mpr (List.mem_map_of_mem hfile))).1
  have hextension : extension? (rename file) = extension? file := by
    rw [hold] at hname
    rw [hnew] at hname'
    rw [hnew, extension?_ending hstem' hending hname', hold, extension?_ending hstem hending hname]
  have hdecode (text : String) : decode (rename file) text = decode file text := by
    rw [decode, hextension, decode]
  rw [requestAt, h.contents file hfile, requestAt]
  simp only [hdecode]

theorem outcomes_perm : ((requestFiles tree' place').map (requestAt tree' place')).Perm
    ((requestFiles tree place).map (requestAt tree place)) := by
  have hsame : ((requestFiles tree place).map rename).map (requestAt tree' place') =
      (requestFiles tree place).map (requestAt tree place) := by
    rw [List.map_map]
    exact List.map_congr_left fun file hfile => h.requestAt_eq hproper hproper' hfile
  rw [← hsame]
  exact h.files.map _

theorem holds_iff {registry : Registry} :
    registry.Holds tree' place' ↔ registry.Holds tree place := by
  have hperm := h.outcomes_perm hproper hproper'
  constructor
  · exact fun hholds => ⟨hholds.requests.trans hperm, hholds.distinct⟩
  · exact fun hholds => ⟨hholds.requests.trans hperm.symm, hholds.distinct⟩

theorem loadable_iff : Loadable tree' place' ↔ Loadable tree place := by
  constructor
  · intro hloadable
    obtain ⟨registry, hadds⟩ :=
      hloadable.adds ((hproper'.nodup_names place').filter _) (List.Perm.refl _)
    exact ((h.holds_iff hproper hproper').mp (holds_of_adds (List.Perm.refl _) hadds)).loadable
  · intro hloadable
    obtain ⟨registry, hadds⟩ :=
      hloadable.adds ((hproper.nodup_names place).filter _) (List.Perm.refl _)
    exact ((h.holds_iff hproper hproper').mpr (holds_of_adds (List.Perm.refl _) hadds)).loadable

end Renames

/-! ## The headline -/

/-- **Loading a directory loses, merges and doubles nothing.** It succeeds exactly if every request
file has a request and no two of them have one name for it. Then there is one request for each file,
which is found under its name, and the names are listed in strictly ascending order. Other names for
the files change nothing about this. In a list, where a name may turn up again, the last request of
a name is found. -/
theorem directory_loads_whole {tree : Tree} {directory : String} {place : Path}
    (h : Reaches tree directory place) :
    ((∃ registry, load tree directory = .ok registry) ↔ Loadable tree place) ∧
    (∀ registry, load tree directory = .ok registry →
      registry.requests.length = (requestFiles tree place).length ∧
      (∀ name named, registry.find? name = some named ↔ named.name = name ∧
        ∃ file ∈ requestFiles tree place, requestAt tree place file = .ok named) ∧
      registry.names.Pairwise (· < ·) ∧
      ∀ name, name ∈ registry.names ↔ ∃ file ∈ requestFiles tree place, ∃ named,
        requestAt tree place file = .ok named ∧ named.name = name) ∧
    (∀ rename tree' directory' place', Renames rename tree place tree' place' →
      Reaches tree' directory' place' →
      ((∃ registry, load tree' directory' = .ok registry) ↔
        ∃ registry, load tree directory = .ok registry) ∧
      ∀ registry registry', load tree directory = .ok registry →
        load tree' directory' = .ok registry' →
        registry'.names = registry.names ∧ ∀ name, registry'.find? name = registry.find? name) ∧
    ∀ requests name,
      (ofList requests).find? name = (requests.filter (·.name == name)).getLast? := by
  refine ⟨h.exists_load, fun registry hload => ?_, ?_, find?_ofList⟩
  · have hholds := h.holds hload
    exact ⟨hholds.length_eq, fun name named => hholds.find?_eq_some, hholds.distinct.names_lt,
      fun name => hholds.mem_names⟩
  · intro rename tree' directory' place' hrenames h'
    refine ⟨?_, fun registry registry' hload hload' => ?_⟩
    · rw [h'.exists_load, hrenames.loadable_iff h.proper h'.proper, h.exists_load]
    · have hrenamed := (hrenames.holds_iff h.proper h'.proper).mp (h'.holds hload')
      exact (h.holds hload).unique hrenamed

/-- Two files, and the same files under names that turn their order round. -/
theorem directory_loads_whole_renamed :
    let daily : NamedRequest := ⟨"daily", none, ⟨[], none⟩⟩
    let weekly : NamedRequest := ⟨"weekly", none, ⟨[⟨"a", .select, .ordinary⟩], none⟩⟩
    let tree := (Tree.empty.write "r/a.json" (.file daily.json.toUTF8)).write "r/b.json"
      (.file weekly.json.toUTF8)
    let tree' := (Tree.empty.write "s/y.json" (.file weekly.json.toUTF8)).write "s/z.json"
      (.file daily.json.toUTF8)
    ∃ registry registry', load tree "r" = .ok registry ∧ load tree' "s/." = .ok registry' ∧
      registry.requests.length = 2 ∧ registry.find? "weekly" = some weekly ∧
      "daily" ∈ registry.names ∧ registry'.names = registry.names ∧
      registry'.find? "weekly" = some weekly ∧
      (ofList [daily, weekly, daily]).find? "daily" = some daily := by
  intro daily weekly tree tree'
  have hnames : tree.names ["r"] = ["a.json", "b.json"] :=
    Disk.Tree.names_of_pairwise (by decide +kernel) (by decide +kernel)
  have hnames' : tree'.names ["s"] = ["y.json", "z.json"] :=
    Disk.Tree.names_of_pairwise (by decide +kernel) (by decide +kernel)
  have hreaches : Reaches tree "r" ["r"] :=
    ⟨(Disk.Tree.proper_empty.write (by decide +kernel) (by decide +kernel)).write
      (by decide +kernel) (by decide +kernel), ⟨by decide, by decide +kernel, by rfl⟩,
      List.all_eq_true.mp (by decide), by decide +kernel⟩
  have hreaches' : Reaches tree' "s/." ["s"] :=
    ⟨(Disk.Tree.proper_empty.write (by decide +kernel) (by decide +kernel)).write
      (by decide +kernel) (by decide +kernel), ⟨by decide, by decide +kernel, by rfl⟩,
      List.all_eq_true.mp (by decide), by decide +kernel⟩
  have hfiles : requestFiles tree ["r"] = ["a.json", "b.json"] := by
    rw [requestFiles, hnames]
    decide
  have hfiles' : requestFiles tree' ["s"] = ["y.json", "z.json"] := by
    rw [requestFiles, hnames']
    decide
  have hname (file : String) (hfile : file ∈ ["a.json", "b.json"]) : IsName file :=
    hreaches.proper.isName_of_mem_names (hnames ▸ hfile)
  have hnode : tree.node? ["r", "a.json"] = some (.file daily.json.toUTF8) ∧
      tree.node? ["r", "b.json"] = some (.file weekly.json.toUTF8) := ⟨by rfl, by rfl⟩
  have hnode' : tree'.node? ["s", "z.json"] = some (.file daily.json.toUTF8) ∧
      tree'.node? ["s", "y.json"] = some (.file weekly.json.toUTF8) := ⟨by rfl, by rfl⟩
  have hdaily : requestAt tree ["r"] "a.json" = .ok daily :=
    requestAt_json (hname "a.json" (by decide)) ⟨"a", by decide, by decide⟩ hnode.1
  have hweekly : requestAt tree ["r"] "b.json" = .ok weekly :=
    requestAt_json (hname "b.json" (by decide)) ⟨"b", by decide, by decide⟩ hnode.2
  have hapart : Apart (requestAt tree ["r"] "a.json") (requestAt tree ["r"] "b.json") := by
    rw [hdaily, hweekly]
    rintro _ _ ⟨⟩ ⟨⟩
    decide
  have hloadable : Loadable tree ["r"] := by
    constructor
    · simp [hfiles, hdaily, hweekly]
    · simp [hfiles, hapart, hapart.symm]
  have hrenames : Renames (fun file => if file = "a.json" then "z.json" else "y.json") tree ["r"]
      tree' ["s"] := by
    constructor
    · rw [hfiles, hfiles']
      decide
    · rw [hfiles]
      simp only [List.forall_mem_cons]
      exact ⟨hnode'.1.trans hnode.1.symm, hnode'.2.trans hnode.2.symm, fun _ h => nomatch h⟩
    · rw [hfiles]
      simp only [List.forall_mem_cons]
      exact ⟨⟨"a", "z", ".json", by decide⟩, ⟨"b", "y", ".json", by decide⟩, fun _ h => nomatch h⟩
  obtain ⟨hload, hloaded, hrenamed, hlist⟩ := directory_loads_whole hreaches
  obtain ⟨hsame, hagree⟩ := hrenamed _ _ _ _ hrenames hreaches'
  obtain ⟨registry, hregistry⟩ := hload.mpr hloadable
  obtain ⟨registry', hregistry'⟩ := hsame.mpr ⟨registry, hregistry⟩
  obtain ⟨hlength, hfound, -, hmem⟩ := hloaded registry hregistry
  obtain ⟨hnames, hfind⟩ := hagree registry registry' hregistry hregistry'
  have hfoundWeekly : registry.find? "weekly" = some weekly :=
    (hfound _ _).mpr ⟨rfl, "b.json", by simp [hfiles], hweekly⟩
  refine ⟨registry, registry', hregistry, hregistry', hlength.trans (by rw [hfiles]; rfl),
    hfoundWeekly, (hmem _).mpr ⟨"a.json", by simp [hfiles], daily, hdaily, rfl⟩, hnames,
    (hfind _).trans hfoundWeekly, (hlist _ _).trans (by decide)⟩

/-- A directory with two request files, on a path that begins with a dot and two slashes, is loaded
without either of them. -/
theorem files_lost :
    let daily : NamedRequest := ⟨"daily", none, ⟨[], none⟩⟩
    let weekly : NamedRequest := ⟨"weekly", none, ⟨[], none⟩⟩
    let tree := (Tree.empty.write "r/a.json" (.file daily.json.toUTF8)).write "r/b.json"
      (.file weekly.json.toUTF8)
    tree.Proper ∧ tree.Leads ".//r" ["r"] ∧ (∀ c ∈ ".//r".toList, isPlainGlyph c = true) ∧
    requestFiles tree ["r"] = ["a.json", "b.json"] ∧
    requestAt tree ["r"] "a.json" = .ok daily ∧ requestAt tree ["r"] "b.json" = .ok weekly ∧
    load tree ".//r" = .ok empty ∧ empty.find? "daily" = none := by
  intro daily weekly tree
  have hproper : tree.Proper :=
    (Disk.Tree.proper_empty.write (by decide +kernel) (by decide +kernel)).write
      (by decide +kernel) (by decide +kernel)
  have hleads : tree.Leads ".//r" ["r"] := ⟨by decide, by decide +kernel, by rfl⟩
  have hplain : ∀ c ∈ ".//r".toList, isPlainGlyph c = true := List.all_eq_true.mp (by decide)
  have hnames : tree.names ["r"] = ["a.json", "b.json"] :=
    Disk.Tree.names_of_pairwise (by decide +kernel) (by decide +kernel)
  have hname (file : String) (hfile : file ∈ ["a.json", "b.json"]) : IsName file :=
    hproper.isName_of_mem_names (hnames ▸ hfile)
  refine ⟨hproper, hleads, hplain, ?_, ?_, ?_, ?_, rfl⟩
  · rw [requestFiles, hnames]
    decide
  · exact requestAt_json (hname "a.json" (by decide)) ⟨"a", by decide, by decide⟩ (by rfl)
  · exact requestAt_json (hname "b.json" (by decide)) ⟨"b", by decide, by decide⟩ (by rfl)
  · exact load_nothing hleads hplain (by decide +kernel)

end Registry

end Crosstab
