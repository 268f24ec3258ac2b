import Crosstab.Proofs.DirectoryListing
import Crosstab.Proofs.JsonText
import Crosstab.Proofs.StoredFields
import Crosstab.Registry

/-!
# Stored requests

A request that was written as JSON is read back as it was, from its text
(`NamedRequest.decode_json`) and from a file in a directory (`Registry.load_file`). The texts are
three levels deep at most, so the reader's bound on depth does not matter; and the file is found
unless the search for it loses track on the way to the directory. In that case the registry is left
empty, whatever the directory holds (`Registry.load_nothing`).
-/

namespace Crosstab

open Disk (Tree Path IsName losesTrack isPlainGlyph join)

/-! ## Texts -/

theorem readsBack_texts (fields : List (String × String)) :
    Json.ReadsBack 1 (.record (fields.map fun field => (field.1, .text field.2))) := by
  refine Json.readsBack_record fun field hfield => ?_
  obtain ⟨field, -, rfl⟩ := List.mem_map.mp hfield
  exact Json.readsBack_text 0 field.2

theorem readsBack_option {α : Type} {n : Nat} {encode : α → Value}
    (h : ∀ a, Json.ReadsBack n (encode a)) (a : Option α) :
    Json.ReadsBack n (optionValue encode a) := by
  cases a with
  | none => exact Json.readsBack_null n
  | some a => exact h a

theorem Line.readsBack (line : Line) : Json.ReadsBack 1 line.toValue :=
  readsBack_texts [("text", line.text), ("slot", line.slot.word), ("role", line.role.word)]

theorem AxisSpec.readsBack (axis : AxisSpec) : Json.ReadsBack 1 axis.toValue :=
  readsBack_texts [("start_date", axis.startDate), ("end_date", axis.endDate),
    ("increment", axis.increment.word)]

theorem Request.readsBack_fields (request : Request) :
    ∀ field ∈ request.toFields, Json.ReadsBack 2 field.2 := by
  intro field hfield
  rcases List.mem_cons.mp hfield with rfl | hfield
  · refine Json.readsBack_list fun v hv => ?_
    obtain ⟨line, -, rfl⟩ := List.mem_map.mp hv
    exact line.readsBack
  · rw [List.mem_singleton.mp hfield]
    exact readsBack_option (fun axis => axis.readsBack.mono (by decide)) request.axis

theorem Request.readsBack (request : Request) : Json.ReadsBack 3 request.toValue :=
  Json.readsBack_record request.readsBack_fields

theorem NamedRequest.readsBack (named : NamedRequest) : Json.ReadsBack 3 named.toValue := by
  refine Json.readsBack_record fun field hfield => ?_
  rcases List.mem_append.mp hfield with hfield | hfield
  · rcases List.mem_cons.mp hfield with rfl | hfield
    · exact Json.readsBack_text 2 named.name
    · rw [List.mem_singleton.mp hfield]
      exact readsBack_option (Json.readsBack_text 2) named.description
  · exact named.request.readsBack_fields field hfield

theorem Line.decode_json (rules : Leniency) (line : Line) :
    (Json.parse? line.json).bind (ofValue? rules) = some line := by
  rw [json, Json.parse?_render line.readsBack (by decide), Option.bind_some, ofValue?_toValue]

theorem Request.decode_json (rules : Leniency) (request : Request) :
    (Json.parse? request.json).bind (ofValue? rules) = some request := by
  rw [json, Json.parse?_render request.readsBack (by decide), Option.bind_some, ofValue?_toValue]

theorem NamedRequest.decode_json (named : NamedRequest) :
    (Json.parse? named.json).bind ofValue? = some named := by
  rw [json, Json.parse?_render named.readsBack (by decide), Option.bind_some, ofValue?_toValue]

/-! ## Files -/

theorem fromUTF8?_toUTF8 (s : String) : String.fromUTF8? s.toUTF8 = some s :=
  dif_pos s.isValidUTF8

theorem isName_json {stem : String} (hslash : '/' ∉ stem.toList) : IsName (stem ++ ".json") := by
  have hlong : 5 ≤ (stem ++ ".json").toList.length := by simp
  refine ⟨?_, ?_, ?_, ?_⟩
  · simpa using hslash
  all_goals
    intro hname
    rw [hname] at hlong
    exact absurd hlong (by decide)

namespace Registry

/-- The endings of request files. -/
def fileEndings : List String := [".yml", ".yaml", ".json"]

/-- Whether a file of this name is read. -/
def isRequestFile (name : String) : Bool :=
  fileEndings.any fun ending => ending.toList.isSuffixOf name.toList

theorem filePatterns_eq : filePatterns = fileEndings.map ("*" ++ ·) := by decide

theorem isSuffixOf_json {ending : String} (h : ending ∈ fileEndings) (stem : String) :
    ending.toList.isSuffixOf (stem ++ ".json").toList = (ending == ".json") := by
  simp only [fileEndings, List.mem_cons, List.not_mem_nil, or_false] at h
  rcases h with rfl | rfl | rfl <;> simp [List.isSuffixOf, List.isPrefixOf]

theorem filter_json {names : List String} {stem : String}
    (honly : names.filter isRequestFile = [stem ++ ".json"]) {ending : String}
    (h : ending ∈ fileEndings) :
    names.filter (ending.toList.isSuffixOf ·.toList) =
      if ending == ".json" then [stem ++ ".json"] else [] := by
  calc names.filter (ending.toList.isSuffixOf ·.toList)
      = (names.filter isRequestFile).filter (ending.toList.isSuffixOf ·.toList) := by
        rw [List.filter_filter]
        refine List.filter_congr fun name _ => ?_
        cases hends : ending.toList.isSuffixOf name.toList with
        | true => exact (List.any_eq_true.mpr ⟨ending, h, hends⟩ : isRequestFile name = true).symm
        | false => rfl
    _ = if ending == ".json" then [stem ++ ".json"] else [] := by
        rw [honly, List.filter_cons, List.filter_nil, isSuffixOf_json h]

theorem extension?_json {path stem : String} (hslash : '/' ∉ stem.toList) (hstem : stem ≠ "") :
    extension? (join path (stem ++ ".json")) = some "json" := by
  have hlast : (Disk.components (join path (stem ++ ".json"))).getLast? =
      some (stem ++ ".json") := by
    have hname := (isName_json hslash).components
    by_cases hpath : path = "."
    · rw [join, if_pos hpath, hname]
      rfl
    · rw [Disk.components_join hpath, hname, List.getLast?_concat]
  obtain ⟨c, cs, hback⟩ := List.exists_cons_of_ne_nil
    (List.reverse_ne_nil_iff.mpr fun h => hstem (String.toList_eq_nil_iff.mp h))
  rw [extension?, hlast]
  simp [hback]

theorem readRequest_json {tree : Tree} {base stem : String} {place : Path} {named : NamedRequest}
    (hbase : tree.Leads base place) (hslash : '/' ∉ stem.toList) (hstem : stem ≠ "")
    (hfile : tree.node? (place ++ [stem ++ ".json"]) = some (.file named.json.toUTF8)) :
    readRequest tree (join base (stem ++ ".json")) = .ok named := by
  have hresolve := hbase.resolve?_join (isName_json hslash) (by rw [hfile]; rfl)
  rw [readRequest, Tree.readText?, hresolve, Option.bind_some, hfile]
  simp only [fromUTF8?_toUTF8]
  rw [decode, if_pos (extension?_json hslash hstem), named.decode_json]

theorem loadFile_empty {tree : Tree} {path : String} {named : NamedRequest}
    (h : readRequest tree path = .ok named) : loadFile tree empty path = .ok ⟨[named]⟩ := by
  rw [loadFile, h]
  rfl

theorem load_ok {tree : Tree} {directory : String} (h : tree.exists? directory = true)
    {first second third : Registry}
    (hyml : loadPattern tree directory empty ("*" ++ ".yml") = .ok first)
    (hyaml : loadPattern tree directory first ("*" ++ ".yaml") = .ok second)
    (hjson : loadPattern tree directory second ("*" ++ ".json") = .ok third) :
    load tree directory = .ok third := by
  rw [load, if_pos h, filePatterns_eq]
  simp only [fileEndings, List.map_cons, List.map_nil, List.foldlM_cons, List.foldlM_nil, hyml,
    hyaml, hjson, bind, Except.bind]
  rfl

section
variable {tree : Tree} {directory : String} {place : Path}
  (hplace : tree.Leads directory place) (hplain : ∀ c ∈ directory.toList, isPlainGlyph c = true)
include hplace hplain

theorem loadPattern_ending {ending : String} (h : ending ∈ fileEndings) :
    ∃ base, tree.Leads base place ∧ ∀ registry,
      loadPattern tree directory registry ("*" ++ ending) =
        List.foldlM (loadFile tree) registry (if losesTrack directory then [] else
          ((tree.names place).filter (ending.toList.isSuffixOf ·.toList)).map (join base)) := by
  have hending : ∀ ending ∈ fileEndings,
      ending.toList.all isPlainGlyph = true ∧ '/' ∉ ending.toList := by decide
  obtain ⟨hglyphs, hslash⟩ := hending ending h
  obtain ⟨base, hbase, hfind⟩ :=
    Disk.find_files hplain (List.all_eq_true.mp hglyphs) hslash hplace
  refine ⟨base, hbase, fun registry => ?_⟩
  rw [loadPattern, hfind]
  rfl

/-- Nothing is read where the search loses track. -/
theorem load_nothing (htrack : losesTrack directory = true) : load tree directory = .ok empty := by
  have hpass : ∀ ending ∈ fileEndings, ∀ registry,
      loadPattern tree directory registry ("*" ++ ending) = .ok registry := by
    intro ending hending registry
    obtain ⟨base, -, hload⟩ := loadPattern_ending hplace hplain hending
    rw [hload, htrack]
    rfl
  exact load_ok hplace.exists? (hpass ".yml" (by decide) empty) (hpass ".yaml" (by decide) empty)
    (hpass ".json" (by decide) empty)

/-- A single file is read, and nothing else. -/
theorem load_file (htrack : losesTrack directory = false) {stem : String} {named : NamedRequest}
    (hslash : '/' ∉ stem.toList) (hstem : stem ≠ "")
    (honly : (tree.names place).filter isRequestFile = [stem ++ ".json"])
    (hfile : tree.node? (place ++ [stem ++ ".json"]) = some (.file named.json.toUTF8)) :
    load tree directory = .ok ⟨[named]⟩ := by
  have hpattern : ∀ ending ∈ fileEndings, loadPattern tree directory empty ("*" ++ ending) =
      .ok (if ending == ".json" then ⟨[named]⟩ else empty) := by
    intro ending hending
    obtain ⟨base, hbase, hload⟩ := loadPattern_ending hplace hplain hending
    rw [hload, htrack, filter_json honly hending]
    cases ending == ".json" with
    | false => rfl
    | true =>
        have hone := loadFile_empty (readRequest_json hbase hslash hstem hfile)
        simp [hone]
  exact load_ok hplace.exists? (hpattern ".yml" (by decide)) (hpattern ".yaml" (by decide))
    (hpattern ".json" (by decide))

end

end Registry

/-- **Requests survive the file format**: as texts, with fields left out, and in a file of a
directory. -/
theorem stored_requests_survive (rules : Leniency) :
    (∀ line : Line, (Json.parse? line.json).bind (Line.ofValue? rules) = some line) ∧
    (∀ request : Request,
      (Json.parse? request.json).bind (Request.ofValue? rules) = some request) ∧
    (∀ named : NamedRequest, (Json.parse? named.json).bind NamedRequest.ofValue? = some named) ∧
    (∀ before after : List (String × Value), "role" ∉ (before ++ after).map Prod.fst →
      Line.ofValue? rules (.record (before ++ after)) =
        Line.ofValue? rules (.record (before ++ ("role", .text "none") :: after))) ∧
    (∀ before after : List (String × Value), "axis" ∉ (before ++ after).map Prod.fst →
      Request.ofValue? rules (.record (before ++ after)) =
        Request.ofValue? rules (.record (before ++ ("axis", .null) :: after)) ∧
      NamedRequest.ofValue? (.record (before ++ after)) =
        NamedRequest.ofValue? (.record (before ++ ("axis", .null) :: after))) ∧
    ∀ (tree : Tree) (directory stem : String) (place : Path) (named : NamedRequest),
      tree.resolve? directory = some place → tree.isDirectory place = true →
      (∀ c ∈ directory.toList, isPlainGlyph c = true) → losesTrack directory = false →
      '/' ∉ stem.toList → stem ≠ "" →
      (tree.names place).filter Registry.isRequestFile = [stem ++ ".json"] →
      tree.node? (place ++ [stem ++ ".json"]) = some (.file named.json.toUTF8) →
      ∃ registry, Registry.load tree directory = .ok registry ∧
        registry.names = [named.name] ∧ registry.find? named.name = some named ∧
        ∀ name, name ≠ named.name → registry.find? name = none := by
  refine ⟨Line.decode_json rules, Request.decode_json rules, NamedRequest.decode_json, ?_, ?_, ?_⟩
  · intro before after habsent
    exact (Line.ofValue?_withoutRole rules habsent).symm
  · intro before after habsent
    exact ⟨(Request.ofValue?_withoutAxis rules habsent).symm,
      (NamedRequest.ofValue?_withoutAxis habsent).symm⟩
  · intro tree directory stem place named hresolve hdir hplain htrack hslash hstem honly hfile
    have hplace := Tree.leads_iff.mpr ⟨hresolve, hdir⟩
    refine ⟨⟨[named]⟩, Registry.load_file hplace hplain htrack hslash hstem honly hfile, ?_, ?_, ?_⟩
    · simp [Registry.names]
    · simp [Registry.find?]
    · intro name hname
      simp [Registry.find?, hname.symm]

theorem stored_requests_survive_plain :
    let named : NamedRequest :=
      ⟨"daily", none, ⟨[⟨"Region", .select, .ordinary⟩, ⟨"events", .table, .ordinary⟩], none⟩⟩
    let tree := Tree.empty.write "requests/a.json" (.file named.json.toUTF8)
    Line.ofValue? .stored (.record [("text", .text "Region"), ("slot", .text "select")]) =
      some ⟨"Region", .select, .ordinary⟩ ∧
    Request.ofValue? .stored (.record [("lines", .list [])]) = some ⟨[], none⟩ ∧
    ∃ registry, Registry.load tree "requests" = .ok registry ∧ registry.names = ["daily"] ∧
      registry.find? "daily" = some named := by
  intro named tree
  obtain ⟨-, -, -, hrole, haxis, hfile⟩ := stored_requests_survive .stored
  refine ⟨?_, ?_, ?_⟩
  · have hline := hrole [("text", .text "Region"), ("slot", .text "select")] [] (by decide)
    rw [List.append_nil] at hline
    rw [hline]
    exact Line.ofValue?_toValue .stored ⟨"Region", .select, .ordinary⟩
  · have hrequest := (haxis [("lines", .list [])] [] (by decide)).1
    rw [List.append_nil] at hrequest
    rw [hrequest]
    exact Request.ofValue?_toValue .stored ⟨[], none⟩
  · obtain ⟨registry, hload, hnames, hfound, -⟩ := hfile tree "requests" "a" ["requests"] named
      (by decide +kernel) (by rfl) (List.all_eq_true.mp (by decide)) (by decide +kernel)
      (by decide) (by decide) (by decide +kernel) (by rfl)
    exact ⟨registry, hload, hnames, hfound⟩

/-- The working directory, written with a slash behind its dot, holds a request file and is loaded
without it. -/
theorem dot_slash_loads_nothing :
    let named : NamedRequest :=
      ⟨"daily", none, ⟨[⟨"Region", .select, .ordinary⟩, ⟨"events", .table, .ordinary⟩], none⟩⟩
    let tree := Tree.empty.write "a.json" (.file named.json.toUTF8)
    tree.resolve? "./" = some [] ∧ tree.isDirectory [] = true ∧
    (∀ c ∈ "./".toList, isPlainGlyph c = true) ∧
    (tree.names []).filter Registry.isRequestFile = ["a.json"] ∧
    tree.node? ["a.json"] = some (.file named.json.toUTF8) ∧
    Registry.load tree "./" = .ok .empty := by
  intro named tree
  have hresolve : tree.resolve? "./" = some [] := by decide +kernel
  have hdir : tree.isDirectory [] = true := rfl
  have hplain : ∀ c ∈ "./".toList, isPlainGlyph c = true := List.all_eq_true.mp (by decide)
  have hplace := Tree.leads_iff.mpr ⟨hresolve, hdir⟩
  have hload := Registry.load_nothing hplace hplain (by decide +kernel)
  exact ⟨hresolve, hdir, hplain, by decide +kernel, by rfl, hload⟩

end Crosstab
