import Crosstab.Settings
import Crosstab.Proofs.ClosedAxis

/-!
# Usable settings

Settings may come from three files, none of which has to be there or to be right. `load_iff` says
what comes of them: the settings of the first file that can be read, parsed and accepted, and
nothing of those that were passed over (`ReadFrom`).

However settings were come by, the alias that they give to the bucket of a date axis can be used as
it is (`Obtained.check`). It is written behind the bucket without quotes, and still the two are read
apart again: the alias is one word, so the `AS` ahead of it is the last one between blanks, whatever
the bucket holds and even if the word is `AS` itself (`splitAlias_word`).
-/

namespace Crosstab

namespace Config

/-! ## The first usable file -/

/-- The files in which settings are looked for, in this order. -/
def places (environment userDirectory : Option String) : List String :=
  environment.toList ++ [localFile] ++ (userDirectory.map userFile).toList

/-- The file at `path` can be read and parsed into `value`, which spells out settings that pass the
check. -/
def Supplies (tree : Disk.Tree) (path : String) (value : Value) (config : Config) : Prop :=
  ∃ text, tree.readText? path = some text ∧ Toml.parse? text = some value ∧
    ofValue? .settings value = some config ∧ config.check = .ok ()

/-- The file at `path` supplies some settings. -/
def Usable (tree : Disk.Tree) (path : String) : Prop :=
  ∃ value config, Supplies tree path value config

theorem ofToml_ok {text : String} {config : Config} :
    ofToml text = .ok config ↔ ∃ value, Toml.parse? text = some value ∧
      ofValue? .settings value = some config ∧ config.check = .ok () := by
  unfold ofToml
  constructor
  · intro h
    split at h
    · cases h
    · rename_i found hfound
      obtain ⟨value, hvalue, hconfig⟩ := Option.bind_eq_some_iff.mp hfound
      obtain ⟨hcheck, hfound⟩ := check_eq_ok.mp h
      cases hfound
      exact ⟨value, hvalue, hconfig, hcheck⟩
  · rintro ⟨value, hvalue, hconfig, hcheck⟩
    rw [hvalue, Option.bind_some, hconfig]
    exact check_eq_ok.mpr ⟨hcheck, rfl⟩

theorem ofFile_ok {tree : Disk.Tree} {path : String} {config : Config} :
    ofFile tree path = .ok config ↔ ∃ value, Supplies tree path value config := by
  unfold ofFile Supplies
  cases htext : tree.readText? path with
  | none => simp
  | some text => simp [ofToml_ok]

theorem toOption_ofFile {tree : Disk.Tree} {path : String} {config : Config} :
    (ofFile tree path).toOption = some config ↔ ∃ value, Supplies tree path value config := by
  rw [← ofFile_ok]
  cases ofFile tree path <;> simp [Except.toOption]

theorem toOption_ofFile_none {tree : Disk.Tree} {path : String} :
    (ofFile tree path).toOption = none ↔ ¬ Usable tree path := by
  rw [Option.eq_none_iff_forall_ne_some]
  simp only [ne_eq, toOption_ofFile, Usable]
  exact ⟨fun h ⟨value, config, hfile⟩ => h config ⟨value, hfile⟩,
    fun h config ⟨value, hfile⟩ => h ⟨value, config, hfile⟩⟩

section
variable {tree : Disk.Tree} {environment userDirectory : Option String} {config : Config}

/-- The settings are those of the first usable file, or the built-in ones if there is none. -/
theorem load_iff :
    load tree environment userDirectory = config ↔
      (∃ before path after value,
        places environment userDirectory = before ++ path :: after ∧
        (∀ earlier ∈ before, ¬ Usable tree earlier) ∧ Supplies tree path value config) ∨
      (∀ path ∈ places environment userDirectory, ¬ Usable tree path) ∧ config = {} := by
  have hload : load tree environment userDirectory =
      ((places environment userDirectory).findSome? fun path =>
        (ofFile tree path).toOption).getD {} := rfl
  rw [hload]
  constructor
  · rintro rfl
    cases hfound : (places environment userDirectory).findSome? fun path =>
        (ofFile tree path).toOption with
    | none =>
        rw [List.findSome?_eq_none_iff] at hfound
        exact Or.inr ⟨fun path hpath => toOption_ofFile_none.mp (hfound path hpath), rfl⟩
    | some found =>
        obtain ⟨before, path, after, hplaces, hfile, hbefore⟩ :=
          List.findSome?_eq_some_iff.mp hfound
        obtain ⟨value, hsupplies⟩ := toOption_ofFile.mp hfile
        exact Or.inl ⟨before, path, after, value, hplaces,
          fun earlier hearlier => toOption_ofFile_none.mp (hbefore earlier hearlier), hsupplies⟩
  · rintro (⟨before, path, after, value, hplaces, hbefore, hsupplies⟩ | ⟨hnone, rfl⟩)
    · rw [List.findSome?_eq_some_iff.mpr ⟨before, path, after, hplaces,
        toOption_ofFile.mpr ⟨value, hsupplies⟩,
        fun earlier hearlier => toOption_ofFile_none.mpr (hbefore earlier hearlier)⟩]
      rfl
    · rw [List.findSome?_eq_none_iff.mpr fun path hpath =>
        toOption_ofFile_none.mpr (hnone path hpath)]
      rfl

end

/-! ## What a file spells out -/

/-- A setting is what is spelled out for it, and `builtIn` if nothing is. -/
def Keeps {α : Type} (spelled : Option Value) (decode : Value → Option α) (builtIn a : α) : Prop :=
  match spelled with
  | some said => decode said = some a
  | none => a = builtIn

/-- What the fields of a record hold at a key of one of its sections. -/
def keyAt (sections : Fields) (i : Nat) (keys : List String) (j : Nat) : Option Value :=
  (sections.get? i).bind fun said => (said.fields? .settings keys).bind (·.get? j)

/-- What a file holds at a key of one of its sections. -/
def spelled? (value : Value) (name : String) (keys : List String) (key : String) : Option Value :=
  (value.fields? .settings sectionNames).bind fun sections =>
    keyAt sections (sectionNames.idxOf name) keys (keys.idxOf key)

/-- Every setting is the one that the file spells out or the built-in one. -/
structure ReadFrom (value : Value) (config : Config) : Prop where
  axisAlias : Keeps (spelled? value "defaults" ["axis_alias"] "axis_alias") Value.text?
    ({} : Config).axisAlias config.axisAlias
  maxRecursion : Keeps (spelled? value "sqlserver" ["max_recursion"] "max_recursion")
    (Value.count? maxShortCount) ({} : Config).maxRecursion config.maxRecursion
  cteMaxRecursionDepth : Keeps (spelled? value "mysql"
      ["cte_max_recursion_depth", "group_concat_max_len"] "cte_max_recursion_depth")
    (Value.count? maxCount) ({} : Config).cteMaxRecursionDepth config.cteMaxRecursionDepth
  groupConcatMaxLen : Keeps (spelled? value "mysql"
      ["cte_max_recursion_depth", "group_concat_max_len"] "group_concat_max_len")
    (Value.count? maxCount) ({} : Config).groupConcatMaxLen config.groupConcatMaxLen
  pivotView : Keeps (spelled? value "postgres" ["pivot_view"] "pivot_view") Value.text?
    ({} : Config).pivotView config.pivotView

theorem orElse_eq_some {α : Type} {fields : Fields} {i : Nat} {builtIn a : α}
    {decode : Value → Option α} :
    fields.orElse i builtIn decode = some a ↔ Keeps (fields.get? i) decode builtIn a := by
  unfold Fields.orElse Keeps
  cases fields.get? i with
  | none => exact ⟨fun h => (Option.some.inj h).symm, fun h => congrArg some h.symm⟩
  | some said => exact Iff.rfl

section
variable {sections : Fields} {i : Nat} {config config' : Config}

/-- A section that is absent is as good as one without any fields. -/
theorem exists_fields {keys : List String} {step : Fields → Option Config}
    (hnone : step [] = some config)
    (h : sections.orElse i config (fun said => (said.fields? .settings keys).bind step) =
      some config') :
    ∃ fields, step fields = some config' ∧ ∀ j, keyAt sections i keys j = fields.get? j := by
  rw [orElse_eq_some] at h
  unfold keyAt
  cases hsaid : sections.get? i with
  | none =>
      rw [hsaid] at h
      cases h
      exact ⟨[], hnone, fun _ => rfl⟩
  | some said =>
      rw [hsaid] at h
      obtain ⟨fields, hfields, hstep⟩ := Option.bind_eq_some_iff.mp h
      refine ⟨fields, hstep, fun j => ?_⟩
      rw [Option.bind_some, hfields, Option.bind_some]

theorem keeps_defaults
    (h : sections.orElse i config (withDefaults .settings config) = some config') :
    ∃ axisAlias, config' = { config with axisAlias } ∧
      Keeps (keyAt sections i ["axis_alias"] 0) Value.text? config.axisAlias axisAlias := by
  obtain ⟨fields, hstep, hkey⟩ := exists_fields (by rfl) h
  obtain ⟨axisAlias, halias, hstep⟩ := Option.bind_eq_some_iff.mp hstep
  cases hstep
  exact ⟨axisAlias, rfl, hkey 0 ▸ orElse_eq_some.mp halias⟩

theorem keeps_sqlServer
    (h : sections.orElse i config (withSqlServer .settings config) = some config') :
    ∃ maxRecursion, config' = { config with maxRecursion } ∧
      Keeps (keyAt sections i ["max_recursion"] 0) (Value.count? maxShortCount)
        config.maxRecursion maxRecursion := by
  obtain ⟨fields, hstep, hkey⟩ := exists_fields (by rfl) h
  obtain ⟨maxRecursion, hlimit, hstep⟩ := Option.bind_eq_some_iff.mp hstep
  cases hstep
  exact ⟨maxRecursion, rfl, hkey 0 ▸ orElse_eq_some.mp hlimit⟩

theorem keeps_mySql
    (h : sections.orElse i config (withMySql .settings config) = some config') :
    ∃ cteMaxRecursionDepth groupConcatMaxLen,
      config' = { config with cteMaxRecursionDepth, groupConcatMaxLen } ∧
      Keeps (keyAt sections i ["cte_max_recursion_depth", "group_concat_max_len"] 0)
        (Value.count? maxCount) config.cteMaxRecursionDepth cteMaxRecursionDepth ∧
      Keeps (keyAt sections i ["cte_max_recursion_depth", "group_concat_max_len"] 1)
        (Value.count? maxCount) config.groupConcatMaxLen groupConcatMaxLen := by
  obtain ⟨fields, hstep, hkey⟩ := exists_fields (by rfl) h
  obtain ⟨depth, hdepth, hstep⟩ := Option.bind_eq_some_iff.mp hstep
  obtain ⟨length, hlength, hstep⟩ := Option.bind_eq_some_iff.mp hstep
  cases hstep
  exact ⟨depth, length, rfl, hkey 0 ▸ orElse_eq_some.mp hdepth,
    hkey 1 ▸ orElse_eq_some.mp hlength⟩

theorem keeps_postgres
    (h : sections.orElse i config (withPostgres .settings config) = some config') :
    ∃ pivotView, config' = { config with pivotView } ∧
      Keeps (keyAt sections i ["pivot_view"] 0) Value.text? config.pivotView pivotView := by
  obtain ⟨fields, hstep, hkey⟩ := exists_fields (by rfl) h
  obtain ⟨pivotView, hview, hstep⟩ := Option.bind_eq_some_iff.mp hstep
  cases hstep
  exact ⟨pivotView, rfl, hkey 0 ▸ orElse_eq_some.mp hview⟩

end

theorem readFrom_of_ofValue? {value : Value} {config : Config}
    (h : ofValue? .settings value = some config) : ReadFrom value config := by
  obtain ⟨sections, hsections, h⟩ := Option.bind_eq_some_iff.mp h
  obtain ⟨config, hdefaults, h⟩ := Option.bind_eq_some_iff.mp h
  obtain ⟨axisAlias, rfl, halias⟩ := keeps_defaults hdefaults
  obtain ⟨config, hsqlServer, h⟩ := Option.bind_eq_some_iff.mp h
  obtain ⟨maxRecursion, rfl, hrecursion⟩ := keeps_sqlServer hsqlServer
  obtain ⟨config, hmySql, hpostgres⟩ := Option.bind_eq_some_iff.mp h
  obtain ⟨depth, length, rfl, hdepth, hlength⟩ := keeps_mySql hmySql
  obtain ⟨pivotView, rfl, hview⟩ := keeps_postgres hpostgres
  have hspelled (name : String) (keys : List String) (key : String) :
      spelled? value name keys key =
        keyAt sections (sectionNames.idxOf name) keys (keys.idxOf key) := by
    rw [spelled?, hsections, Option.bind_some]
  constructor
  case axisAlias => rwa [hspelled]
  case maxRecursion => rwa [hspelled]
  case cteMaxRecursionDepth => rwa [hspelled]
  case groupConcatMaxLen => rwa [hspelled]
  case pivotView => rwa [hspelled]

/-! ## Settings in use -/

/-- The settings that a caller can come by: those of a text, those of a file and those of the first
usable file. -/
inductive Obtained : Config → Prop where
  | ofToml {text : String} {config : Config} (h : ofToml text = .ok config) : Obtained config
  | ofFile {tree : Disk.Tree} {path : String} {config : Config} (h : ofFile tree path = .ok config) :
      Obtained config
  | load (tree : Disk.Tree) (environment userDirectory : Option String) :
      Obtained (load tree environment userDirectory)

theorem Obtained.check {config : Config} (h : Obtained config) : config.check = .ok () := by
  cases h with
  | ofToml h =>
      obtain ⟨value, -, -, hcheck⟩ := ofToml_ok.mp h
      exact hcheck
  | ofFile h =>
      obtain ⟨value, text, -, -, -, hcheck⟩ := ofFile_ok.mp h
      exact hcheck
  | load tree environment userDirectory =>
      rcases load_iff.mp rfl with ⟨_, _, _, _, -, -, text, -, -, -, hcheck⟩ | ⟨-, hbuiltIn⟩
      · exact hcheck
      · rw [hbuiltIn]
        rfl

end Config

/-! ## A word as an alias -/

theorem splitLast_startsAs_of_not_blank {ms : List (Char × Bool)}
    (h : ∀ m ∈ ms, isBlank m.1 = false) : splitLast startsAs ms = none := by
  induction ms with
  | nil => rfl
  | cons m ms ih =>
      obtain ⟨hm, hms⟩ := List.forall_mem_cons.mp h
      rw [splitLast_cons_none (ih hms), if_neg (startsAs_of_not_blank hm)]

/-- Where only the first character can be a blank there is no `AS` between blanks. -/
theorem splitLast_startsAs_unbroken {ms : List (Char × Bool)}
    (h : ∀ m ∈ ms, isBlank m.1 = false) (m : Char × Bool) :
    splitLast startsAs (m :: ms) = none := by
  rw [splitLast_cons_none (splitLast_startsAs_of_not_blank h), if_neg]
  intro hstarts
  obtain ⟨b, keyword, b', top, rest, heq, -, -, hb'⟩ := startsAs_iff.mp hstarts
  have hmem : (b', top) ∈ ms := by
    rw [(List.cons.inj heq).2]
    exact List.mem_append_right _ (List.mem_cons_self ..)
  rw [h _ hmem] at hb'
  cases hb'

section
variable {word : List Char} (hword : ∀ c ∈ word, isCallNameChar c = true)
include hword

theorem unquote_word : unquote word = word := by
  rw [unquote, (trimmed_callName hword).trim]
  cases word with
  | nil => rfl
  | cons c word =>
      have hc : identCloser? c = none := by
        have hname := hword c (List.mem_cons_self ..)
        unfold identCloser?
        split <;> first | rfl | cases hname
      simp [hc]

/-- The word and the keyword ahead of it stand at the top level. -/
theorem marks_as_word {e : List Char} (he : isClosed e = true) :
    marks (e ++ ' ' :: 'A' :: 'S' :: ' ' :: word) =
      marks e ++ (' ', true) :: ('A', true) :: ('S', true) :: (' ', true) ::
        word.map (·, true) := by
  have hinert : ∀ c ∈ 'A' :: 'S' :: ' ' :: word, isInert c = true := by
    simp only [List.forall_mem_cons]
    exact ⟨rfl, rfl, rfl, fun c hc => isInert_of (p := isCallNameChar) (by decide) (hword c hc)⟩
  have hrest := marks_inert_append hinert []
  rw [List.append_nil] at hrest
  rw [marks, Cursor.marks_append, Cursor.marks_inert (Cursor.legal_start.run _)
    (isClosed_iff.mp he).2 (isInert_of_isBlank rfl), hrest]
  simp [marks, Cursor.marks]

/-- The keyword ahead of the word is the last one between blanks, even if the word is one itself. -/
theorem splitLast_startsAs_word :
    splitLast startsAs ((' ', true) :: ('A', true) :: ('S', true) :: (' ', true) ::
        word.map (·, true)) =
      some ([], (' ', true) :: ('A', true) :: ('S', true) :: (' ', true) ::
        word.map (·, true)) := by
  have hunbroken : ∀ m ∈ word.map (·, true), isBlank m.1 = false := by
    intro m hm
    obtain ⟨c, hc, rfl⟩ := List.mem_map.mp hm
    exact isBlank_of_isCallNameChar (hword c hc)
  exact splitLast_startsAs_keyword rfl rfl (splitLast_startsAs_unbroken hunbroken (' ', true)) rfl

/-- A closed expression and a word behind `AS` are read apart again. -/
theorem splitAlias_word (hwordne : word ≠ []) {e : List Char} (he : isClosed e = true)
    (hne : e ≠ []) (ht : Trimmed e) :
    splitAlias (e ++ ' ' :: 'A' :: 'S' :: ' ' :: word) = (e, some word) := by
  have hlast : (e ++ ' ' :: 'A' :: 'S' :: ' ' :: word).getLast? = word.getLast? := by
    obtain ⟨before, last, rfl⟩ := (List.eq_nil_or_concat word).resolve_left hwordne
    simp [List.getLast?_append, List.getLast?_cons]
  have htrimmed : Trimmed (e ++ ' ' :: 'A' :: 'S' :: ' ' :: word) := by
    refine ⟨?_, fun c hc => (trimmed_callName hword).2 c (hlast ▸ hc)⟩
    obtain ⟨c, rest, rfl⟩ := List.exists_cons_of_ne_nil hne
    exact ht.1
  have hcomma : (e ++ ' ' :: 'A' :: 'S' :: ' ' :: word).getLast? ≠ some ',' := by
    rw [hlast]
    intro h
    cases hword ',' (List.mem_of_getLast? h)
  have hsplit := splitLast_append (splitLast_startsAs_word hword) (marks e)
  rw [← marks_as_word hword he, ← tidy_eq_self htrimmed hcomma, List.append_nil] at hsplit
  have htrim : trim ([' '] ++ word) = word :=
    trim_blanks_append (trimmed_callName hword) (List.forall_mem_singleton.mpr rfl)
  have hname : trim ((((' ', true) :: ('A', true) :: ('S', true) :: (' ', true) ::
      word.map (·, true)).map Prod.fst).drop 3) = word := by
    simpa [Function.comp_def] using htrim
  have hahead : trimEnd ((marks e).map Prod.fst) = e := by
    rw [marks, Cursor.map_fst_marks, trimEnd, dropTailWhile_eq_self ht.2]
  rw [splitAlias_of_split hsplit (by rwa [hname]), hname, unquote_word hword, hahead]

end

/-! ## The bucket of an axis -/

/-- The statement begins its select list with the bucket of the request's axis under the alias of
the settings, and the two are read apart again. -/
def LeadsWithBucket (config : Config) (db : Database) (request : Request) (query : Query) : Prop :=
  ∃ spec others, request.axis = some spec ∧
    let bucket := db.datePart spec.increment "axis.dt"
    query.select = (bucket ++ " AS " ++ config.axisAlias) :: others ∧
    splitAlias (bucket ++ " AS " ++ config.axisAlias).toList =
      (bucket.toList, some config.axisAlias.toList)

section
variable {config : Config} (hcheck : config.check = .ok ())
include hcheck

theorem splitAlias_bucket (db : Database) (increment : Increment) :
    splitAlias (db.datePart increment "axis.dt" ++ " AS " ++ config.axisAlias).toList =
      ((db.datePart increment "axis.dt").toList, some config.axisAlias.toList) := by
  obtain ⟨hne, hword⟩ := isWord_axisAlias hcheck
  have hsolid := db.solid_datePart increment "axis.dt"
  have hlist : (db.datePart increment "axis.dt" ++ " AS " ++ config.axisAlias).toList =
      (db.datePart increment "axis.dt").toList ++
        ' ' :: 'A' :: 'S' :: ' ' :: config.axisAlias.toList := by
    rw [String.toList_append, String.toList_append, List.append_assoc]
    rfl
  rw [hlist]
  exact splitAlias_word hword hne (db.closed_datePart increment rfl) hsolid.ne_nil hsolid.trimmed

theorem leadsWithBucket {db : Database} {request : Request} {shape : Shape} {plan : AxisPlan}
    (hplan : AxisPlan.ofRequest db request shape = .ok plan) {query : Query}
    {others : List String}
    (hquery : query.select = (plan.bucket ++ " AS " ++ config.axisAlias) :: others) :
    LeadsWithBucket config db request query := by
  obtain ⟨spec, _, _, hspec, -, -, rfl⟩ := AxisPlan.ofRequest_ok hplan
  exact ⟨spec, others, hspec, hquery, splitAlias_bucket hcheck db spec.increment⟩

variable {db : Database} {request : Request} {sql : String}

theorem axis_leadsWithBucket (h : Build.axis config db request = .ok sql) :
    ∃ query, sql = query.render db ∧ LeadsWithBucket config db request query := by
  obtain ⟨spec, plan, -, hplan, rfl⟩ := Build.axis_ok h
  exact ⟨_, rfl, leadsWithBucket hcheck hplan rfl⟩

theorem axisPivot_leadsWithBucket (h : Build.axisPivot config db request = .ok sql) :
    ∃ write plan query, Script.writer? config db = some write ∧ sql = (write plan true).render db ∧
      plan.head = query.head db ∧ plan.tail = query.tail db ∧
      LeadsWithBucket config db request query := by
  obtain ⟨write, spec, plan, hwrite, -, hplan, rfl⟩ := Build.axisPivot_ok h
  obtain ⟨_, axisPlan, _, _, -, haxis, -, -, rfl⟩ := PivotPlan.ofAxis_ok hplan
  exact ⟨write, _, PivotPlan.axisQuery db (Calendar.ofAxis config db spec) config.axisAlias axisPlan,
    hwrite, rfl, rfl, rfl, leadsWithBucket hcheck haxis rfl⟩

end

/-! ## The headline -/

/-- **Settings always end in an alias that can be used.** They are those of the first place that can
be read, parsed and accepted, with nothing in them of an earlier one, and the built-in ones if there
is no such place. And wherever settings come from, the bucket of an axis and its alias are read
apart again at the head of every statement over an axis, for every target and every increment. -/
theorem usable_settings :
    (∀ (tree : Disk.Tree) (environment userDirectory : Option String) (config : Config),
      Config.load tree environment userDirectory = config ↔
        (∃ before path after value,
          Config.places environment userDirectory = before ++ path :: after ∧
          (∀ earlier ∈ before, ¬ Config.Usable tree earlier) ∧
          Config.Supplies tree path value config) ∨
        (∀ path ∈ Config.places environment userDirectory, ¬ Config.Usable tree path) ∧
          config = {}) ∧
    (∀ value config, Config.ofValue? .settings value = some config →
      Config.ReadFrom value config) ∧
    ∀ config, Config.Obtained config → ∀ db : Database,
      (∀ increment, splitAlias (db.datePart increment "axis.dt" ++ " AS " ++
        config.axisAlias).toList =
          ((db.datePart increment "axis.dt").toList, some config.axisAlias.toList)) ∧
      ∀ request sql,
        (Build.axis config db request = .ok sql →
          ∃ query, sql = query.render db ∧ LeadsWithBucket config db request query) ∧
        (Build.axisPivot config db request = .ok sql →
          ∃ write plan query, Script.writer? config db = some write ∧
            sql = (write plan true).render db ∧
            plan.head = query.head db ∧ plan.tail = query.tail db ∧
            LeadsWithBucket config db request query) :=
  ⟨fun _ _ _ _ => Config.load_iff, fun _ _ => Config.readFrom_of_ofValue?,
    fun _ hconfig db => ⟨splitAlias_bucket hconfig.check db, fun _ _ =>
      ⟨axis_leadsWithBucket hconfig.check, axisPivot_leadsWithBucket hconfig.check⟩⟩⟩

/-- The file of the environment is refused for its alias, and that of the working directory names
the bucket by the word ahead of it. -/
theorem usable_settings_as :
    let tree := (Disk.Tree.empty.write "broken.toml" (.file
        "[mysql]\ngroup_concat_max_len = 1\n[defaults]\naxis_alias = \"a b\"".toUTF8)).write
      "aggsql.toml" (.file "[defaults]\naxis_alias = \"AS\"".toUTF8)
    let config : Config := { axisAlias := "AS" }
    let request : Request := ⟨[⟨"CAST(o.at AS DATE) AS d", .select, .axis⟩,
      ⟨"COUNT(*) AS n", .select, .count⟩, ⟨"o.kind", .select, .pivot⟩,
      ⟨"orders o", .table, .ordinary⟩, ⟨"CAST(o.at AS DATE)", .groupBy, .axis⟩],
      some ⟨"'2020-01-01'", "'2020-12-31'", .month⟩⟩
    Config.load tree (some "broken.toml") none = config ∧
      (∃ value, Config.ofValue? .settings value = some config ∧ Config.ReadFrom value config) ∧
      (∃ sql query, Build.axis config .mySql request = .ok sql ∧ sql = query.render .mySql ∧
        LeadsWithBucket config .mySql request query) ∧
      ∃ sql write plan query, Build.axisPivot config .mySql request = .ok sql ∧
        Script.writer? config .mySql = some write ∧ sql = (write plan true).render .mySql ∧
        plan.head = query.head .mySql ∧ plan.tail = query.tail .mySql ∧
        LeadsWithBucket config .mySql request query := by
  intro tree config request
  have hload : Config.load tree (some "broken.toml") none = config := by decide +kernel
  obtain ⟨hfirst, hread, hleads⟩ := usable_settings
  obtain ⟨-, hrequest⟩ := hleads config (hload ▸ .load tree (some "broken.toml") none) .mySql
  have hvalue : ∃ value, Config.ofValue? .settings value = some config := by
    rcases (hfirst tree (some "broken.toml") none config).mp hload with
      ⟨_, _, _, value, -, -, _, -, -, hvalue, -⟩ | ⟨-, hbuiltIn⟩
    · exact ⟨value, hvalue⟩
    · exact absurd hbuiltIn (by decide)
  obtain ⟨value, hvalue⟩ := hvalue
  obtain ⟨axis, haxis⟩ : ∃ sql, Build.axis config .mySql request = .ok sql := ⟨_, rfl⟩
  obtain ⟨pivot, hpivot⟩ : ∃ sql, Build.axisPivot config .mySql request = .ok sql := ⟨_, rfl⟩
  obtain ⟨query, hquery, hbucket⟩ := (hrequest request axis).1 haxis
  obtain ⟨write, plan, outer, hscript⟩ := (hrequest request pivot).2 hpivot
  exact ⟨hload, ⟨value, hvalue, hread value config hvalue⟩, ⟨axis, query, haxis, hquery, hbucket⟩,
    pivot, write, plan, outer, hpivot, hscript⟩

end Crosstab
