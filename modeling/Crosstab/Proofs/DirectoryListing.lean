import Crosstab.Disk.Search

/-!
# The files of a directory

A directory is listed by a search for `directory/*.extension`. The search never resolves the path of
the directory as such: it takes the path one part at a time, and a part may be empty where there are
slashes in a row. This file follows it along a path without wildcards.

`Leads tree text place` says that a path text leads to a directory at `place`. Each part that the
search takes keeps such a lead (`Leads.join`), with one exception. The working directory is not
written out, so past a leading `.` an empty part leaves nothing at all: on such paths the search
loses track (`losesTrack`). On all others it arrives, and finds the names that end in the extension
(`find_files`).
-/

namespace Crosstab.Disk

/-! ## Path texts -/

theorem splitSlashes_ne_nil (cs : List Char) : splitSlashes cs ≠ [] := by
  cases cs with
  | nil => exact List.cons_ne_nil _ _
  | cons c cs =>
      rw [splitSlashes]
      split
      · exact List.cons_ne_nil _ _
      · split <;> exact List.cons_ne_nil _ _

theorem splitSlashes_append (as bs : List Char) :
    splitSlashes (as ++ '/' :: bs) = splitSlashes as ++ splitSlashes bs := by
  induction as with
  | nil => rfl
  | cons a as ih =>
      rw [List.cons_append, splitSlashes, ih, splitSlashes]
      split
      · rfl
      · cases h : splitSlashes as with
        | nil => exact absurd h (splitSlashes_ne_nil as)
        | cons part parts => rfl

theorem splitSlashes_of_not_mem {cs : List Char} (h : '/' ∉ cs) : splitSlashes cs = [cs] := by
  induction cs with
  | nil => rfl
  | cons c cs ih =>
      rw [List.mem_cons, not_or] at h
      rw [splitSlashes, if_neg (Ne.symm h.1), ih h.2]

theorem mem_of_mem_splitSlashes {cs part : List Char} (h : part ∈ splitSlashes cs) {d : Char}
    (hd : d ∈ part) : d ∈ cs ∧ d ≠ '/' := by
  induction cs generalizing part with
  | nil =>
      rw [List.mem_singleton.mp h] at hd
      cases hd
  | cons c cs ih =>
      have hlater {part : List Char} (h : part ∈ splitSlashes cs) (hd : d ∈ part) :
          d ∈ c :: cs ∧ d ≠ '/' :=
        (ih h hd).imp_left (List.mem_cons_of_mem c)
      rw [splitSlashes] at h
      split at h
      · rcases List.mem_cons.mp h with rfl | h
        · cases hd
        · exact hlater h hd
      · rename_i hc
        cases hparts : splitSlashes cs with
        | nil => exact absurd hparts (splitSlashes_ne_nil cs)
        | cons first parts =>
            simp only [hparts] at h hlater
            rcases List.mem_cons.mp h with rfl | h
            · rcases List.mem_cons.mp hd with rfl | hd
              · exact ⟨List.mem_cons_self, hc⟩
              · exact hlater List.mem_cons_self hd
            · exact hlater (List.mem_cons_of_mem _ h) hd

/-- The names among the parts of a path. -/
def namesOf (parts : List (List Char)) : List String :=
  (parts.filter (!·.isEmpty)).map String.ofList

theorem namesOf_append (as bs : List (List Char)) :
    namesOf (as ++ bs) = namesOf as ++ namesOf bs := by
  simp [namesOf]

theorem components_eq (text : String) : components text = namesOf (splitSlashes text.toList) := rfl

theorem components_append (a b : String) :
    components (a ++ "/" ++ b) = components a ++ components b := by
  have hlist : (a ++ "/" ++ b).toList = a.toList ++ '/' :: b.toList := by simp
  rw [components_eq, hlist, splitSlashes_append, namesOf_append]
  rfl

theorem components_part {part : String} (h : '/' ∉ part.toList) :
    components part = namesOf [part.toList] := by
  rw [components_eq, splitSlashes_of_not_mem h]

/-- A name that a directory can hold. -/
structure IsName (name : String) : Prop where
  unslashed : '/' ∉ name.toList
  ne_empty : name ≠ ""
  ne_dot : name ≠ "."
  ne_dots : name ≠ ".."

theorem IsName.components {name : String} (h : IsName name) : components name = [name] := by
  have hne : name.toList.isEmpty = false := by
    simpa [List.isEmpty_eq_false_iff] using h.ne_empty
  simp [components_part h.unslashed, namesOf, hne]

theorem components_join {path : String} (hpath : path ≠ ".") (part : String) :
    components (join path part) = components path ++ components part := by
  rw [join, if_neg hpath]
  split
  · rename_i hlast
    obtain ⟨front, hfront⟩ := List.getLast?_eq_some_iff.mp hlast
    have hslash : path = String.ofList front ++ "/" ++ "" := by
      simp [← String.toList_inj, hfront]
    have hcomponents : components path = components (String.ofList front) := by
      rw [hslash, components_append]
      exact List.append_nil _
    have hjoined : path ++ part = String.ofList front ++ "/" ++ part := by
      simp [← String.toList_inj, hfront]
    rw [hjoined, components_append, hcomponents]
  · exact components_append path part

theorem getLast?_join (path : String) {part : String} (hne : part ≠ "") :
    (join path part).toList.getLast? = part.toList.getLast? := by
  have hlast := List.getLast?_eq_some_getLast fun h => hne (String.toList_eq_nil_iff.mp h)
  rw [join]
  split
  · rfl
  split <;> simp [List.getLast?_append, List.getLast?_cons, hlast]

theorem join_eq_append {path : String} (hpath : path ≠ ".") (part : String) :
    ∃ more, join path part = path ++ more := by
  rw [join, if_neg hpath]
  split
  · exact ⟨part, rfl⟩
  · exact ⟨"/" ++ part, String.append_assoc ..⟩

theorem head?_join {path : String} (hpath : path ≠ ".") (hne : path ≠ "") (part : String) :
    (join path part).toList.head? = path.toList.head? := by
  obtain ⟨more, hmore⟩ := join_eq_append hpath part
  obtain ⟨c, cs, hlist⟩ := List.exists_cons_of_ne_nil fun h => hne (String.toList_eq_nil_iff.mp h)
  rw [hmore, String.toList_append, hlist]
  rfl

theorem join_ne_empty {path part : String} (hne : path ≠ "") (hdot : path = "." → part ≠ "") :
    join path part ≠ "" := by
  by_cases hpath : path = "."
  · rw [join, if_pos hpath]
    exact hdot hpath
  · intro hempty
    have hhead := head?_join hpath hne part
    rw [hempty] at hhead
    exact hne (String.toList_eq_nil_iff.mp (List.head?_eq_none_iff.mp hhead.symm))

theorem join_ne_dot {path : String} (hpath : path ≠ ".") (hne : path ≠ "") (part : String) :
    join path part ≠ "." := by
  intro hdot
  obtain ⟨more, hmore⟩ := join_eq_append hpath part
  have hlist : path.toList ++ more.toList = ['.'] := by
    rw [← String.toList_append, ← hmore, hdot]
    rfl
  rcases List.append_eq_singleton_iff.mp hlist with ⟨hnil, -⟩ | ⟨hsame, -⟩
  · exact hne (String.toList_eq_nil_iff.mp hnil)
  · exact hpath (String.toList_inj.mp hsame)

/-! ## Walking -/

namespace Tree

variable {tree : Tree}

theorem walk_append (place : Path) (as bs : List String) :
    tree.walk place (as ++ bs) = (tree.walk place as).bind (tree.walk · bs) := by
  induction as generalizing place with
  | nil => rfl
  | cons part as ih =>
      rw [List.cons_append, walk, walk]
      split
      · rfl
      split
      · exact ih _
      split
      · exact ih _
      split
      · exact ih _
      · rfl

theorem isDirectory_of_walk {place target : Path} {part : String} {parts : List String}
    (h : tree.walk place (part :: parts) = some target) : tree.isDirectory place = true := by
  rw [walk] at h
  cases hdir : tree.isDirectory place with
  | true => rfl
  | false =>
      rw [hdir] at h
      cases h

/-- On the way to a directory there are only directories. -/
theorem walk_prefix {place target : Path} {as bs : List String}
    (h : tree.walk place (as ++ bs) = some target) (htarget : tree.isDirectory target = true) :
    ∃ mid, tree.walk place as = some mid ∧ tree.isDirectory mid = true ∧
      tree.walk mid bs = some target := by
  rw [walk_append] at h
  obtain ⟨mid, hmid, hrest⟩ := Option.bind_eq_some_iff.mp h
  refine ⟨mid, hmid, ?_, hrest⟩
  cases bs with
  | nil =>
      cases hrest
      exact htarget
  | cons part bs => exact isDirectory_of_walk hrest

/-- Where a path text starts. -/
def startOf (text : String) : Path := if text.toList.head? = some '/' then root else []

/-- The path text leads to a directory at this place. -/
def Leads (tree : Tree) (text : String) (place : Path) : Prop :=
  text ≠ "" ∧ tree.walk (startOf text) (components text) = some place ∧
    tree.isDirectory place = true

theorem leads_iff {text : String} {place : Path} :
    tree.Leads text place ↔ tree.resolve? text = some place ∧ tree.isDirectory place = true := by
  have hempty : text.isEmpty = true ↔ text = "" := String.isEmpty_iff
  constructor
  · rintro ⟨hne, hwalk, hdir⟩
    refine ⟨?_, hdir⟩
    rw [startOf] at hwalk
    simp [resolve?, hempty, hne, hwalk, hdir]
  · rintro ⟨hresolve, hdir⟩
    rw [resolve?] at hresolve
    split at hresolve
    · cases hresolve
    · rename_i hne
      dsimp only at hresolve
      split at hresolve
      · rename_i found hwalk
        split at hresolve
        · cases hresolve
        · cases hresolve
          exact ⟨fun h => hne (hempty.mpr h), hwalk, hdir⟩
      · cases hresolve

theorem Leads.leadsToDirectory {text : String} {place : Path} (h : tree.Leads text place) :
    tree.leadsToDirectory text = true := by
  obtain ⟨hresolve, hdir⟩ := leads_iff.mp h
  rw [Tree.leadsToDirectory, hresolve]
  exact hdir

theorem Leads.exists? {text : String} {place : Path} (h : tree.Leads text place) :
    tree.exists? text = true := by
  rw [Tree.exists?, (leads_iff.mp h).1]
  rfl

theorem leads_dot : tree.Leads "." [] := by
  refine ⟨by decide, ?_, rfl⟩
  rfl

/-- From a directory a part leads on, except for an empty part from the working directory. -/
theorem Leads.walk_join {path part : String} {place target : Path} (h : tree.Leads path place)
    (hslash : '/' ∉ part.toList) (hdot : path = "." → part ≠ "")
    (hwalk : tree.walk place (components part) = some target) :
    Disk.join path part ≠ "" ∧
      tree.walk (startOf (Disk.join path part)) (components (Disk.join path part)) =
        some target := by
  obtain ⟨hne, hplace, -⟩ := h
  by_cases hpath : path = "."
  · subst hpath
    have hstart : place = [] := by
      have hsame : tree.Leads "." [] := leads_dot
      exact Option.some.inj (hplace.symm.trans hsame.2.1)
    have hrelative : startOf part = [] := by
      refine if_neg fun hhead => hslash ?_
      exact List.mem_of_head? hhead
    rw [Disk.join, if_pos rfl]
    rw [hstart] at hwalk
    exact ⟨hdot rfl, hrelative ▸ hwalk⟩
  · have hstart : startOf (Disk.join path part) = startOf path := by
      rw [startOf, head?_join hpath hne, startOf]
    refine ⟨join_ne_empty hne hdot, ?_⟩
    rw [hstart, components_join hpath, walk_append, hplace]
    exact hwalk

theorem Leads.join {path part : String} {place target : Path} (h : tree.Leads path place)
    (hslash : '/' ∉ part.toList) (hdot : path = "." → part ≠ "")
    (hwalk : tree.walk place (components part) = some target)
    (htarget : tree.isDirectory target = true) : tree.Leads (Disk.join path part) target := by
  obtain ⟨hne, hjoined⟩ := h.walk_join hslash hdot hwalk
  exact ⟨hne, hjoined, htarget⟩

theorem Leads.resolve?_join {path name : String} {place : Path} (h : tree.Leads path place)
    (hname : IsName name) (hnode : (tree.node? (place ++ [name])).isSome = true) :
    tree.resolve? (Disk.join path name) = some (place ++ [name]) := by
  have hstep : tree.walk place (components name) = some (place ++ [name]) := by
    rw [hname.components, walk]
    simp [h.2.2, hname.ne_dot, hname.ne_dots, hnode, walk]
  obtain ⟨hne, hwalk⟩ := h.walk_join hname.unslashed (fun _ => hname.ne_empty) hstep
  have hlast : (Disk.join path name).toList.getLast? ≠ some '/' := by
    rw [getLast?_join path hname.ne_empty]
    exact fun hslash => hname.unslashed (List.mem_of_getLast? hslash)
  rw [startOf] at hwalk
  simp [resolve?, hne, hwalk, hlast]

end Tree

/-! ## Searching along a path -/

/-- An empty part behind nothing but dots. -/
def stumbles : List (List Char) → Bool
  | [] => false
  | part :: parts => part.isEmpty || part == ['.'] && stumbles parts

namespace Tree

variable {tree : Tree}

theorem search_names {parts : List (List Char)} {path : String} {place target : Path}
    (h : tree.Leads path place) (hslash : ∀ part ∈ parts, '/' ∉ part)
    (hdot : path = "." → stumbles parts = false)
    (hwalk : tree.walk place (namesOf parts) = some target)
    (htarget : tree.isDirectory target = true) (rest : List Component) :
    ∃ base, tree.Leads base target ∧
      tree.search (parts.map (fun part => .name (String.ofList part)) ++ rest) path =
        tree.search rest base := by
  -- Each part keeps the lead. Only dots keep the search at the working directory, so `hdot` does
  -- not have to say anything about the parts behind the first name.
  induction parts generalizing path place with
  | nil =>
      cases hwalk
      exact ⟨path, h, rfl⟩
  | cons part parts ih =>
      obtain ⟨hpart, hparts⟩ := List.forall_mem_cons.mp hslash
      rw [← List.singleton_append, namesOf_append] at hwalk
      obtain ⟨mid, hmid, hdir, hrest⟩ := walk_prefix hwalk htarget
      have hnames : components (String.ofList part) = namesOf [part] := by
        rw [components_part (by simpa using hpart), String.toList_ofList]
      have hstep : tree.Leads (join path (String.ofList part)) mid := by
        refine h.join (by simpa using hpart) (fun hpath hempty => ?_) (hnames ▸ hmid) hdir
        have hstumble := hdot hpath
        rw [String.ofList_eq_empty_iff.mp hempty] at hstumble
        cases hstumble
      have hdot' : join path (String.ofList part) = "." → stumbles parts = false := by
        intro hjoin
        by_cases hpath : path = "."
        · rw [join, if_pos hpath] at hjoin
          have hpartDot : part = ['.'] := by
            rw [← String.toList_ofList (l := part), hjoin]
            rfl
          have hstumble := hdot hpath
          rwa [hpartDot] at hstumble
        · exact absurd hjoin (join_ne_dot hpath h.1 _)
      obtain ⟨base, hbase, hsearch⟩ := ih hstep hparts hdot' hrest
      refine ⟨base, hbase, ?_⟩
      rw [List.map_cons, List.cons_append, search]
      have hfound : (if String.ofList part = "." || String.ofList part = ".." then
          tree.leadsToDirectory path
          else tree.exists? (join path (String.ofList part))) = true := by
        split
        · exact h.leadsToDirectory
        · exact hstep.exists?
      simp only [hfound, if_true]
      exact hsearch

/-- Past the working directory an empty part is a path to nothing. -/
theorem search_stumbles {parts : List (List Char)} (h : stumbles parts = true)
    (rest : List Component) :
    tree.search (parts.map (fun part => .name (String.ofList part)) ++ rest) "." = [] := by
  induction parts with
  | nil => cases h
  | cons part parts ih =>
      rw [stumbles, Bool.or_eq_true, Bool.and_eq_true, beq_iff_eq, List.isEmpty_iff] at h
      rw [List.map_cons, List.cons_append, search]
      rcases h with rfl | ⟨rfl, h⟩
      · rfl
      · rw [← ih h]
        rfl

end Tree

/-! ## Patterns of one star -/

/-- A character that stands for itself in a pattern. -/
def isPlainGlyph (c : Char) : Bool := c != '?' && c != '*' && c != '['

theorem glyphsFrom_plain {c : Char} (h : isPlainGlyph c = true) (position : Nat)
    (before : Option Char) (cs : List Char) :
    glyphsFrom position before (c :: cs) =
      (glyphsFrom (position + 1) (some c) cs).map (.char c :: ·) := by
  simp only [isPlainGlyph, Bool.and_eq_true, bne_iff_ne] at h
  obtain ⟨⟨hmark, hstar⟩, hclass⟩ := h
  rw [glyphsFrom] <;> simp_all

theorem glyphsFrom_text {cs : List Char} (h : ∀ c ∈ cs, isPlainGlyph c = true) (position : Nat)
    (before : Option Char) : glyphsFrom position before cs = .ok (cs.map .char) := by
  induction cs generalizing position before with
  | nil => rw [glyphsFrom, List.map_nil]
  | cons c cs ih =>
      rw [List.forall_mem_cons] at h
      rw [glyphsFrom_plain h.1, ih h.2]
      rfl

theorem glyphsFrom_star {cs : List Char} (h : ∀ c ∈ cs, isPlainGlyph c = true) (position : Nat)
    (before : Option Char) :
    glyphsFrom position before ('*' :: cs) = .ok (.anyChars :: cs.map .char) := by
  have hrest := glyphsFrom_text h (position + 1) (some '*')
  rw [glyphsFrom, hrest]
  · rfl
  · rintro more rfl
    exact absurd (h '*' List.mem_cons_self) (by decide)
  · rintro more rfl
    exact absurd (h '*' List.mem_cons_self) (by decide)

theorem glyphsFrom_append {as cs : List Char} {glyphs : List Glyph}
    (h : ∀ c ∈ as, isPlainGlyph c = true)
    (hcs : ∀ position before, glyphsFrom position before cs = .ok glyphs) (position : Nat)
    (before : Option Char) :
    glyphsFrom position before (as ++ cs) = .ok (as.map .char ++ glyphs) := by
  induction as generalizing position before with
  | nil => exact hcs position before
  | cons c as ih =>
      rw [List.forall_mem_cons] at h
      rw [List.cons_append, glyphsFrom_plain h.1, ih h.2]
      rfl

theorem literal?_map (cs : List Char) : literal? (cs.map .char) = some cs := by
  induction cs with
  | nil => rfl
  | cons c cs ih => rw [List.map_cons, literal?, ih, Option.map_some]

theorem someTail_iff {p : List Char → Bool} {cs : List Char} :
    someTail p cs = true ↔ ∃ tail, tail <:+ cs ∧ p tail = true := by
  induction cs with
  | nil => simp [someTail]
  | cons c cs ih =>
      rw [someTail, Bool.or_eq_true, ih]
      simp only [List.suffix_cons_iff]
      constructor
      · rintro (h | ⟨tail, htail, h⟩)
        · exact ⟨_, Or.inl rfl, h⟩
        · exact ⟨tail, Or.inr htail, h⟩
      · rintro ⟨tail, rfl | htail, h⟩
        · exact Or.inl h
        · exact Or.inr ⟨tail, htail, h⟩

theorem spells_text {cs name : List Char} : spells (cs.map .char) name = true ↔ name = cs := by
  induction cs generalizing name with
  | nil => cases name <;> simp [spells]
  | cons c cs ih =>
      cases name with
      | nil => simp [spells]
      | cons d name =>
          rw [List.map_cons, spells, Bool.and_eq_true, beq_iff_eq, ih, List.cons.injEq]
          exact and_congr_left' eq_comm

theorem spells_star {ending name : List Char} :
    spells (.anyChars :: ending.map .char) name = true ↔ ending <:+ name := by
  rw [spells, someTail_iff]
  simp only [spells_text]
  constructor
  · rintro ⟨tail, htail, rfl⟩
    exact htail
  · exact fun h => ⟨ending, h, rfl⟩

/-! ## Listing a directory -/

theorem ofGlyphs_text (cs : List Char) :
    Component.ofGlyphs (cs.map .char) = .name (String.ofList cs) := by
  rw [Component.ofGlyphs, literal?_map]

theorem ofGlyphs_star (ending : List Char) :
    Component.ofGlyphs (.anyChars :: ending.map .char) =
      .wild (.anyChars :: ending.map .char) := by
  rw [Component.ofGlyphs, literal?]
  · exact if_neg fun h => nomatch h
  · exact fun _ h => nomatch h

theorem mapM_components {parts : List (List Char)} {ending : List Char}
    (hparts : ∀ part ∈ parts, ∀ c ∈ part, isPlainGlyph c = true)
    (hending : ∀ c ∈ ending, isPlainGlyph c = true) :
    (parts ++ ['*' :: ending]).mapM (fun part => (glyphs part).map Component.ofGlyphs) =
      .ok (parts.map (fun part => .name (String.ofList part)) ++
        [.wild (.anyChars :: ending.map .char)]) := by
  induction parts with
  | nil =>
      have hstar : glyphs ('*' :: ending) = .ok (.anyChars :: ending.map .char) :=
        glyphsFrom_star hending 0 none
      rw [List.nil_append, List.mapM_cons, hstar, List.mapM_nil]
      show Except.ok [Component.ofGlyphs (.anyChars :: ending.map .char)] = _
      rw [ofGlyphs_star]
      rfl
  | cons part parts ih =>
      obtain ⟨hpart, hmore⟩ := List.forall_mem_cons.mp hparts
      have htext : glyphs part = .ok (part.map .char) := glyphsFrom_text hpart 0 none
      rw [List.cons_append, List.mapM_cons, htext, ih hmore]
      show Except.ok (Component.ofGlyphs (part.map .char) :: _) = _
      rw [ofGlyphs_text]
      rfl

theorem collapse_names (names : List String) (glyphs : List Glyph) :
    collapse (names.map .name ++ [.wild glyphs]) = names.map .name ++ [.wild glyphs] := by
  induction names with
  | nil => rfl
  | cons name names ih =>
      rw [List.map_cons, List.cons_append, collapse, ih]
      exact fun _ h => nomatch h

namespace Tree

variable {tree : Tree}

theorem search_star {base : String} {place : Path} (h : tree.Leads base place)
    (ending : List Char) :
    tree.search [.wild (.anyChars :: ending.map .char)] base =
      ((tree.names place).filter (ending.isSuffixOf ·.toList)).map (join base) := by
  obtain ⟨hresolve, hdir⟩ := leads_iff.mp h
  have hnames : tree.namesAt base = tree.names place := by
    rw [namesAt, hresolve]
    exact if_pos hdir
  have hdots : dotEntries base (.anyChars :: ending.map .char) = [] :=
    if_neg fun hhead => nomatch hhead
  have hfilter : (fun name : String => spells (.anyChars :: ending.map .char) name.toList) =
      (ending.isSuffixOf ·.toList) := by
    funext name
    rw [Bool.eq_iff_iff, spells_star, List.isSuffixOf_iff_suffix]
  rw [search, if_pos h.leadsToDirectory, hdots, hnames, hfilter]
  simp [search, List.map_eq_flatMap]

end Tree

/-- The parts of a path behind its start. -/
def partsOf (directory : String) : List (List Char) :=
  splitSlashes <|
    if directory.toList.head? = some '/' then directory.toList.drop 1 else directory.toList

/-- Where a search along a path sets out. -/
def originOf (directory : String) : String :=
  if directory.toList.head? = some '/' then "/" else "."

/-- A search along this path comes to nothing. -/
def losesTrack (directory : String) : Bool :=
  originOf directory == "." && stumbles (partsOf directory)

theorem leads_originOf (tree : Tree) (directory : String) :
    tree.Leads (originOf directory) (Tree.startOf directory) := by
  rw [originOf, Tree.startOf]
  split
  · exact ⟨by decide, rfl, rfl⟩
  · exact Tree.leads_dot

theorem components_partsOf (directory : String) :
    components directory = namesOf (partsOf directory) := by
  rw [components_eq, partsOf]
  split
  · rename_i hhead
    obtain ⟨cs, hlist⟩ := List.head?_eq_some_iff.mp hhead
    rw [hlist]
    rfl
  · rfl

theorem mem_of_mem_partsOf {directory : String} {part : List Char}
    (h : part ∈ partsOf directory) {d : Char} (hd : d ∈ part) : d ∈ directory.toList ∧ d ≠ '/' := by
  obtain ⟨hmem, hslash⟩ := mem_of_mem_splitSlashes h hd
  refine ⟨?_, hslash⟩
  split at hmem
  · exact List.mem_of_mem_drop hmem
  · exact hmem

section
variable {tree : Tree} {directory ending : String}
  (hplain : ∀ c ∈ directory.toList, isPlainGlyph c = true)
  (hending : ∀ c ∈ ending.toList, isPlainGlyph c = true) (hslash : '/' ∉ ending.toList)
include hplain hending hslash

theorem find_eq_search (hne : directory ≠ "") :
    find tree (directory ++ "/" ++ ("*" ++ ending)) =
      .ok (tree.search ((partsOf directory).map (fun part => .name (String.ofList part)) ++
        [.wild (.anyChars :: ending.toList.map .char)]) (originOf directory)) := by
  have hpattern : (directory ++ "/" ++ ("*" ++ ending)).toList =
      directory.toList ++ '/' :: '*' :: ending.toList := by
    simp
  have hstar (position : Nat) (before : Option Char) :
      glyphsFrom position before ('/' :: '*' :: ending.toList) =
        .ok (.char '/' :: .anyChars :: ending.toList.map .char) := by
    rw [glyphsFrom_plain rfl, glyphsFrom_star hending]
    rfl
  have hglyphs := glyphsFrom_append hplain hstar 0 none
  have hlast : splitSlashes ('*' :: ending.toList) = ['*' :: ending.toList] := by
    refine splitSlashes_of_not_mem ?_
    rw [List.mem_cons, not_or]
    exact ⟨by decide, hslash⟩
  obtain ⟨c, cs, hlist⟩ := List.exists_cons_of_ne_nil fun h => hne (String.toList_eq_nil_iff.mp h)
  have hhead : (directory.toList ++ '/' :: '*' :: ending.toList).head? =
      directory.toList.head? := by
    rw [hlist]
    rfl
  have hparts : splitSlashes
      (if directory.toList.head? = some '/' then
        (directory.toList ++ '/' :: '*' :: ending.toList).drop 1
      else directory.toList ++ '/' :: '*' :: ending.toList) =
      partsOf directory ++ ['*' :: ending.toList] := by
    rw [partsOf, ← hlast, ← splitSlashes_append]
    split
    · rw [hlist]
      rfl
    · rfl
  have hcomponents := mapM_components
    (fun part hpart d hd => hplain d (mem_of_mem_partsOf hpart hd).1) hending
  -- Without a `**` there is nothing to collapse.
  have hcollapse := collapse_names ((partsOf directory).map String.ofList)
    (.anyChars :: ending.toList.map .char)
  rw [List.map_map] at hcollapse
  unfold find
  rw [hpattern, glyphs, hglyphs]
  simp only [hhead, hparts, hcomponents]
  show Except.ok (tree.search (collapse _) (originOf directory)) = _
  exact congrArg (fun found => Except.ok (tree.search found (originOf directory))) hcollapse

/-- **A directory lists the names with an ending**, if the search gets there. -/
theorem find_files {place : Path} (h : tree.Leads directory place) :
    ∃ base, tree.Leads base place ∧
      find tree (directory ++ "/" ++ ("*" ++ ending)) =
        .ok (if losesTrack directory then [] else
          ((tree.names place).filter (ending.toList.isSuffixOf ·.toList)).map (join base)) := by
  obtain ⟨hne, hwalk, hplace⟩ := h
  rw [components_partsOf] at hwalk
  rw [find_eq_search hplain hending hslash hne]
  cases htrack : losesTrack directory with
  | true =>
      rw [losesTrack, Bool.and_eq_true, beq_iff_eq] at htrack
      refine ⟨directory, ⟨hne, components_partsOf directory ▸ hwalk, hplace⟩, ?_⟩
      rw [htrack.1, Tree.search_stumbles htrack.2]
      rfl
  | false =>
      have hdot (horigin : originOf directory = ".") : stumbles (partsOf directory) = false := by
        simpa [losesTrack, horigin] using htrack
      obtain ⟨base, hbase, hsearch⟩ := Tree.search_names (leads_originOf tree directory)
        (fun part hpart hmem => (mem_of_mem_partsOf hpart hmem).2 rfl) hdot hwalk hplace
        [.wild (.anyChars :: ending.toList.map .char)]
      refine ⟨base, hbase, ?_⟩
      rw [hsearch, Tree.search_star hbase]
      rfl

end

end Crosstab.Disk
