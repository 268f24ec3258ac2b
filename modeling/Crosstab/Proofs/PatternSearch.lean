import Mathlib.Data.List.Perm.Basic
import Crosstab.Proofs.DirectoryListing
import Crosstab.Proofs.Outcomes

/-!
# Searching one component further

The files of a directory are searched for with a pattern that has the path of the directory in front
of a star. So the path is read as a pattern too, and this file says what comes of that. A slash and
a star behind a pattern change nothing about its faults (`verdict_append_star`), and the longer
pattern finds what the star finds at each path that the shorter one spells out, up to their order
(`find_listing`). What a pattern spells out is what it finds (`spelled_eq_find`), except behind a
`**` at its end: it finds what is below a directory, but a star behind it looks into the directory
itself too.
-/

namespace Crosstab.Disk

/-! ## Components -/

theorem collapse_cons (component : Component) (components : List Component) :
    collapse (component :: components) =
      if component = .directories ∧ (collapse components).head? = some .directories then
        collapse components
      else component :: collapse components := by
  conv => lhs; rw [collapse.eq_def]
  dsimp only
  split
  · rename_i more hmore
    rw [hmore, List.head?_cons, if_pos ⟨rfl, rfl⟩]
  · rename_i hnot
    rw [if_neg]
    rintro ⟨hdirs, hhead⟩
    obtain ⟨more, hmore⟩ := List.head?_eq_some_iff.mp hhead
    exact hnot more hdirs hmore

theorem collapse_append_wild (components : List Component) (glyphs : List Glyph) :
    collapse (components ++ [.wild glyphs]) = collapse components ++ [.wild glyphs] := by
  induction components with
  | nil => rfl
  | cons component components ih =>
      have hhead : (collapse components ++ [Component.wild glyphs]).head? = some .directories ↔
          (collapse components).head? = some .directories := by
        cases collapse components <;> simp
      rw [List.cons_append, collapse_cons, ih, collapse_cons]
      simp only [hhead]
      split <;> rfl

theorem getLast?_collapse (components : List Component) :
    (collapse components).getLast? = components.getLast? := by
  induction components with
  | nil => rfl
  | cons component components ih =>
      rw [List.getLast?_cons, ← ih, collapse_cons]
      split
      · rename_i hdirs
        obtain ⟨more, hmore⟩ := List.head?_eq_some_iff.mp hdirs.2
        rw [hmore, List.getLast?_cons, Option.getD_some]
      · exact List.getLast?_cons

/-- No two `**` are left in a row. -/
theorem collapse_ne (components front : List Component) :
    collapse components ≠ front ++ [.directories, .directories] := by
  induction components generalizing front with
  | nil => exact fun h => List.append_ne_nil_of_right_ne_nil _ (List.cons_ne_nil _ _) h.symm
  | cons component components ih =>
      rw [collapse_cons]
      split
      · exact ih front
      · rename_i hapart
        intro heq
        cases front with
        | nil =>
            obtain ⟨hfirst, hrest⟩ := List.cons.inj heq
            exact hapart ⟨hfirst, by rw [hrest]; rfl⟩
        | cons first front => exact ih front (List.cons.inj heq).2

theorem collapse_map_name (names : List String) :
    collapse (names.map .name) = names.map .name := by
  induction names with
  | nil => rfl
  | cons name names ih =>
      rw [List.map_cons, collapse_cons, ih, if_neg]
      exact fun h => nomatch h.1

namespace Tree

variable {tree : Tree}

theorem descend_flatMap (visit : String → String → List String) (list : String → List String)
    (depth : Nat) (path : String) :
    (tree.descend visit depth path).flatMap list =
      tree.descend (fun child name => (visit child name).flatMap list) depth path := by
  induction depth generalizing path with
  | zero => rfl
  | succ depth ih =>
      rw [descend, descend, List.flatMap_assoc]
      refine congrArg (List.flatMap · _) (funext fun name => ?_)
      dsimp only
      rw [List.flatMap_append, ← ih]
      split <;> rfl

theorem getLast?_tail_ne {component last : Component} {rest : List Component}
    (h : (component :: rest).getLast? ≠ some last) : rest.getLast? ≠ some last := by
  intro hlast
  rw [List.getLast?_cons, hlast] at h
  exact h rfl

/-- What stands behind a pattern is searched for below each path that the pattern spells out. Behind
`**` this is not so: a pattern that ends in it does not spell out the directory it sets out from. -/
theorem search_append (tail : List Component) :
    ∀ {components : List Component}, components.getLast? ≠ some .directories → ∀ path : String,
      tree.search (components ++ tail) path =
        (tree.search components path).flatMap (tree.search tail)
  | [], _, path => (List.append_nil _).symm
  | .name text :: rest, h, path => by
      have ih := search_append tail (getLast?_tail_ne h)
      rw [List.cons_append, search, search, ih, apply_ite (List.flatMap _)]
      rfl
  | .wild gs :: rest, h, path => by
      have ih := search_append tail (getLast?_tail_ne h)
      rw [List.cons_append, search, search]
      split
      · rw [List.flatMap_append, List.flatMap_assoc, List.flatMap_assoc]
        simp only [← ih]
      · rfl
  | [.directories], h, _ => absurd rfl h
  | .directories :: next :: rest, h, path => by
      have ih := search_append tail (getLast?_tail_ne (getLast?_tail_ne h))
      rw [List.cons_append, List.cons_append, search, search, descend_flatMap]
      congr 1
      funext child name
      rw [ih]
      split <;> rfl

/-- A directory and those below it. `depth` bounds the descent. -/
def within (tree : Tree) : Nat → String → List String
  | 0, _ => []
  | depth + 1, path =>
    path :: (tree.namesAt path).flatMap fun name =>
      if tree.leadsToDirectory (join path name) then tree.within depth (join path name) else []

/-- A descent visits the names in a directory and in those below it. -/
theorem descend_perm (visit : String → String → List String) (depth : Nat) (path : String) :
    (tree.descend visit depth path).Perm ((tree.within depth path).flatMap fun base =>
      (tree.namesAt base).flatMap fun name => visit (join base name) name) := by
  induction depth generalizing path with
  | zero => exact List.Perm.refl _
  | succ depth ih =>
      rw [descend, within, List.flatMap_cons, List.flatMap_assoc]
      refine (List.flatMap_append_perm _ _ _).symm.trans
        (List.Perm.append_left _ (List.Perm.flatMap_left _ fun name _ => ?_))
      split
      · exact ih _
      · exact List.Perm.refl _

end Tree

/-! ## The check of a whole pattern -/

section
variable {tail : List Char} (htail : ']' ∉ tail)
include htail

/-- A class is not closed behind the text. -/
theorem classBody_append {cs : List Char} (hcs : cs ≠ []) :
    classBody (cs ++ tail) = (classBody cs).map fun r => (r.1, r.2 ++ tail) := by
  obtain ⟨first, rest, rfl⟩ := List.exists_cons_of_ne_nil hcs
  have hcontains : (rest ++ tail).contains ']' = rest.contains ']' := by simp [htail]
  rw [List.cons_append, classBody, classBody, hcontains]
  split
  · rename_i hmem
    obtain ⟨front, back, rfl, hfront⟩ := List.eq_append_cons_of_mem (List.contains_iff_mem.mp hmem)
    have hne : ∀ c ∈ front, (c != ']') = true := fun c hc =>
      bne_iff_ne.mpr fun heq => hfront (heq ▸ hc)
    simp [List.takeWhile_append_of_pos hne, List.dropWhile_append_of_pos hne]
  · rfl

end

theorem classBody_slash_star {ending : List Char} (hclass : ']' ∉ ending) :
    classBody ('/' :: '*' :: ending) = none := by
  simp [classBody, hclass]

theorem readClass_append_star {ending : List Char} (hclass : ']' ∉ ending) (cs : List Char) :
    readClass (cs ++ '/' :: '*' :: ending) =
      (readClass cs).map fun r => (r.1, r.2 ++ '/' :: '*' :: ending) := by
  have htail : ']' ∉ '/' :: '*' :: ending := by simp [hclass]
  have hbody (cs : List Char) : classBody (cs ++ '/' :: '*' :: ending) =
      (classBody cs).map fun r => (r.1, r.2 ++ '/' :: '*' :: ending) := by
    by_cases hcs : cs = []
    · rw [hcs, List.nil_append, classBody_slash_star hclass]
      rfl
    · exact classBody_append htail hcs
  have hread (negated : Bool) (cs : List Char) :
      (classBody (cs ++ '/' :: '*' :: ending)).map
          (fun r => (Glyph.oneOf negated (classRanges r.1), r.2)) =
        ((classBody cs).map fun r => (Glyph.oneOf negated (classRanges r.1), r.2)).map
          fun r => (r.1, r.2 ++ '/' :: '*' :: ending) := by
    rw [hbody, Option.map_map, Option.map_map]
    rfl
  match cs with
  | [] => exact hread false []
  | c :: cs =>
      by_cases hmark : c = '!'
      · subst hmark
        exact hread true cs
      · rw [readClass, readClass]
        · exact hread false (c :: cs)
        · simp_all
        · simp_all

/-- What a check of a pattern says. -/
def verdict (outcome : Outcome (List Glyph)) : Outcome Unit := outcome.map fun _ => ()

@[simp] theorem verdict_map (outcome : Outcome (List Glyph)) (f : List Glyph → List Glyph) :
    verdict (outcome.map f) = verdict outcome := by
  cases outcome <;> rfl

/-- A slash and a star behind a pattern change nothing about its faults. -/
theorem verdict_append_star {ending : List Char} (hplain : ∀ c ∈ ending, isPlainGlyph c = true)
    (hclass : ']' ∉ ending) (position : Nat) (before : Option Char) (cs : List Char) :
    verdict (glyphsFrom position before (cs ++ '/' :: '*' :: ending)) =
      verdict (glyphsFrom position before cs) := by
  have hstar (position : Nat) (before : Option Char) :
      verdict (glyphsFrom position before ('*' :: ending)) = .ok () := by
    rw [glyphsFrom_star hplain]
    rfl
  fun_induction glyphsFrom position before cs with
  | case1 position before =>
      rw [List.nil_append, glyphsFrom_plain rfl, verdict_map, hstar]
      rfl
  | case2 position before rest ih =>
      rw [List.cons_append, glyphsFrom, verdict_map, verdict_map, ih]
  | case3 position before rest =>
      rw [List.cons_append, List.cons_append, List.cons_append, glyphsFrom]
  | case4 position before rest hrest hbefore =>
      rcases rest with _ | ⟨c, rest⟩
      · simp_all [glyphsFrom]
      · by_cases hc : c = '/'
        · simp_all [glyphsFrom]
        · simp only [List.cons_append]
          rw [glyphsFrom, if_pos hbefore] <;> simp_all
  | case5 position before hbefore hrest =>
      simp only [List.cons_append, List.nil_append]
      rw [glyphsFrom, if_neg hbefore, verdict_map, hstar]
      rfl
  | case6 position before hbefore rest hrest ih =>
      simp only [List.cons_append]
      rw [glyphsFrom, if_neg hbefore, verdict_map, verdict_map, ih]
  | case7 position before rest hrest hbefore hempty hslash =>
      obtain ⟨c, rest, rfl⟩ := List.exists_cons_of_ne_nil hempty
      simp only [List.cons_append]
      rw [glyphsFrom, if_neg hbefore] <;> simp_all
  | case8 position before rest hstars hstar ih =>
      rw [List.cons_append, glyphsFrom, verdict_map, verdict_map, ih]
      all_goals
        cases rest <;> simp_all
  | case9 position before rest hnone =>
      rw [List.cons_append, glyphsFrom]
      split
      · rfl
      · rename_i hsome
        rw [readClass_append_star hclass, hnone] at hsome
        cases hsome
  | case10 position before rest glyph after hsome ih =>
      rw [List.cons_append, glyphsFrom]
      split
      · rename_i hnone
        rw [readClass_append_star hclass, hsome] at hnone
        cases hnone
      · rename_i glyph' after' hsome'
        rw [readClass_append_star hclass, hsome] at hsome'
        cases hsome'
        rw [verdict_map, verdict_map, ← ih]
        rw [List.length_append, List.length_append, Nat.add_sub_add_right]
  | case11 position before c rest hmark hstars hstars' hstar hclass ih =>
      rw [List.cons_append, glyphsFrom, verdict_map, verdict_map, ih]
      all_goals simp_all

/-! ## Finding what a longer pattern spells out -/

theorem map_eq_ok {α β : Type} {x : Outcome α} {f : α → β} {b : β} :
    x.map f = .ok b ↔ ∃ a, x = .ok a ∧ f a = b := by
  cases x <;> simp [Except.map]

/-- The component that a part of a pattern is read as. -/
def componentOf (part : List Char) : Outcome Component := (glyphs part).map Component.ofGlyphs

/-- The components of a pattern that was checked as a whole. -/
def componentsOf (pattern : String) : Outcome (List Component) := do
  verdict (glyphs pattern.toList)
  (partsOf pattern).mapM componentOf

theorem find_eq (tree : Tree) (pattern : String) :
    find tree pattern = (componentsOf pattern).map fun components =>
      tree.search (collapse components) (originOf pattern) := by
  unfold find componentsOf
  cases glyphs pattern.toList with
  | error failure => rfl
  | ok gs =>
      show ((partsOf pattern).mapM componentOf >>= fun components =>
        .ok (tree.search (collapse components) (originOf pattern))) = _
      cases (partsOf pattern).mapM componentOf <;> rfl

theorem ofGlyphs_directories {gs : List Glyph} (h : Component.ofGlyphs gs = .directories) :
    gs = [.anyDirectories] := by
  unfold Component.ofGlyphs at h
  split at h
  · cases h
  · split at h
    · assumption
    · cases h

theorem readClass_oneOf {cs rest : List Char} {glyph : Glyph}
    (h : readClass cs = some (glyph, rest)) : glyph ≠ .anyDirectories := by
  rintro rfl
  unfold readClass at h
  split at h
  all_goals
    obtain ⟨_, -, heq⟩ := Option.map_eq_some_iff.mp h
    cases heq

/-- The paths at which a pattern with a name behind it looks for the name: those that the pattern
spells out, and behind `**` the directory before it too. -/
def spelled (tree : Tree) (pattern : String) : Outcome (List String) :=
  (componentsOf pattern).map fun components =>
    if (collapse components).getLast? = some .directories then
      (tree.search (collapse components).dropLast (originOf pattern)).flatMap
        (tree.within (tree.entries.length + 1))
    else tree.search (collapse components) (originOf pattern)

namespace Tree

variable {tree : Tree}

theorem namesAt_eq_nil {path : String} (h : ¬ tree.leadsToDirectory path = true) :
    tree.namesAt path = [] := by
  unfold leadsToDirectory at h
  unfold namesAt
  split
  · rename_i place hresolve
    rw [hresolve] at h
    exact if_neg h
  · rfl

theorem flatMap_filter {α β : Type} (p : α → Bool) (f : α → List β) (as : List α) :
    (as.filter p).flatMap f = as.flatMap fun a => if p a then f a else [] := by
  induction as with
  | nil => rfl
  | cons a as ih =>
      rw [List.filter_cons, List.flatMap_cons, ← ih]
      split <;> rfl

theorem search_star_eq (ending : List Char) (base : String) :
    tree.search [.wild (.anyChars :: ending.map .char)] base =
      (tree.namesAt base).flatMap fun name =>
        if (Component.wild (.anyChars :: ending.map .char)).spells name then
          tree.search [] (join base name)
        else [] := by
  rw [search]
  split
  · have hdots : dotEntries base (.anyChars :: ending.map .char) = [] := if_neg (by simp)
    rw [hdots, List.flatMap_nil, List.nil_append, flatMap_filter]
    rfl
  · rename_i hdir
    rw [namesAt_eq_nil hdir]
    rfl

theorem search_listing (components : List Component) (ending : List Char) (origin : String) :
    (tree.search (collapse components ++ [.wild (.anyChars :: ending.map .char)]) origin).Perm
      ((if (collapse components).getLast? = some .directories then
          (tree.search (collapse components).dropLast origin).flatMap
            (tree.within (tree.entries.length + 1))
        else tree.search (collapse components) origin).flatMap
          (tree.search [.wild (.anyChars :: ending.map .char)])) := by
  split
  · rename_i hlast
    obtain ⟨front, hfront⟩ := List.getLast?_eq_some_iff.mp hlast
    have hbefore : front.getLast? ≠ some .directories := by
      intro hstars
      obtain ⟨more, rfl⟩ := List.getLast?_eq_some_iff.mp hstars
      exact collapse_ne components more (hfront.trans (List.append_assoc ..))
    rw [hfront, List.dropLast_concat, List.append_assoc, search_append _ hbefore,
      List.flatMap_assoc]
    refine List.Perm.flatMap_left _ fun base _ => ?_
    have hlist := tree.descend_perm (fun child name =>
      if (Component.wild (.anyChars :: ending.map .char)).spells name then tree.search [] child
      else []) (tree.entries.length + 1) base
    simp only [← search_star_eq] at hlist
    exact hlist
  · rename_i hlast
    rw [search_append _ hlast]

end Tree

/-- Only two stars are read as `**`. -/
theorem stars_of_componentOf {part : List Char} (hslash : '/' ∉ part)
    (h : componentOf part = .ok .directories) : part = ['*', '*'] := by
  obtain ⟨gs, hgs, hdirs⟩ := map_eq_ok.mp h
  obtain rfl := ofGlyphs_directories hdirs
  have hcons {outcome : Outcome (List Glyph)} {glyph : Glyph}
      (h : outcome.map (glyph :: ·) = .ok [.anyDirectories]) : glyph = .anyDirectories := by
    obtain ⟨_, -, heq⟩ := map_eq_ok.mp h
    exact (List.cons.inj heq).1
  revert hgs
  rw [glyphs]
  fun_cases glyphsFrom 0 none part with
  | case1 | case3 | case4 | case7 | case9 =>
      intro hgs
      cases hgs
  | case2 | case8 | case11 =>
      intro hgs
      cases hcons hgs
  | case5 =>
      intro
      rfl
  | case6 => exact absurd (by simp) hslash
  | case10 rest glyph after hsome =>
      intro hgs
      exact absurd (hcons hgs) (readClass_oneOf hsome)

theorem getLast?_components {pattern : String} {components : List Component}
    (h : componentsOf pattern = .ok components)
    (hlast : components.getLast? = some .directories) :
    (partsOf pattern).getLast? = some ['*', '*'] := by
  obtain ⟨-, hparts⟩ := check_eq_ok.mp h
  rcases List.eq_nil_or_concat (partsOf pattern) with hnil | ⟨front, part, hconcat⟩
  · rw [hnil] at hparts
    cases hparts
    cases hlast
  · have hslash : '/' ∉ part := by
      have hmem : part ∈ partsOf pattern := by simp [hconcat]
      exact fun h => (mem_of_mem_partsOf hmem h).2 rfl
    rw [List.concat_eq_append] at hconcat
    rw [hconcat, List.mapM_append, List.mapM_cons] at hparts
    obtain ⟨first, -, hparts⟩ := bind_eq_ok.mp hparts
    obtain ⟨last, hpart, hparts⟩ := bind_eq_ok.mp hparts
    obtain ⟨component, hcomponent, hpart⟩ := bind_eq_ok.mp hpart
    cases hpart
    cases hparts
    rw [List.reverse_nil, List.getLast?_concat] at hlast
    cases hlast
    rw [hconcat, List.getLast?_concat, stars_of_componentOf hslash hcomponent]

theorem spelled_eq_find (tree : Tree) {pattern : String}
    (h : (partsOf pattern).getLast? ≠ some ['*', '*']) :
    spelled tree pattern = find tree pattern := by
  rw [spelled, find_eq]
  cases hcomponents : componentsOf pattern with
  | error failure => rfl
  | ok components =>
      have hlast : (collapse components).getLast? ≠ some .directories := by
        rw [getLast?_collapse]
        exact fun hlast => h (getLast?_components hcomponents hlast)
      exact congrArg Except.ok (if_neg hlast)

section
variable {directory ending : String} (hne : directory ≠ "")
  (hplain : ∀ c ∈ ending.toList, isPlainGlyph c = true) (hslash : '/' ∉ ending.toList)
  (hclass : ']' ∉ ending.toList)
include hne hplain hslash hclass

/-- A star behind a path is one component more. -/
theorem componentsOf_star :
    originOf (directory ++ "/" ++ ("*" ++ ending)) = originOf directory ∧
      componentsOf (directory ++ "/" ++ ("*" ++ ending)) =
        (componentsOf directory).map (· ++ [.wild (.anyChars :: ending.toList.map .char)]) := by
  have hpattern : (directory ++ "/" ++ ("*" ++ ending)).toList =
      directory.toList ++ '/' :: '*' :: ending.toList := by
    simp
  obtain ⟨c, cs, hlist⟩ := List.exists_cons_of_ne_nil fun h => hne (String.toList_eq_nil_iff.mp h)
  have hhead : (directory.toList ++ '/' :: '*' :: ending.toList).head? =
      directory.toList.head? := by
    rw [hlist]
    rfl
  have hverdict : verdict (glyphs (directory.toList ++ '/' :: '*' :: ending.toList)) =
      verdict (glyphs directory.toList) :=
    verdict_append_star hplain hclass 0 none directory.toList
  have hlast : splitSlashes ('*' :: ending.toList) = ['*' :: ending.toList] := by
    refine splitSlashes_of_not_mem ?_
    rw [List.mem_cons, not_or]
    exact ⟨by decide, hslash⟩
  have hparts : partsOf (directory ++ "/" ++ ("*" ++ ending)) =
      partsOf directory ++ ['*' :: ending.toList] := by
    rw [partsOf, partsOf, hpattern, hhead, ← hlast, ← splitSlashes_append]
    split
    · rw [hlist]
      rfl
    · rfl
  have hstar : componentOf ('*' :: ending.toList) =
      .ok (.wild (.anyChars :: ending.toList.map .char)) := by
    rw [componentOf, glyphs, glyphsFrom_star hplain, ← ofGlyphs_star]
    rfl
  constructor
  · rw [originOf, hpattern, hhead, originOf]
  · rw [componentsOf, componentsOf, hpattern, hverdict, hparts, List.mapM_append, List.mapM_cons,
      hstar]
    cases verdict (glyphs directory.toList) with
    | error failure => rfl
    | ok checked => cases (partsOf directory).mapM componentOf <;> rfl

/-- A fault of the path is a fault of the pattern. -/
theorem find_fault {tree : Tree} {failure : Failure}
    (h : spelled tree directory = .error failure) :
    find tree (directory ++ "/" ++ ("*" ++ ending)) = .error failure := by
  rw [find_eq, (componentsOf_star hne hplain hslash hclass).2]
  rw [spelled] at h
  cases hcomponents : componentsOf directory with
  | error failure' =>
      rw [hcomponents] at h
      exact h
  | ok components =>
      rw [hcomponents] at h
      cases h

/-- The names with an ending are listed at every path that the path of the directory spells out. -/
theorem find_listing {tree : Tree} {bases : List String} (h : spelled tree directory = .ok bases) :
    ∃ paths, find tree (directory ++ "/" ++ ("*" ++ ending)) = .ok paths ∧
      paths.Perm
        (bases.flatMap (tree.search [.wild (.anyChars :: ending.toList.map .char)])) := by
  obtain ⟨components, hcomponents, rfl⟩ := map_eq_ok.mp h
  obtain ⟨horigin, hlonger⟩ := componentsOf_star hne hplain hslash hclass
  rw [find_eq, hlonger, horigin, hcomponents]
  refine ⟨_, rfl, ?_⟩
  dsimp only
  rw [collapse_append_wild]
  exact tree.search_listing components ending.toList (originOf directory)

end

namespace Tree

variable {tree : Tree}

theorem leadsToDirectory_iff {path : String} :
    tree.leadsToDirectory path = true ↔ ∃ place, tree.Leads path place := by
  constructor
  · intro h
    unfold leadsToDirectory at h
    split at h
    · exact ⟨_, leads_iff.mpr ⟨‹_›, h⟩⟩
    · cases h
  · rintro ⟨place, h⟩
    exact h.leadsToDirectory

theorem Leads.unique {path : String} {place other : Path} (h : tree.Leads path place)
    (hother : tree.Leads path other) : place = other :=
  Option.some.inj (h.2.1.symm.trans hother.2.1)

theorem mem_search_star {base path : String} {ending : List Char} :
    path ∈ tree.search [.wild (.anyChars :: ending.map .char)] base ↔
      ∃ place, tree.Leads base place ∧
        ∃ name ∈ tree.names place, ending <:+ name.toList ∧ path = join base name := by
  by_cases hbase : tree.leadsToDirectory base = true
  · obtain ⟨place, hplace⟩ := leadsToDirectory_iff.mp hbase
    rw [search_star hplace]
    constructor
    · intro hpath
      obtain ⟨name, hname, rfl⟩ := List.mem_map.mp hpath
      obtain ⟨hname, hending⟩ := List.mem_filter.mp hname
      exact ⟨place, hplace, name, hname, List.isSuffixOf_iff_suffix.mp hending, rfl⟩
    · rintro ⟨other, hother, name, hname, hending, rfl⟩
      obtain rfl := hplace.unique hother
      exact List.mem_map_of_mem
        (List.mem_filter.mpr ⟨hname, List.isSuffixOf_iff_suffix.mpr hending⟩)
  · rw [search, if_neg hbase]
    constructor
    · intro hpath
      cases hpath
    · rintro ⟨place, hplace, -⟩
      exact absurd hplace.leadsToDirectory hbase

end Tree

theorem mapM_componentOf_plain {parts : List (List Char)}
    (h : ∀ part ∈ parts, ∀ c ∈ part, isPlainGlyph c = true) :
    parts.mapM componentOf = .ok (parts.map fun part => .name (String.ofList part)) := by
  induction parts with
  | nil => rfl
  | cons part parts ih =>
      obtain ⟨hpart, hparts⟩ := List.forall_mem_cons.mp h
      have hname : componentOf part = .ok (.name (String.ofList part)) := by
        rw [componentOf, glyphs, glyphsFrom_text hpart, ← ofGlyphs_text]
        rfl
      rw [List.mapM_cons, hname, ih hparts]
      rfl

section
variable {tree : Tree} {directory : String} {place : Path}
  (hplain : ∀ c ∈ directory.toList, isPlainGlyph c = true) (htrack : losesTrack directory = false)
  (hplace : tree.Leads directory place)
include hplain htrack hplace

/-- A path without wildcards spells out the directory that it leads to. -/
theorem find_plain : ∃ base, tree.Leads base place ∧ find tree directory = .ok [base] := by
  obtain ⟨hne, hwalk, hdir⟩ := hplace
  rw [components_partsOf] at hwalk
  have hdot (horigin : originOf directory = ".") : stumbles (partsOf directory) = false := by
    simpa [losesTrack, horigin] using htrack
  have hcomponents : componentsOf directory =
      .ok ((partsOf directory).map fun part => .name (String.ofList part)) := by
    rw [componentsOf, glyphs, glyphsFrom_text hplain, mapM_componentOf_plain fun part hpart d hd =>
      hplain d (mem_of_mem_partsOf hpart hd).1]
    rfl
  have hcollapse := collapse_map_name ((partsOf directory).map String.ofList)
  rw [List.map_map] at hcollapse
  obtain ⟨base, hbase, hsearch⟩ := Tree.search_names (leads_originOf tree directory)
    (fun part hpart hmem => (mem_of_mem_partsOf hpart hmem).2 rfl) hdot hwalk hdir []
  refine ⟨base, hbase, ?_⟩
  rw [List.append_nil] at hsearch
  rw [find_eq, hcomponents]
  show Except.ok (tree.search (collapse ((partsOf directory).map (.name ∘ String.ofList)))
    (originOf directory)) = _
  rw [hcollapse]
  exact congrArg Except.ok hsearch

theorem spelled_plain : ∃ base, tree.Leads base place ∧ spelled tree directory = .ok [base] := by
  obtain ⟨base, hbase, hfind⟩ := find_plain hplain htrack hplace
  refine ⟨base, hbase, (spelled_eq_find tree fun hlast => ?_).trans hfind⟩
  have hstar := (mem_of_mem_partsOf (List.mem_of_getLast? hlast) (List.mem_cons_self ..)).1
  cases hplain '*' hstar

end

end Crosstab.Disk
