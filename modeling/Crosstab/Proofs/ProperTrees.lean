import Mathlib.Data.List.Nodup
import Crosstab.Proofs.DirectoryListing

/-!
# Trees as they are on a disk

The entries of a tree are a list, and not every list is a disk: on one, no path has two entries, and
what a path ends in is a name (`Proper`). Writing keeps this (`Proper.write`), so the trees that a
run can see are proper. In a proper tree a directory lists each of its names once.
-/

namespace Crosstab.Disk

theorem isName_of_mem_components {text part : String} (h : part ∈ components text)
    (hdot : part ≠ ".") (hdots : part ≠ "..") : IsName part := by
  obtain ⟨cs, hcs, rfl⟩ := List.mem_map.mp h
  obtain ⟨hmem, hempty⟩ := List.mem_filter.mp hcs
  refine ⟨fun hslash => ?_, fun hnil => ?_, hdot, hdots⟩
  · rw [String.toList_ofList] at hslash
    exact (mem_of_mem_splitSlashes hmem hslash).2 rfl
  · rw [String.ofList_eq_empty_iff] at hnil
    rw [hnil] at hempty
    cases hempty

namespace Tree

variable {tree : Tree} {path place : Path} {node : Node} {name : String}

/-- Every entry has a path of its own, and what the path ends in is a name. -/
structure Proper (tree : Tree) : Prop where
  nodup : (tree.entries.map Prod.fst).Nodup
  isName : ∀ entry ∈ tree.entries, ∀ name, entry.1.getLast? = some name → IsName name

/-! ## Writing -/

theorem proper_empty : empty.Proper := ⟨List.nodup_nil, fun _ h => nomatch h⟩

theorem Proper.put (h : tree.Proper) (hpath : ∀ name, path.getLast? = some name → IsName name) :
    (tree.put path node).Proper := by
  constructor
  · have hkept : ((tree.entries.filter (·.1 != path)).map Prod.fst).Nodup :=
      h.nodup.sublist (List.filter_sublist.map _)
    rw [Tree.put, List.map_append, List.map_singleton, ← List.concat_eq_append, List.nodup_concat]
    refine ⟨fun hmem => ?_, hkept⟩
    obtain ⟨entry, hentry, heq⟩ := List.mem_map.mp hmem
    exact bne_iff_ne.mp (List.mem_filter.mp hentry).2 heq
  · intro entry hentry
    rcases List.mem_append.mp hentry with hentry | hentry
    · exact h.isName entry (List.mem_filter.mp hentry).1
    · rw [List.mem_singleton.mp hentry]
      exact hpath

theorem Proper.makeDirectories (h : tree.Proper) {parts : List String}
    (hparts : ∀ part ∈ parts, IsName part) : (tree.makeDirectories path parts).Proper := by
  induction parts generalizing tree path with
  | nil => exact h
  | cons part parts ih =>
      obtain ⟨hpart, hmore⟩ := List.forall_mem_cons.mp hparts
      refine ih ?_ hmore
      split
      · exact h
      · refine h.put fun name hname => ?_
        rw [List.getLast?_concat, Option.some.injEq] at hname
        rwa [← hname]

/-- Writing keeps a tree proper, wherever the path ends in a name and does not go up. -/
theorem Proper.write (h : tree.Proper) {text : String} (hup : ".." ∉ components text)
    (hends : (components text).filter (· != ".") ≠ []) : (tree.write text node).Proper := by
  have hparts : ∀ part ∈ (components text).filter (· != "."), IsName part := by
    intro part hpart
    obtain ⟨hmem, hdot⟩ := List.mem_filter.mp hpart
    exact isName_of_mem_components hmem (bne_iff_ne.mp hdot) fun hdots => hup (hdots ▸ hmem)
  have hmade (start : Path) :
      (tree.makeDirectories start ((components text).filter (· != ".")).dropLast).Proper :=
    h.makeDirectories fun part hpart => hparts part (List.dropLast_subset _ hpart)
  have hpath (start : Path) (name : String)
      (hname : (start ++ (components text).filter (· != ".")).getLast? = some name) :
      IsName name := by
    rw [List.getLast?_append_of_ne_nil _ hends] at hname
    exact hparts name (List.mem_of_getLast? hname)
  have hlast (name : String)
      (hname : (if text.toList.head? = some '/' then
        root ++ (components text).filter (· != ".")
        else (components text).filter (· != ".")).getLast? = some name) : IsName name := by
    split at hname
    · exact hpath root name hname
    · exact hpath [] name hname
  unfold Tree.write
  dsimp only
  generalize (if text.toList.head? = some '/' then root ++ (components text).filter (· != ".")
    else (components text).filter (· != ".")) = path at hlast ⊢
  cases node with
  | file bytes => exact (hmade _).put hlast
  | directory =>
      dsimp only
      split
      · exact hmade _
      · exact (hmade _).put hlast

/-! ## Listing -/

/-- Where a listing finds a name. -/
theorem cut_iff : (if path.dropLast = place then path.getLast? else none) = some name ↔
    path = place ++ [name] := by
  constructor
  · intro h
    split at h
    · rename_i hplace
      rw [← hplace, List.dropLast_append_getLast? name h]
    · cases h
  · rintro rfl
    rw [List.dropLast_concat, if_pos rfl, List.getLast?_concat]

theorem mem_names : name ∈ tree.names place ↔ ∃ node, (place ++ [name], node) ∈ tree.entries := by
  rw [names, List.mem_mergeSort, List.mem_filterMap]
  simp only [cut_iff]
  constructor
  · rintro ⟨⟨path, node⟩, hentry, rfl⟩
    exact ⟨node, hentry⟩
  · rintro ⟨node, hentry⟩
    exact ⟨_, hentry, rfl⟩

/-- Entries that stand in the order of their names are listed as they stand. -/
theorem names_of_pairwise {inside : List String}
    (hinside : (tree.entries.filterMap fun entry =>
      if entry.1.dropLast = place then entry.1.getLast? else none) = inside)
    (hsorted : inside.Pairwise fun a b => (!decide (b < a)) = true) :
    tree.names place = inside := by
  rw [names, hinside]
  exact List.mergeSort_of_pairwise hsorted

theorem Proper.isName_of_mem_names (h : tree.Proper) (hname : name ∈ tree.names place) :
    IsName name := by
  obtain ⟨node, hentry⟩ := mem_names.mp hname
  exact h.isName _ hentry name (List.getLast?_concat ..)

theorem Proper.nodup_names (h : tree.Proper) (place : Path) : (tree.names place).Nodup := by
  rw [names, (List.mergeSort_perm _ _).nodup_iff]
  refine (List.pairwise_map.mp h.nodup).filterMap _
    fun entry other hne name hname name' hother => ?_
  rintro rfl
  rw [cut_iff] at hname hother
  exact hne (hname.trans hother.symm)

/-- A file that is listed is found through any path that leads to its directory. -/
theorem Proper.resolve?_join (h : tree.Proper) {base : String} (hbase : tree.Leads base place)
    (hname : name ∈ tree.names place) :
    tree.resolve? (join base name) = some (place ++ [name]) := by
  refine hbase.resolve?_join (h.isName_of_mem_names hname) ?_
  obtain ⟨node, hentry⟩ := mem_names.mp hname
  rw [node?]
  split
  · rfl
  · rw [Option.isSome_map, List.find?_isSome]
    exact ⟨_, hentry, beq_self_eq_true _⟩

end Tree

end Crosstab.Disk
