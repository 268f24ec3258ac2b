import Crosstab.Proofs.Rendering

/-!
# What stands between the texts of a statement

A statement is laid out in rows: the texts ahead of it, one row for each of its clauses, the row
limit where it has a row of its own, and the texts after it. A `Row` says which of its characters
were given and which the renderer added, so that a rendering can be cut into the two
(`Query.render_rows`, `Query.tail_rows`).

Rows are listed slot by slot (`Query.rowsIn`), and what is given in a slot, which keyword it brings
and where the limit stands is one lemma each about that list. `Query.cut_rowsIn` puts the slots
together: the given texts of a layout are the texts of the query in slot order, and the rest of it
is a keyword for each clause that is there, separators, parentheses and the limit.
-/

namespace Crosstab

/-! ## Tokens and rows -/

namespace Slot

/-- The clause keyword of the slot. What stands ahead of a statement or after it has none. -/
def keyword : Slot → String
  | preSelect | trailing => ""
  | select => "SELECT "
  | table => "FROM "
  | filter => "WHERE "
  | groupBy => "GROUP BY "
  | having => "HAVING "
  | orderBy => "ORDER BY "

def separator : Slot → String
  | select | groupBy | orderBy => ", "
  | filter | having => " AND "
  | preSelect | table | trailing => "\n"

def clauses : List Slot := [select, table, filter, groupBy, having, orderBy]

def afterSelect : List Slot := [table, filter, groupBy, having, orderBy, trailing]

def conjoins (slot : Slot) : Bool := slot == filter || slot == having

end Slot

/-- A run of characters in a statement: a text that was given for a slot, or the renderer's own. -/
inductive Token where
  | given (slot : Slot) (text : String)
  | keyword (slot : Slot)
  | separator (slot : Slot)
  | opening
  | closing
  /-- The row limit, at the place of a slot. -/
  | limit (slot : Slot) (text : String)
  deriving Repr, DecidableEq

namespace Token

def text : Token → String
  | given _ text => text
  | keyword slot => slot.keyword
  | separator slot => slot.separator
  | opening => "("
  | closing => ")"
  | limit _ text => text

def given? : Token → Option (Slot × String)
  | given slot text => some (slot, text)
  | _ => none

def keyword? : Token → Option Slot
  | keyword slot => some slot
  | _ => none

def limit? : Token → Option (Slot × String)
  | limit slot text => some (slot, text)
  | _ => none

def join (tokens : List Token) : String := String.join (tokens.map text)

end Token

/-- An item of a clause: a text as it is, or one in parentheses that were added. -/
inductive Item where
  | bare (text : String)
  | grouped (text : String)
  deriving Repr, DecidableEq

namespace Item

def text : Item → String
  | bare text | grouped text => text

/-- A predicate among others: trimmed, and in parentheses unless it brings its own. -/
def ofPredicate (predicate : String) : Item :=
  if isWrapped predicate.toList then .bare (trimText predicate) else .grouped (trimText predicate)

/-- The tokens of an item of a clause. Nothing but a predicate is put in parentheses. -/
def tokens (slot : Slot) : Item → List Token
  | bare text => [.given slot text]
  | grouped text =>
    if slot.conjoins then [.opening, .given slot text, .closing] else [.given slot text]

end Item

inductive Row where
  /-- A text ahead of the statement. -/
  | before (text : String)
  /-- A clause, with the row limit behind its keyword if it has its place there. -/
  | clause (slot : Slot) (cap : Option String) (items : List Item)
  /-- The row limit after the ordering. -/
  | limit (text : String)
  /-- A text after the statement. -/
  | after (text : String)
  deriving Repr, DecidableEq

namespace Row

def slot : Row → Slot
  | before _ => .preSelect
  | clause slot _ _ => slot
  | limit _ => .orderBy
  | after _ => .trailing

def tokens : Row → List Token
  | before text => [.given .preSelect text]
  | clause slot cap items => .keyword slot :: cap.toList.map (.limit slot) ++
      [Token.separator slot].intercalate (items.map (Item.tokens slot))
  | limit text => [.limit .orderBy text]
  | after text => [.given .trailing text]

def text (row : Row) : String := Token.join row.tokens

end Row

/-- The texts of a clause of predicates: several are trimmed. -/
def conjoined (predicates : List String) : List String :=
  if 2 ≤ predicates.length then predicates.map trimText else predicates

def predicateItems : List String → List Item
  | [] => []
  | [predicate] => [.bare predicate]
  | predicates => predicates.map .ofPredicate

def clauseRows (slot : Slot) (items : List Item) : List Row :=
  if items.isEmpty then [] else [.clause slot none items]

namespace Query

/-- The texts that a query writes in a slot. -/
def written (query : Query) : Slot → List String
  | .preSelect => query.preSelect
  | .select => query.select
  | .table => query.tables
  | .filter => conjoined query.filters
  | .groupBy => query.groupBy
  | .having => conjoined query.having
  | .orderBy => query.orderBy
  | .trailing => query.trailing

def opens (query : Query) (slot : Slot) : Bool :=
  Slot.clauses.contains slot && (slot == .select || !(query.written slot).isEmpty)

/-- The row limit, if this target puts it behind `SELECT`. -/
def leadingLimit (db : Database) (query : Query) : Option String :=
  match query.limit.map db.limitClause with
  | some (.afterSelect top) => some (top ++ " ")
  | _ => none

def limitIn (db : Database) (query : Query) : Slot → List String
  | .select => (query.leadingLimit db).toList
  | .orderBy => query.trailingLimit db
  | _ => []

def rowsIn (db : Database) (query : Query) : Slot → List Row
  | .preSelect => query.preSelect.map .before
  | .select => [.clause .select (query.leadingLimit db) (query.select.map .bare)]
  | .table => clauseRows .table (query.tables.map .bare)
  | .filter => clauseRows .filter (predicateItems query.filters)
  | .groupBy => clauseRows .groupBy (query.groupBy.map .bare)
  | .having => clauseRows .having (predicateItems query.having)
  | .orderBy => clauseRows .orderBy (query.orderBy.map .bare) ++ (query.trailingLimit db).map .limit
  | .trailing => query.trailing.map .after

end Query

/-- Rows in slot order, cut into the given texts and the renderer's own: a keyword for each clause,
separators, added parentheses and the limit. -/
structure Cut (rows : List Row) (given : List (Slot × String)) (keywords : List Slot)
    (limits : List (Slot × String)) : Prop where
  sorted : rows.Pairwise fun row row' => row.slot.rank ≤ row'.slot.rank
  given : (rows.flatMap Row.tokens).filterMap Token.given? = given
  keywords : (rows.flatMap Row.tokens).filterMap Token.keyword? = keywords
  limits : (rows.flatMap Row.tokens).filterMap Token.limit? = limits

/-! ## Rows as text -/

theorem Token.join_append (as bs : List Token) :
    Token.join (as ++ bs) = Token.join as ++ Token.join bs := by
  rw [join, List.map_append, String.join_append]
  rfl

theorem Token.join_intercalate (separator : Token) (parts : List (List Token)) :
    Token.join ([separator].intercalate parts) =
      separator.text.intercalate (parts.map Token.join) := by
  induction parts with
  | nil => rfl
  | cons part parts ih =>
      cases parts with
      | nil => simp
      | cons next parts =>
          rw [List.intercalate_cons_cons, Token.join_append, Token.join_append, ih, List.map_cons,
            List.map_cons, List.map_cons, String.intercalate_cons_cons]
          simp [join]

theorem Row.text_clause (slot : Slot) (cap : Option String) (items : List Item) :
    (Row.clause slot cap items).text = slot.keyword ++ cap.getD "" ++
      slot.separator.intercalate (items.map fun item => Token.join (item.tokens slot)) := by
  have hkeyword : Token.join (.keyword slot :: cap.toList.map (.limit slot)) =
      slot.keyword ++ cap.getD "" := by
    cases cap <;> simp [Token.join, Token.text]
  rw [text, tokens, Token.join_append, hkeyword, Token.join_intercalate, List.map_map]
  rfl

theorem Row.text_singles (row : String → Row) {token : String → Token}
    (htokens : ∀ s, (row s).tokens = [token s]) (htext : ∀ s, (token s).text = s)
    (texts : List String) : (texts.map row).map Row.text = texts := by
  rw [List.map_map]
  refine List.map_id'' (fun s => ?_) texts
  simp [text, htokens, Token.join, htext]

theorem join_bare (slot : Slot) (s : String) : Token.join ((Item.bare s).tokens slot) = s := by
  simp [Item.tokens, Token.join, Token.text]

theorem text_clauseRows {slot : Slot} {items : List Item} :
    (clauseRows slot items).map Row.text =
      clause slot.keyword slot.separator (items.map fun item => Token.join (item.tokens slot)) := by
  cases items with
  | nil => rfl
  | cons item items =>
      show [(Row.clause slot none (item :: items)).text] = _
      rw [Row.text_clause]
      simp [clause]

theorem clause_rows (slot : Slot) (texts : List String) :
    clause slot.keyword slot.separator texts =
      (clauseRows slot (texts.map .bare)).map Row.text := by
  rw [text_clauseRows, List.map_map]
  congr 1
  exact (List.map_id'' (join_bare slot) texts).symm

theorem predicateClause_rows (slot : Slot) (hslot : slot.conjoins = true)
    (predicates : List String) :
    predicateClause slot.keyword predicates =
      (clauseRows slot (predicateItems predicates)).map Row.text := by
  have hseparator : slot.separator = " AND " := by
    cases slot <;> first | rfl | cases hslot
  rw [text_clauseRows, hseparator]
  match predicates with
  | [] => rfl
  | [predicate] => simp [predicateClause, clause, predicateItems, conjunction, join_bare]
  | first :: second :: rest =>
      have hitem (predicate : String) :
          groupPredicate predicate = Token.join ((Item.ofPredicate predicate).tokens slot) := by
        unfold groupPredicate Item.ofPredicate
        split
        · exact (join_bare slot _).symm
        · simp [Item.tokens, hslot, Token.join, Token.text, String.append_assoc]
      simp only [predicateClause, clause, predicateItems, conjunction, List.map_map,
        List.map_congr_left fun predicate _ => hitem predicate]
      rfl

theorem Query.selectClause_row (db : Database) (query : Query) :
    query.selectClause db =
      (Row.clause .select (query.leadingLimit db) (query.select.map .bare)).text := by
  have hkeyword : query.selectKeyword db =
      Slot.select.keyword ++ (query.leadingLimit db).getD "" := by
    unfold selectKeyword leadingLimit
    cases query.limit.map db.limitClause with
    | none => simp [Slot.keyword]
    | some limit => cases limit <;> simp [Slot.keyword, String.append_assoc]
  rw [Row.text_clause, ← hkeyword, List.map_map, selectClause]
  congr 2
  exact (List.map_id'' (join_bare .select) query.select).symm

/-- A statement after its select list, row by row. -/
theorem Query.tail_rows (db : Database) (query : Query) :
    query.tail db = indentLines ((Slot.afterSelect.flatMap (query.rowsIn db)).map Row.text) := by
  have hlimit := Row.text_singles .limit (fun _ => rfl) (fun _ => rfl) (query.trailingLimit db)
  have hafter := Row.text_singles .after (fun _ => rfl) (fun _ => rfl) query.trailing
  -- Clause by clause the two lists are the same; they only nest their appends differently.
  have hlines : query.tailLines db =
      (Slot.afterSelect.flatMap (query.rowsIn db)).map Row.text := by
    simp only [Slot.afterSelect, List.flatMap_cons, List.flatMap_nil, rowsIn, List.map_append,
      ← clause_rows, ← predicateClause_rows .filter rfl, ← predicateClause_rows .having rfl, hlimit,
      hafter, List.append_assoc, List.append_nil]
    simp only [tailLines, List.append_assoc]
    rfl
  rw [tail, hlines]

/-- A statement without common table expressions, row by row. -/
theorem Query.render_rows (db : Database) {query : Query} (hctes : query.ctes = []) :
    query.render db = "\n".intercalate ((Slot.all.flatMap (query.rowsIn db)).map Row.text) := by
  have hbefore := Row.text_singles .before (fun _ => rfl) (fun _ => rfl) query.preSelect
  have hselect : (query.rowsIn db .select).map Row.text = [query.selectClause db] := by
    rw [query.selectClause_row]
    rfl
  have hall : (Slot.all.flatMap (query.rowsIn db)).map Row.text =
      (query.preSelect ++ [query.selectClause db]) ++
        (Slot.afterSelect.flatMap (query.rowsIn db)).map Row.text := by
    show ((Slot.preSelect :: Slot.select :: Slot.afterSelect).flatMap _).map _ = _
    rw [List.flatMap_cons, List.flatMap_cons, List.map_append, List.map_append, hselect,
      List.append_assoc]
    exact congrArg (· ++ _) hbefore
  have hhead : query.headLines db = query.preSelect ++ [query.selectClause db] := by
    rw [headLines, hctes]
    simp
  rw [render, head, hhead, query.tail_rows, indentLines_eq, hall]
  exact intercalate_append_join "\n" (by simp) _

/-! ## Rows cut into tokens -/

namespace Row

variable (slot : Slot) (cap : Option String) (items : List Item)

theorem filterMap_clause {β : Type} (f : Token → Option β) (h : f (.separator slot) = none) :
    (clause slot cap items).tokens.filterMap f =
      (f (.keyword slot)).toList ++ cap.toList.filterMap (fun text => f (.limit slot text)) ++
        items.flatMap fun item => (item.tokens slot).filterMap f := by
  have hkeyword : (Token.keyword slot :: cap.toList.map (.limit slot)).filterMap f =
      (f (.keyword slot)).toList ++ cap.toList.filterMap fun text => f (.limit slot text) := by
    rw [List.filterMap_cons, List.filterMap_map]
    cases f (.keyword slot) <;> rfl
  rw [tokens, List.filterMap_append, filterMap_intercalate h, List.flatMap_map, hkeyword]

theorem given_clause : (clause slot cap items).tokens.filterMap Token.given? =
    items.map fun item => (slot, item.text) := by
  have hitem (item : Item) : (item.tokens slot).filterMap Token.given? = [(slot, item.text)] := by
    cases item <;> cases slot <;> rfl
  simp only [filterMap_clause slot cap items Token.given? rfl, hitem]
  cases cap <;> simp [Token.given?, List.map_eq_flatMap]

theorem keywords_clause : (clause slot cap items).tokens.filterMap Token.keyword? = [slot] := by
  have hitem (item : Item) : (item.tokens slot).filterMap Token.keyword? = [] := by
    cases item <;> cases slot <;> rfl
  simp only [filterMap_clause slot cap items Token.keyword? rfl, hitem]
  cases cap <;> simp [Token.keyword?]

theorem limits_clause : (clause slot cap items).tokens.filterMap Token.limit? =
    cap.toList.map (slot, ·) := by
  have hitem (item : Item) : (item.tokens slot).filterMap Token.limit? = [] := by
    cases item <;> cases slot <;> rfl
  simp only [filterMap_clause slot cap items Token.limit? rfl, hitem]
  cases cap <;> simp [Token.limit?]

end Row

namespace Cut

variable {rows rows' : List Row} {given given' limits limits' : List (Slot × String)}
  {keywords keywords' : List Slot}

theorem append (h : Cut rows given keywords limits) (h' : Cut rows' given' keywords' limits')
    (hslot : ∀ row ∈ rows, ∀ row' ∈ rows', row.slot.rank ≤ row'.slot.rank) :
    Cut (rows ++ rows') (given ++ given') (keywords ++ keywords') (limits ++ limits') where
  sorted := List.pairwise_append.mpr ⟨h.sorted, h'.sorted, hslot⟩
  given := by rw [List.flatMap_append, List.filterMap_append, h.given, h'.given]
  keywords := by rw [List.flatMap_append, List.filterMap_append, h.keywords, h'.keywords]
  limits := by rw [List.flatMap_append, List.filterMap_append, h.limits, h'.limits]

end Cut

def Row.AllIn (slot : Slot) (rows : List Row) : Prop := ∀ row ∈ rows, row.slot = slot

theorem Row.AllIn.sorted {slot : Slot} {rows : List Row} (h : AllIn slot rows) :
    rows.Pairwise fun row row' => row.slot.rank ≤ row'.slot.rank :=
  List.pairwise_of_forall_mem_list fun row hrow row' hrow' => by rw [h row hrow, h row' hrow']

theorem cut_singles (row : String → Row) {slot : Slot} (token : String → Token)
    (htokens : ∀ text, (row text).tokens = [token text]) (hslot : ∀ text, (row text).slot = slot)
    (texts : List String) :
    Cut (texts.map row) (texts.filterMap (Token.given? ∘ token))
      (texts.filterMap (Token.keyword? ∘ token)) (texts.filterMap (Token.limit? ∘ token)) := by
  have hmap : (texts.map row).flatMap Row.tokens = texts.map token := by
    rw [List.flatMap_map, List.map_eq_flatMap]
    exact List.flatMap_congr fun text _ => htokens text
  have hall : Row.AllIn slot (texts.map row) := List.forall_mem_map.mpr fun text _ => hslot text
  constructor
  · exact hall.sorted
  all_goals rw [hmap, List.filterMap_map]

theorem cut_texts (row : String → Row) {slot : Slot}
    (htokens : ∀ text, (row text).tokens = [.given slot text])
    (hslot : ∀ text, (row text).slot = slot) (texts : List String) :
    Cut (texts.map row) (texts.map (slot, ·)) [] [] := by
  simpa [Function.comp_def, Token.given?, Token.keyword?, Token.limit?]
    using cut_singles row (.given slot) htokens hslot texts

theorem cut_limits (limits : List String) :
    Cut (limits.map .limit) [] [] (limits.map (.orderBy, ·)) := by
  simpa [Function.comp_def, Token.given?, Token.keyword?, Token.limit?]
    using cut_singles .limit (.limit .orderBy) (fun _ => rfl) (fun _ => rfl) limits

theorem cut_clause (slot : Slot) (cap : Option String) (items : List Item) :
    Cut [.clause slot cap items] (items.map fun item => (slot, item.text)) [slot]
      (cap.toList.map (slot, ·)) where
  sorted := List.pairwise_singleton _ _
  given := by rw [List.flatMap_singleton, Row.given_clause]
  keywords := by rw [List.flatMap_singleton, Row.keywords_clause]
  limits := by rw [List.flatMap_singleton, Row.limits_clause]

theorem cut_clauseRows (slot : Slot) {items : List Item} {texts : List String}
    (h : items.map Item.text = texts) :
    Cut (clauseRows slot items) (texts.map (slot, ·)) (if !texts.isEmpty then [slot] else [])
      [] := by
  subst h
  rw [List.map_map]
  cases items with
  | nil => exact ⟨.nil, rfl, rfl, rfl⟩
  | cons item items => exact cut_clause slot none (item :: items)

theorem bare_text (texts : List String) : (texts.map Item.bare).map Item.text = texts := by
  rw [List.map_map]
  exact List.map_id texts

theorem predicateItems_text (predicates : List String) :
    (predicateItems predicates).map Item.text = conjoined predicates := by
  match predicates with
  | [] | [_] => rfl
  | first :: second :: rest =>
      have htext (predicate : String) : (Item.ofPredicate predicate).text = trimText predicate := by
        unfold Item.ofPredicate
        split <;> rfl
      simp [predicateItems, conjoined, htext]

namespace Query

variable (db : Database) (query : Query)

theorem slot_rowsIn (slot : Slot) : Row.AllIn slot (query.rowsIn db slot) := by
  have hclause (items : List Item) : Row.AllIn slot (clauseRows slot items) := by
    unfold clauseRows
    split
    · exact fun _ h => nomatch h
    · exact List.forall_mem_singleton.mpr rfl
  cases slot with
  | preSelect | trailing => exact List.forall_mem_map.mpr fun _ _ => rfl
  | select => exact List.forall_mem_singleton.mpr rfl
  | table | filter | groupBy | having => exact hclause _
  | orderBy =>
      exact List.forall_mem_append.mpr ⟨hclause _, List.forall_mem_map.mpr fun _ _ => rfl⟩

theorem cut_slot (slot : Slot) :
    Cut (query.rowsIn db slot) ((query.written slot).map (slot, ·))
      (if query.opens slot then [slot] else []) ((query.limitIn db slot).map (slot, ·)) := by
  cases slot with
  | preSelect => exact cut_texts .before (fun _ => rfl) (fun _ => rfl) query.preSelect
  | trailing => exact cut_texts .after (fun _ => rfl) (fun _ => rfl) query.trailing
  | select =>
      have h := cut_clause .select (query.leadingLimit db) (query.select.map .bare)
      rwa [List.map_map] at h
  | table => exact cut_clauseRows .table (bare_text query.tables)
  | groupBy => exact cut_clauseRows .groupBy (bare_text query.groupBy)
  | filter => exact cut_clauseRows .filter (predicateItems_text query.filters)
  | having => exact cut_clauseRows .having (predicateItems_text query.having)
  | orderBy =>
      have hall := List.forall_mem_append.mp (query.slot_rowsIn db .orderBy)
      have h := (cut_clauseRows .orderBy (bare_text query.orderBy)).append
        (cut_limits (query.trailingLimit db)) fun row hrow row' hrow' => by
          rw [hall.1 row hrow, hall.2 row' hrow']
      rwa [List.append_nil, List.append_nil] at h

/-- The rows of some slots, in statement order. -/
theorem cut_rowsIn (slots : List Slot) (hslots : slots.Pairwise fun a b => a.rank ≤ b.rank) :
    Cut (slots.flatMap (query.rowsIn db))
      (slots.flatMap fun slot => (query.written slot).map (slot, ·)) (slots.filter query.opens)
      (slots.flatMap fun slot => (query.limitIn db slot).map (slot, ·)) := by
  induction slots with
  | nil => exact ⟨.nil, rfl, rfl, rfl⟩
  | cons slot slots ih =>
      obtain ⟨hfirst, hrest⟩ := List.pairwise_cons.mp hslots
      have hkeywords : (slot :: slots).filter query.opens =
          (if query.opens slot then [slot] else []) ++ slots.filter query.opens := by
        rw [List.filter_cons]
        split <;> rfl
      rw [hkeywords]
      refine (query.cut_slot db slot).append (ih hrest) fun row hrow row' hrow' => ?_
      obtain ⟨slot', hslot', hmem⟩ := List.mem_flatMap.mp hrow'
      rw [query.slot_rowsIn db slot row hrow, query.slot_rowsIn db slot' row' hmem]
      exact hfirst slot' hslot'

end Query

end Crosstab
