import Crosstab.Dialect.Clauses
import Crosstab.Proofs.Trimming

/-!
# Clauses around closed text

Every expression that a target writes around a given one is closed when the given one is, and stands
between characters of its own (`Solid`), so it can take the place of the given one in any statement.
-/

namespace Crosstab

theorem closed_toString (n : Nat) : Closed (toString n) := by
  refine isClosed_inert fun c hc => isInert_of (p := Char.isDigit) (by decide) ?_
  have hdigits : c ∈ Nat.toDigits 10 n := by simpa using hc
  exact Nat.isDigit_of_mem_toDigits (by decide) (by decide) hdigits

namespace Database

/-- A date part of a closed column is closed: some targets write the column once, some twice. -/
theorem closed_datePart (db : Database) (increment : Increment) {column : String}
    (h : Closed column) : Closed (db.datePart increment column) := by
  cases db <;> cases increment <;>
    first
      | exact closed_of_reads (.paste (.own rfl) h (.own rfl))
      | exact closed_of_reads (.paste (.paste (.own rfl) h (.own rfl)) h (.own rfl))

theorem solid_datePart (db : Database) (increment : Increment) (column : String) :
    Solid (db.datePart increment column) := by
  cases db <;> cases increment <;>
    refine ⟨?_, ends_append rfl _⟩ <;>
    first
      | exact starts_append (starts_append rfl _) _
      | exact starts_append (starts_append (starts_append (starts_append rfl _) _) _) _

theorem closed_castToText (db : Database) {expression : String} (h : Closed expression) :
    Closed (db.castToText expression) := by
  cases db <;> exact closed_of_reads (.paste (.own rfl) h (.own rfl))

/-- The text of a row limit, wherever it stands. -/
theorem closed_limitClause (db : Database) (n : Nat) :
    ∀ text, db.limitClause n = .afterSelect text ∨ db.limitClause n = .trailing text →
      Closed text := by
  have hn := closed_toString n
  cases db with
  | sqlServer =>
      rintro text (h | h) <;> cases h
      exact closed_of_reads (.trans (.own rfl) (.given hn))
  | oracle =>
      rintro text (h | h) <;> cases h
      exact closed_of_reads (.paste (.own rfl) hn (.own rfl))
  | mySql | postgres | sqlite =>
      rintro text (h | h) <;> cases h
      exact closed_of_reads (.trans (.own rfl) (.given hn))

end Database

end Crosstab
