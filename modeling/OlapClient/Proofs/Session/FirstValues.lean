import Mathlib.Tactic.Common
import OlapClient.Proofs.Session.Query
import OlapClient.Proofs.Table.Rereading
import OlapClient.Proofs.Table.Values

/-!
# The values of the first row

A client that asks for the values of the first row keeps one row of the result, and a client that
asks for all rows keeps every row.  `executeFirst_agrees` says that the values are those of the
first of all rows, whatever comes of the round trip and in either mode: both ways end with the same
failure where there is no result, there are no values exactly where there is no row, and a text that
stands for no value fails as it does when the row is read from the whole result.  Later rows are
never read.
-/

namespace OlapClient.Session

open OlapClient.Markup
open OlapClient.Protocol
open OlapClient.Text

variable {τ : Type}

/-! ### The whole result -/

/-- What a statement gives for its rows, by what came of the round trip. -/
inductive Exchanged (mode : Mode) : Except Mishap Octets → Except Mishap Table.RowSet → Prop where
  /-- The exchange fails, -/
  | unsent (cause : Mishap) : Exchanged mode (.error cause) (.error (mode.surface cause))
  /-- or the envelope, also where it carries a fault, -/
  | rejected {response : Octets} {failure : Failure}
      (rejects : readResponse response .execute = .error failure) :
      Exchanged mode (.ok response) (.error (.failed failure))
  /-- or the payload has no result, -/
  | rootless {response : Octets} {payload : Element}
      (reads : readResponse response .execute = .ok payload)
      (lacks : payload.findChild? rowsetNs "root" = none) :
      Exchanged mode (.ok response) (.error (.failed (.malformed .noRowsetRoot)))
  /-- or the result is read. -/
  | loaded {response : Octets} {payload root : Element}
      (reads : readResponse response .execute = .ok payload)
      (found : payload.findChild? rowsetNs "root" = some root) :
      Exchanged mode (.ok response)
        (.ok (.ofRows (Table.readColumns root) (Table.rowElements root)))

theorem collected_of_none
    {σ : Type} {payload : Element} (lacks : payload.findChild? rowsetNs "root" = none)
    (handler : Table.RowHandler σ) (start : σ) :
  collected (digest (Table.readRowSet handler) start (.ok payload))
    = .error (.failed (.malformed .noRowsetRoot))
  := by
  rw [digest, ← outcome_eq_ending, Table.outcome_readRowSet_of_none lacks]
  rfl

theorem collected_rows
    {payload root : Element} (found : payload.findChild? rowsetNs "root" = some root) :
  collected (digest (Table.readRowSet Table.collecting) .empty (.ok payload))
    = .ok (.ofRows (Table.readColumns root) (Table.rowElements root))
  := by
  rw [digest, ← outcome_eq_ending, Table.outcome_readRowSet_collecting found]
  rfl

theorem exchanged_verdict (mode : Mode) (sent : Except Mishap Octets) :
  Exchanged mode sent
    (collected (digest (Table.readRowSet Table.collecting) .empty (verdict mode .execute sent)))
  := by
  cases sent with
  | error cause => apply Exchanged.unsent
  | ok response =>
    cases reads : readResponse response .execute with
    | error failure =>
      rw [verdict, reads]
      apply Exchanged.rejected reads
    | ok payload =>
      rw [verdict, reads, Except.mapError]
      cases found : payload.findChild? rowsetNs "root" with
      | none =>
        rw [collected_of_none found]
        apply Exchanged.rootless reads found
      | some root =>
        rw [collected_rows found]
        apply Exchanged.loaded reads found

/-! ### The first of its rows -/

/-- The values of the first of all rows, if there is a row. -/
def valuesOfFirst (s : Table.RowSet) : Except Mishap (Option (List Value)) :=
  (s.allRows.head?.mapM Table.Row.values).mapError .failed

theorem firstValues_eq (first : Table.FirstRow Table.RowSet) :
  firstValues first = valuesOfFirst first.inner
  := by
  rw [firstValues, valuesOfFirst]
  cases first.inner.allRows.head? <;> rfl

/-- Of all rows the first one matters. -/
theorem valuesOfFirst_congr
    {s s' : Table.RowSet} (first : s.allRows.head? = s'.allRows.head?) :
  valuesOfFirst s = valuesOfFirst s'
  := by rw [valuesOfFirst, valuesOfFirst, first]

/-- The row that is kept is the first of all rows. -/
theorem conclude_first (asked : Except Mishap Element) :
  (collected (digest (Table.readRowSet (Table.firstRow Table.collecting)) ⟨.empty, false⟩
      asked)).bind firstValues
    = (collected (digest (Table.readRowSet Table.collecting) .empty asked)).bind valuesOfFirst
  := by
  cases asked with
  | error mishap => rfl
  | ok payload =>
    cases found : payload.findChild? rowsetNs "root" with
    | none =>
      rw [collected_of_none found, collected_of_none found]
      rfl
    | some root =>
      have kept : collected (digest (Table.readRowSet (Table.firstRow Table.collecting))
          ⟨.empty, false⟩ (.ok payload))
          = .ok ⟨.ofRows (Table.readColumns root) ((Table.rowElements root).take 1),
            Table.hasRow payload⟩ := by
        rw [digest, ← outcome_eq_ending, Table.outcome_readRowSet_firstRow found]
        rfl
      rw [kept, collected_rows found, Except.bind, Except.bind, firstValues_eq]
      apply valuesOfFirst_congr
      cases Table.rowElements root <;> rfl

/-- What a statement gives for its first row, by what it gives for its rows. -/
inductive FirstOf : Except Mishap Table.RowSet → Except Mishap (Option (List Value)) → Prop where
  /-- What fails for the rows fails so for the first of them. -/
  | failed (mishap : Mishap) : FirstOf (.error mishap) (.error mishap)
  /-- Where there is no row there are no values. -/
  | none {s : Table.RowSet} (empty : s.allRows = []) : FirstOf (.ok s) (.ok none)
  /-- The first row has one value in each column, whatever the later rows are, -/
  | values {s : Table.RowSet} {row : Table.Row} {later : List Table.Row} {values : List Value}
      (rows : s.allRows = row :: later) (reads : row.Reads s.columns values) :
      FirstOf (.ok s) (.ok (some values))
  /-- or it has a text that stands for no value of its type. -/
  | illTyped {s : Table.RowSet} {row : Table.Row} {later : List Table.Row} {failure : Failure}
      (rows : s.allRows = row :: later) (illTyped : row.IllTyped failure) :
      FirstOf (.ok s) (.error (.failed failure))

theorem firstOf_bind (full : Except Mishap Table.RowSet) :
  FirstOf full (full.bind valuesOfFirst)
  := by
  cases full with
  | error mishap => apply FirstOf.failed
  | ok s =>
    rw [Except.bind, valuesOfFirst]
    cases rows : s.allRows with
    | nil => apply FirstOf.none rows
    | cons row later =>
      have columns : row.columns = s.columns := by
        apply Table.RowSet.columns_of_mem_allRows
        rw [rows]
        apply List.mem_cons_self
      rw [List.head?_cons, Option.mapM_some]
      cases read : row.values with
      | ok values =>
        rw [Table.Row.values_eq_ok_iff, columns] at read
        apply FirstOf.values rows read
      | error failure =>
        apply FirstOf.illTyped rows (Table.Row.values_eq_error_iff.mp read)

/-- A later row may have a text that stands for no value. -/
example :
  valuesOfFirst (.ofRows [⟨1, "open", "open", .boolean⟩]
      [Table.rowWith "open" "true", Table.rowWith "open" "perhaps"])
    = .ok (some [.boolean true])
  := by rfl

theorem bind_valuesOfFirst_eq_none_iff {full : Except Mishap Table.RowSet} :
  full.bind valuesOfFirst = .ok none ↔ ∃ s, full = .ok s ∧ s.allRows = []
  := by
  constructor
  · intro none
    have first := firstOf_bind full
    rw [none] at first
    cases first with
    | none empty => exact ⟨_, rfl, empty⟩
  · rintro ⟨s, rfl, empty⟩
    rw [Except.bind, valuesOfFirst, empty]
    rfl

/-! ### Both ways over a connection -/

/-- How what a statement gives for all rows goes with what it gives for the first one, each with the
connection that is left. -/
structure FirstAgrees (mode : Mode) (sent : Except Mishap Octets)
    (full : Except Mishap Table.RowSet × Link τ)
    (first : Except Mishap (Option (List Value)) × Link τ) : Prop where
  /-- All rows are read by what came of the round trip, -/
  exchanged : Exchanged mode sent full.1
  /-- and the first one gives what the first of them gives. -/
  taken : first.1 = full.1.bind valuesOfFirst
  outcome : FirstOf full.1 first.1
  /-- There are no values exactly when there is a result without a row. -/
  none_iff : first.1 = .ok none ↔ ∃ s, full.1 = .ok s ∧ s.allRows = []
  /-- The connection is left alike. -/
  link : first.2 = full.2

theorem ending_executeRows (client : Client τ) (statement : String) (link : Link τ) :
  ending (client.executeRows statement) link
    = (collected (digest (Table.readRowSet Table.collecting) .empty
        (ending (client.ask (.execute statement .tabular)) link).1),
      (ending (client.ask (.execute statement .tabular)) link).2)
  := by apply Query.run_eq client (.rows statement) link

theorem ending_executeFirst_eq (client : Client τ) (statement : String) (link : Link τ) :
  ending (client.executeFirst statement) link
    = ((ending (client.executeRows statement) link).1.bind valuesOfFirst,
      (ending (client.executeRows statement) link).2)
  := by rw [Query.ending_executeFirst, ending_executeRows, conclude_first]

/-- In either mode and whatever comes of the round trip, a statement gives for its first row what
the first of all its rows gives.  Over any connections, statements whose results begin with the same
row give the same values, or fail alike, whatever their later rows are. -/
theorem executeFirst_agrees (client : Client τ) (statement : String) (link : Link τ) :
  FirstAgrees client.mode
      (ending (Shared.send client.transport
        (link.connection.octets (.execute statement .tabular))) link.shared).1
      (ending (client.executeRows statement) link) (ending (client.executeFirst statement) link)
    ∧ ∀ {τ' : Type} (client' : Client τ') (statement' : String) (link' : Link τ')
      (s s' : Table.RowSet), (ending (client.executeRows statement) link).1 = .ok s →
        (ending (client'.executeRows statement') link').1 = .ok s' →
        s.allRows.head? = s'.allRows.head? →
          (ending (client.executeFirst statement) link).1
            = (ending (client'.executeFirst statement') link').1
  := by
  rw [ending_executeFirst_eq]
  constructor
  · constructor
    case exchanged =>
      rw [ending_executeRows, Client.ending_ask]
      apply exchanged_verdict
    case taken => rfl
    case outcome => apply firstOf_bind
    case none_iff => apply bind_valuesOfFirst_eq_none_iff
    case link => rfl
  · intro τ' client' statement' link' s s' full full' first
    rw [ending_executeFirst_eq, full, full']
    apply valuesOfFirst_congr first

end OlapClient.Session
