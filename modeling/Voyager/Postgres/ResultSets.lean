import Voyager.Postgres.Columns
import Voyager.Postgres.Pairing

/-! The rows of a reply and the columns that they are given. -/

namespace Voyager.Postgres

open Lib Net

section

variable {Batch : Type} (lib : Library Batch)

inductive Replies : Source → List BackendMessage → Prop where
  | ready {source rest : Source} {status : TransactionStatus}
      (h : readBackendMessage lib source = (.ok (.readyForQuery status), rest)) : Replies source []
  | more {source rest : Source} {message : BackendMessage} {ms : List BackendMessage}
      (h : readBackendMessage lib source = (.ok message, rest))
      (hmessage : ∀ status, message ≠ .readyForQuery status) (hrest : Replies rest ms) : Replies source (message :: ms)

/-- The rows, each with the columns of the description before it. -/
def described (names : List String) : List BackendMessage → List (List String × List (Option String))
  | [] => []
  | .rowDescription fields :: ms => described (fields.map FieldDescription.name) ms
  | .dataRow vals :: ms => (names, vals.map fun val => val.map lib.fromUtf8Lossy) :: described names ms
  | _ :: ms => described names ms

def lastColumns (names : List String) : List BackendMessage → List String
  | [] => names
  | .rowDescription fields :: ms => lastColumns (fields.map FieldDescription.name) ms
  | _ :: ms => lastColumns names ms

lemma foldl_add (ms : List BackendMessage) (reply : Reply) :
    (ms.foldl (Reply.add lib) reply).columns = lastColumns reply.columns ms ∧
      (ms.foldl (Reply.add lib) reply).rows = reply.rows ++ (described lib reply.columns ms).map Prod.snd := by
  induction ms generalizing reply with
  | nil => exact ⟨rfl, (List.append_nil _).symm⟩
  | cons message ms ih =>
    obtain ⟨hcolumns, hrows⟩ := ih (reply.add lib message)
    cases message with
    | dataRow vals => exact ⟨hcolumns, by simpa [Reply.add, described] using hrows⟩
    | _ => exact ⟨hcolumns, hrows⟩

variable {lib} {ms : List BackendMessage}

lemma readReply_replies {s : Session} (h : Replies lib s.incoming ms) (reply : Reply) :
    (readReply lib reply s).1 = .ok (ms.foldl (Reply.add lib) reply) := by
  generalize hsource : s.incoming = source at h
  induction h generalizing reply s with
  | ready h =>
    subst hsource
    rw [readReply_ready h]
    rfl
  | more h hmessage _ ih =>
    subst hsource
    rw [readReply_other h hmessage]
    exact ih _ rfl

lemma executeSimple_replies {s s' : Session} {query : String} {result : QueryResult Batch}
    (h : Replies lib s.incoming ms) (hrun : executeSimple lib query s = (.ok result, s')) :
    (ms.foldl (Reply.add lib) .empty).result lib = .ok result := by
  have hinner : executeSimpleInner lib query s = (.ok result, s') := by
    rw [executeSimple, Call.get_bind] at hrun
    unfold Call.timeout at hrun
    split at hrun
    · cases hrun
    · exact hrun
  obtain ⟨_, t, hwrite, hinner⟩ := Call.bind_eq_ok hinner
  obtain ⟨reply, t', hread, hinner⟩ := Call.bind_eq_ok hinner
  have hincoming : t.incoming = s.incoming := by
    rw [writeQuery] at hwrite
    split at hwrite
    · cases hwrite
    · rename_i written _ _
      cases written <;> cases hwrite
      rfl
  have hreply := readReply_replies (hincoming ▸ h) .empty
  rw [hread] at hreply
  cases hreply
  cases hresult : (ms.foldl (Reply.add lib) .empty).result lib with
  | ok r =>
    simp only [hresult] at hinner
    cases hinner
    rfl
  | error e =>
    simp only [hresult] at hinner
    cases hinner

lemma foldl_add_empty (lib : Library Batch) (ms : List BackendMessage) :
    (ms.foldl (Reply.add lib) .empty).columns = lastColumns [] ms ∧
      (ms.foldl (Reply.add lib) .empty).rows = (described lib [] ms).map Prod.snd :=
  foldl_add lib ms .empty

end

/-- The batch of the call is that of `rows_to_record_batch`; where it panics there is no result. -/
def withColumns (std : Redis.Std) (unicode : Unicode) (panicked : NetError) (lib : Library Unit) :
    Library (List (String × Column)) where
  utf8Error := lib.utf8Error
  fromUtf8Lossy := lib.fromUtf8Lossy
  rowsToRecordBatch names rows := (rowsToRecordBatch std unicode names rows).elim (.error panicked) .ok
  numRows batch := batch.head?.elim 0 fun field => field.2.values.length
  durationText := lib.durationText
  elapsedMs := lib.elapsedMs

lemma fst_rowsToRecordBatch {std : Redis.Std} {unicode : Unicode} {names : List String}
    {rows : List (List (Option String))} {batch : List (String × Column)}
    (h : rowsToRecordBatch std unicode names rows = some batch) : batch.map Prod.fst = names := by
  rw [rowsToRecordBatch] at h
  rw [← List.zipIdx_map_fst 0 names]
  generalize names.zipIdx = fields at h
  induction fields generalizing batch with
  | nil =>
    cases h
    rfl
  | cons field fields ih =>
    rw [List.mapM_cons] at h
    obtain ⟨column, hcolumn, h⟩ := Option.bind_eq_some_iff.mp h
    obtain ⟨columns, hcolumns, h⟩ := Option.bind_eq_some_iff.mp h
    obtain ⟨cells, -, rfl⟩ := Option.map_eq_some_iff.mp hcolumn
    cases h
    rw [List.map_cons, List.map_cons, ih hcolumns]

section

variable {std : Redis.Std} {unicode : Unicode} {panicked : NetError} {lib : Library Unit} {ms : List BackendMessage}
  {query : String} {s s' : Session} {result : QueryResult (List (String × Column))}

lemma result_batches (h : Replies (withColumns std unicode panicked lib) s.incoming ms)
    (hrun : executeSimple (withColumns std unicode panicked lib) query s = (.ok result, s')) :
    ∃ batch, rowsToRecordBatch std unicode (lastColumns [] ms)
        ((described (withColumns std unicode panicked lib) [] ms).map Prod.snd) = some batch ∧
      result.batches = if lastColumns [] ms = [] then [] else [batch] := by
  have hresult := executeSimple_replies h hrun
  obtain ⟨hcolumns, hrows⟩ := foldl_add_empty (withColumns std unicode panicked lib) ms
  have hrecord : ∀ names rows, (withColumns std unicode panicked lib).rowsToRecordBatch names rows =
      (rowsToRecordBatch std unicode names rows).elim (.error panicked) .ok := fun _ _ => rfl
  simp only [Reply.result, hcolumns, hrows] at hresult
  split at hresult
  · cases hresult
  cases hbatch : rowsToRecordBatch std unicode (lastColumns [] ms)
      ((described (withColumns std unicode panicked lib) [] ms).map Prod.snd) with
  | none =>
    rw [hrecord, hbatch] at hresult
    cases hresult
  | some batch =>
    rw [hrecord, hbatch] at hresult
    cases hresult
    refine ⟨batch, rfl, ?_⟩
    have hnames := fst_rowsToRecordBatch hbatch
    by_cases hnone : lastColumns [] ms = []
    · rw [hnone, List.map_eq_nil_iff] at hnames
      subst hnames
      simp [hnone, withColumns]
    · simp [hnone]

end

/-- Every row of the batch is given the columns that were described for it, exactly where all rows are described
alike. -/
theorem rows_and_columns (std : Redis.Std) (unicode : Unicode) (panicked : NetError) (lib : Library Unit)
    (ms : List BackendMessage) (query : String) (s s' : Session) (result : QueryResult (List (String × Column)))
    (h : Replies (withColumns std unicode panicked lib) s.incoming ms)
    (hrun : executeSimple (withColumns std unicode panicked lib) query s = (.ok result, s')) :
    (∀ batch ∈ result.batches, ∀ row ∈ described (withColumns std unicode panicked lib) [] ms,
      batch.map Prod.fst = row.1) ↔
      lastColumns [] ms = [] ∨ ∀ row ∈ described (withColumns std unicode panicked lib) [] ms, row.1 = lastColumns [] ms := by
  obtain ⟨batch, hbatch, hbatches⟩ := result_batches h hrun
  rw [hbatches]
  split_ifs with hnone
  · simp [hnone]
  · simp only [List.mem_singleton, forall_eq, fst_rowsToRecordBatch hbatch, hnone, false_or]
    exact forall₂_congr fun row _ => eq_comm

def columnsLibrary : Library (List (String × Column)) := withColumns noFloats .ascii (.ioError "") sampleLibrary

/-- The column `a`, the column `b` and a row with no value in it, as the server sends them. -/
def describedA : Arrival :=
  .data [0x54, 0, 0, 0, 26, 0, 1, 97, 0, 0, 0, 0, 0, 0, 0, 0, 0, 0, 25, 255, 255, 255, 255, 255, 255, 0, 0]

def describedB : Arrival :=
  .data [0x54, 0, 0, 0, 26, 0, 1, 98, 0, 0, 0, 0, 0, 0, 0, 0, 0, 0, 25, 255, 255, 255, 255, 255, 255, 0, 0]

def nullRow : Arrival := .data [0x44, 0, 0, 0, 10, 0, 1, 255, 255, 255, 255]

def describes (name : String) : BackendMessage := .rowDescription [⟨name, 0, 0, 25, -1, -1, 0⟩]

def answeredWith (incoming : Source) : Session := ⟨⟨Dict.empty, .idle, none⟩, incoming, [.done], [], 0⟩

section

variable {next : Arrival} {incoming : Source} {ms : List BackendMessage}

lemma replies_describedA (h : Replies columnsLibrary (next :: incoming) ms) :
    Replies columnsLibrary (describedA :: nullRow :: next :: incoming) (describes "a" :: .dataRow [none] :: ms) :=
  .more rfl nofun (.more rfl nofun h)

lemma replies_describedB (h : Replies columnsLibrary (next :: incoming) ms) :
    Replies columnsLibrary (describedB :: nullRow :: next :: incoming) (describes "b" :: .dataRow [none] :: ms) :=
  .more rfl nofun (.more rfl nofun h)

lemma executeSimple_answeredWith (query : String) (h : Replies columnsLibrary incoming ms)
    {result : QueryResult (List (String × Column))}
    (hresult : (ms.foldl (Reply.add columnsLibrary) .empty).result columnsLibrary = .ok result) :
    ∃ s', executeSimple columnsLibrary query (answeredWith incoming) = (.ok result, s') := by
  obtain ⟨s', hread⟩ : ∃ s', readReply columnsLibrary .empty ⟨⟨Dict.empty, .idle, none⟩, incoming, [], [query], 0⟩ =
      (.ok (ms.foldl (Reply.add columnsLibrary) .empty), s') :=
    ⟨_, Prod.ext (readReply_replies (s := ⟨_, incoming, _, _, _⟩) h _) rfl⟩
  refine ⟨s', ?_⟩
  simp [executeSimple, Call.bind_apply, Call.get, Call.timeout, executeSimpleInner, writeQuery, answeredWith,
    Written.sent, Call.bind_of_ok hread, hresult]
  rfl

end

theorem rows_and_columns_single : ∃ result s',
    executeSimple columnsLibrary "SELECT a" (answeredWith [describedA, nullRow, readyFrame]) = (.ok result, s') ∧
      result.batches = [[("a", ⟨.utf8, [none]⟩)]] ∧
      ∀ batch ∈ result.batches, ∀ row ∈ described columnsLibrary [] [describes "a", .dataRow [none]],
        batch.map Prod.fst = row.1 := by
  have h := replies_describedA (.ready read_readyFrame)
  obtain ⟨s', hrun⟩ := executeSimple_answeredWith "SELECT a" h rfl
  exact ⟨_, s', hrun, rfl,
    (rows_and_columns noFloats .ascii (.ioError "") sampleLibrary _ _ (answeredWith _) _ _ h hrun).mpr (.inr (by decide))⟩

theorem rows_given_other_columns : ∃ result s',
    executeSimple columnsLibrary "SELECT a; SELECT b"
        (answeredWith [describedA, nullRow, describedB, nullRow, readyFrame]) = (.ok result, s') ∧
      result.batches = [[("b", ⟨.utf8, [none, none]⟩)]] ∧
      described columnsLibrary [] [describes "a", .dataRow [none], describes "b", .dataRow [none]] =
        [(["a"], [none]), (["b"], [none])] := by
  have h := replies_describedA (replies_describedB (.ready read_readyFrame))
  obtain ⟨s', hrun⟩ := executeSimple_answeredWith "SELECT a; SELECT b" h rfl
  exact ⟨_, s', hrun, rfl, rfl⟩

end Voyager.Postgres
