import Voyager.Transaction.UnitOfWork

/-! What a rollback to a savepoint restores, read off the calls that were made of the transaction. -/

namespace Voyager

open Lib List QueryAstArena TransactionCall

@[ext]
structure Contents where
  mutations : List EntityMutation
  nodes : List AstNode

namespace Contents

instance : Preorder Contents where
  le c d := c.mutations <+: d.mutations ∧ c.nodes <+: d.nodes
  le_refl c := ⟨prefix_refl _, prefix_refl _⟩
  le_trans _ _ _ hcd hde := ⟨hcd.1.trans hde.1, hcd.2.trans hde.2⟩

def checkpoint (c : Contents) : CheckpointState := ⟨c.nodes.length, c.mutations.length⟩

end Contents

lemma nodes_rollbackTo (arena : QueryAstArena) (checkpoint : ℕ) :
    (arena.rollbackTo checkpoint).nodes = arena.nodes.take checkpoint := by
  rw [rollbackTo]
  split_ifs with hlen
  · rfl
  · exact (take_of_length_le (Nat.le_of_not_lt hlen)).symm

lemma UnitOfWork.mutations_rollbackTo (uow : UnitOfWork) (arena : QueryAstArena) (checkpoint : CheckpointState) :
    (uow.rollbackTo arena checkpoint).1.mutations = uow.mutations.take checkpoint.mutationCount := by
  rw [rollbackTo]
  split_ifs with hlen
  · rfl
  · exact (take_of_length_le (Nat.le_of_not_lt hlen)).symm

namespace TransactionScope

variable {s : TransactionScope} {name : String}

def contents (s : TransactionScope) : Contents := ⟨s.uow.mutations, s.arena.nodes⟩

def restored (s : TransactionScope) (tx : Transaction) (checkpoint : CheckpointState) : TransactionScope :=
  ⟨tx, (s.uow.rollbackTo s.arena checkpoint).1, (s.uow.rollbackTo s.arena checkpoint).2⟩

lemma contents_restored {c : Contents} (hgrown : c ≤ s.contents) (tx : Transaction) :
    (s.restored tx c.checkpoint).contents = c := by
  ext1
  · exact (UnitOfWork.mutations_rollbackTo _ s.arena _).trans (List.prefix_iff_eq_take.mp hgrown.1).symm
  · exact (nodes_rollbackTo _ _).trans (List.prefix_iff_eq_take.mp hgrown.2).symm

section

variable {earlier later : List Savepoint} {sp : Savepoint}

section

variable (hactive : s.tx.isActive = true)

include hactive

lemma rollbackToSavepoint_none (hnone : ∀ sp ∈ s.tx.savepoints, (sp.name == name) = false) :
    s.rollbackToSavepoint name = (.error (notFound name), s) := by
  simp [rollbackToSavepoint, hactive, rposition_eq_none hnone]

lemma rollbackToSavepoint_latest (hstack : s.tx.savepoints = earlier ++ sp :: later)
    (hname : (sp.name == name) = true) (hlater : ∀ sp ∈ later, (sp.name == name) = false) :
    s.rollbackToSavepoint name =
      (.ok (), s.restored { s.tx with savepoints := earlier ++ [sp] } sp.checkpoint) := by
  obtain ⟨⟨id, state, initial, savepoints⟩, uow, arena⟩ := s
  obtain rfl : savepoints = earlier ++ sp :: later := hstack
  simp only [Transaction.isActive] at hactive
  simp [Transaction.isActive, rollbackToSavepoint, hactive, rposition_append hlater hname, restored, take_append]

lemma releaseSavepoint_none (hnone : ∀ sp ∈ s.tx.savepoints, (sp.name == name) = false) :
    s.releaseSavepoint name = (.error (notFound name), s) := by
  simp [releaseSavepoint, hactive, rposition_eq_none hnone]

lemma releaseSavepoint_latest (hstack : s.tx.savepoints = earlier ++ sp :: later) (hname : (sp.name == name) = true)
    (hlater : ∀ sp ∈ later, (sp.name == name) = false) :
    s.releaseSavepoint name = (.ok (), { s with tx.savepoints := earlier ++ later }) := by
  obtain ⟨⟨id, state, initial, savepoints⟩, uow, arena⟩ := s
  obtain rfl : savepoints = earlier ++ sp :: later := hstack
  simp only [Transaction.isActive] at hactive
  simp [Transaction.isActive, releaseSavepoint, hactive, rposition_append hlater hname, eraseIdx_append_of_length_le]

lemma savepoint_of_active : s.savepoint name =
      (.ok (), { s with tx.savepoints := s.tx.savepoints ++ [⟨name, s.contents.checkpoint⟩] }) := by
  rw [savepoint, hactive]
  rfl

lemma rollback_of_active : s.rollback =
      (.ok (), s.restored { s.tx with state := .rolledBack, savepoints := [] } s.tx.initialCheckpoint) := by
  rw [rollback, hactive]
  rfl

end

end

end TransactionScope

namespace TransactionCall

open TransactionScope

variable {call : TransactionCall} {s : TransactionScope}

lemma run_append (h : call.isAppend = true) :
    (call.run s).1 = .ok () ∧ (call.run s).2.tx = s.tx ∧ s.contents ≤ (call.run s).2.contents := by
  cases call with
  | savepoint | rollbackToSavepoint | releaseSavepoint | commit | rollback => cases h
  | alloc node => exact ⟨rfl, rfl, prefix_refl _, prefix_append _ _⟩
  | _ => exact ⟨rfl, rfl, prefix_append _ _, prefix_refl _⟩

lemma run_inactive (h : call.isAppend = false) (hinactive : s.tx.isActive = false) :
    ∃ e, call.run s = (.error e, s) := by
  cases call with
  | savepoint | rollbackToSavepoint | releaseSavepoint | commit | rollback =>
    simp [run, TransactionScope.savepoint, TransactionScope.rollbackToSavepoint,
      TransactionScope.releaseSavepoint, TransactionScope.commit, TransactionScope.rollback, hinactive]
  | _ => cases h

def live (before : List (String × ℕ)) (moment : ℕ) : TransactionCall → List (String × ℕ)
  | savepoint name => before ++ [(name, moment)]
  | rollbackToSavepoint name =>
    match rposition (fun e => e.1 == name) before with
    | none => before
    | some pos => before.take (pos + 1)
  | releaseSavepoint name =>
    match rposition (fun e => e.1 == name) before with
    | none => before
    | some pos => before.eraseIdx pos
  | commit | rollback => []
  | _ => before

section

variable {before earlier later : List (String × ℕ)} {e : String × ℕ} {name : String} {moment : ℕ}

lemma live_append (h : call.isAppend = true) : call.live before moment = before := by
  cases call with
  | savepoint | rollbackToSavepoint | releaseSavepoint | commit | rollback => cases h
  | _ => rfl

variable (hname : (e.1 == name) = true) (hlater : ∀ e ∈ later, (e.1 == name) = false)

include hname hlater

lemma live_rollbackToSavepoint : (rollbackToSavepoint name).live (earlier ++ e :: later) moment = earlier ++ [e] := by
  simp [live, rposition_append hlater hname, take_append]

lemma live_releaseSavepoint : (releaseSavepoint name).live (earlier ++ e :: later) moment = earlier ++ later := by
  simp [live, rposition_append hlater hname, eraseIdx_append_of_length_le]

end

end TransactionCall

def liveSavepoints (calls : List TransactionCall) : List (String × ℕ) :=
  calls.zipIdx.foldl (fun live call => call.1.live live call.2) []

lemma liveSavepoints_concat (calls : List TransactionCall) (call : TransactionCall) :
    liveSavepoints (calls ++ [call]) = call.live (liveSavepoints calls) calls.length := by
  simp [liveSavepoints, zipIdx_append]

namespace TransactionScope

lemma after_concat (s : TransactionScope) (calls : List TransactionCall) (call : TransactionCall) :
    s.after (calls ++ [call]) = (call.run (s.after calls)).2 := by
  simp [after]

def recorded (past : ℕ → Contents) (live : List (String × ℕ)) : List Savepoint :=
  live.map fun e => ⟨e.1, (past e.2).checkpoint⟩

structure Tracks (past : ℕ → Contents) (s : TransactionScope) (live : List (String × ℕ)) : Prop where
  stack : s.tx.savepoints = recorded past live
  initial : s.tx.initialCheckpoint = (past 0).checkpoint
  nested : Nested (past 0 :: live.map fun e => past e.2) s.contents

section

variable {past : ℕ → Contents} {s : TransactionScope} {live earlier later : List (String × ℕ)} {e : String × ℕ}
  {name : String}

lemma name_recorded (hnone : ∀ e ∈ live, (e.1 == name) = false) :
    ∀ sp ∈ recorded past live, (sp.name == name) = false := by
  intro sp hsp
  obtain ⟨e, he, rfl⟩ := List.mem_map.mp hsp
  exact hnone e he

lemma recorded_append (past : ℕ → Contents) (earlier later : List (String × ℕ)) :
    recorded past (earlier ++ later) = recorded past earlier ++ recorded past later :=
  map_append

namespace Tracks

lemma names (h : Tracks past s live) (hnone : ∀ e ∈ live, (e.1 == name) = false) :
    ∀ sp ∈ s.tx.savepoints, (sp.name == name) = false := by
  rw [h.stack]
  exact name_recorded hnone

lemma split (h : Tracks past s (earlier ++ e :: later)) :
    s.tx.savepoints = recorded past earlier ++ ⟨e.1, (past e.2).checkpoint⟩ :: recorded past later := by
  rw [h.stack, recorded_append]
  rfl

lemma grown (h : Tracks past s (earlier ++ e :: later)) : past e.2 ≤ s.contents :=
  h.nested.le (by simp)

lemma append (h : Tracks past s live) {call : TransactionCall} (hcall : call.isAppend = true) :
    Tracks past (call.run s).2 live := by
  obtain ⟨-, htx, hgrown⟩ := @TransactionCall.run_append call s hcall
  refine ⟨?_, ?_, h.nested.grow hgrown⟩
  · rw [htx, h.stack]
  · rw [htx, h.initial]

lemma savepoint (h : Tracks past s live) {moment : ℕ} (hnow : past moment = s.contents) :
    Tracks past { s with tx.savepoints := s.tx.savepoints ++ [⟨name, s.contents.checkpoint⟩] }
      (live ++ [(name, moment)]) := by
  refine ⟨?_, h.initial, ?_⟩
  · rw [h.stack, recorded_append, ← hnow]
    rfl
  · rw [map_append, ← cons_append, map_singleton, hnow]
    exact h.nested.save

section

variable (h : Tracks past s (earlier ++ e :: later))

include h

lemma rollbackToSavepoint_eq (hactive : s.tx.isActive = true) (hname : (e.1 == name) = true)
    (hlater : ∀ e ∈ later, (e.1 == name) = false) :
    s.rollbackToSavepoint name = (.ok (), s.restored { s.tx with savepoints := recorded past (earlier ++ [e]) }
      (past e.2).checkpoint) := by
  rw [rollbackToSavepoint_latest hactive h.split hname (name_recorded hlater), recorded_append]
  rfl

lemma rollbackToSavepoint :
    Tracks past (s.restored { s.tx with savepoints := recorded past (earlier ++ [e]) } (past e.2).checkpoint)
      (earlier ++ [e]) := by
  refine ⟨rfl, h.initial, ?_⟩
  have hnested := h.nested
  rw [map_append, map_cons, ← cons_append] at hnested
  rw [contents_restored h.grown, map_append, map_singleton, ← cons_append]
  exact hnested.restore

lemma releaseSavepoint :
    Tracks past { s with tx.savepoints := recorded past earlier ++ recorded past later } (earlier ++ later) := by
  refine ⟨(recorded_append _ _ _).symm, h.initial, ?_⟩
  have hnested := h.nested
  rw [map_append, map_cons, ← cons_append] at hnested
  rw [map_append, ← cons_append]
  exact hnested.release

end

lemma step (h : s.tx.isActive = true → Tracks past s live) {moment : ℕ} (hnow : past moment = s.contents)
    (call : TransactionCall) (hafter : (call.run s).2.tx.isActive = true) :
    Tracks past (call.run s).2 (call.live live moment) := by
  cases happend : call.isAppend with
  | true =>
    rw [live_append happend]
    apply append _ happend
    apply h
    rwa [(run_append happend).2.1] at hafter
  | false =>
    have hactive : s.tx.isActive = true := by
      by_contra hinactive
      obtain ⟨e, hrun⟩ := run_inactive happend (Bool.eq_false_iff.mpr hinactive)
      rw [hrun] at hafter
      exact hinactive hafter
    have htracks := h hactive
    cases call with
    | commit =>
      rw [run, commit, hactive] at hafter
      cases hafter
    | rollback =>
      rw [run, rollback_of_active hactive] at hafter
      cases hafter
    | savepoint name =>
      rw [run, savepoint_of_active hactive]
      exact htracks.savepoint hnow
    | rollbackToSavepoint name =>
      rw [run]
      rcases exists_latest (fun e => e.1 == name) live with hnone | ⟨earlier, e, later, rfl, hname, hlater⟩
      · rw [rollbackToSavepoint_none hactive (htracks.names hnone)]
        simpa [TransactionCall.live, rposition_eq_none hnone] using htracks
      · rw [htracks.rollbackToSavepoint_eq hactive hname hlater,
          live_rollbackToSavepoint hname hlater]
        exact htracks.rollbackToSavepoint
    | releaseSavepoint name =>
      rw [run]
      rcases exists_latest (fun e => e.1 == name) live with hnone | ⟨earlier, e, later, rfl, hname, hlater⟩
      · rw [releaseSavepoint_none hactive (htracks.names hnone)]
        simpa [TransactionCall.live, rposition_eq_none hnone] using htracks
      · rw [releaseSavepoint_latest hactive htracks.split hname (name_recorded hlater),
          live_releaseSavepoint hname hlater]
        exact htracks.releaseSavepoint
    | _ => cases happend

end Tracks

end

section

variable (start : TransactionScope) (calls : List TransactionCall)

def contentsAfter (moment : ℕ) : Contents := (start.after (calls.take moment)).contents

variable {start calls}

lemma tracks_take (hstart : Tracks (start.contentsAfter calls) start []) {k : ℕ} (hk : k ≤ calls.length)
    (hactive : (start.after (calls.take k)).tx.isActive = true) :
    Tracks (start.contentsAfter calls) (start.after (calls.take k)) (liveSavepoints (calls.take k)) := by
  induction k with
  | zero => exact hstart
  | succ k ih =>
    have hlength : (calls.take k).length = k := length_take_of_le (by omega)
    rw [take_succ_eq_append_getElem (by omega), after_concat] at hactive
    rw [take_succ_eq_append_getElem (by omega), after_concat, liveSavepoints_concat, hlength]
    exact Tracks.step (ih (by omega)) rfl _ hactive

lemma tracks_after (id : UInt64) (uow : UnitOfWork) (arena : QueryAstArena)
    (hactive : ((new id uow arena).after calls).tx.isActive = true) :
    Tracks ((new id uow arena).contentsAfter calls) ((new id uow arena).after calls) (liveSavepoints calls) := by
  have hstart : Tracks ((new id uow arena).contentsAfter calls) (new id uow arena) [] :=
    ⟨rfl, rfl, (nested_nil _).save⟩
  have htake := tracks_take hstart le_rfl
  rw [take_length] at htake
  exact htake hactive

end

section

variable {past : ℕ → Contents} {s t : TransactionScope} {live : List (String × ℕ)} {name : String}

lemma isActive_of_ok (h : s.rollbackToSavepoint name = (.ok (), t)) : s.tx.isActive = true := by
  by_contra hinactive
  obtain ⟨e, hrun⟩ := @TransactionCall.run_inactive (.rollbackToSavepoint name) s rfl
    (Bool.eq_false_iff.mpr hinactive)
  rw [run, h] at hrun
  cases hrun

lemma Tracks.latest (h : Tracks past s live) (hok : s.rollbackToSavepoint name = (.ok (), t)) :
    ∃ earlier moment later, live = earlier ++ (name, moment) :: later ∧ ∀ e ∈ later, (e.1 == name) = false := by
  rcases exists_latest (fun e => e.1 == name) live with hnone | ⟨earlier, ⟨n, moment⟩, later, rfl, hname, hlater⟩
  · rw [rollbackToSavepoint_none (isActive_of_ok hok) (h.names hnone)] at hok
    cases hok
  · obtain rfl := eq_of_beq hname
    exact ⟨earlier, moment, later, rfl, hlater⟩

lemma Tracks.after_appends (h : Tracks past s live) (more : List TransactionCall)
    (hmore : ∀ call ∈ more, call.isAppend = true) :
    (s.after more).tx = s.tx ∧ Tracks past (s.after more) live := by
  induction more generalizing s with
  | nil => exact ⟨rfl, h⟩
  | cons call more ih =>
    obtain ⟨hcall, hmore⟩ := List.forall_mem_cons.mp hmore
    obtain ⟨htx, htracks⟩ := ih (h.append hcall) hmore
    exact ⟨htx.trans (run_append hcall).2.1, htracks⟩

lemma run_error {call : TransactionCall} {e : String} (h : call.run s = (.error e, t)) : t = s := by
  cases call with
  | savepoint name | commit | rollback =>
    simp only [run, savepoint, commit, rollback] at h
    split at h
    all_goals cases h
    rfl
  | rollbackToSavepoint name | releaseSavepoint name =>
    simp only [run, rollbackToSavepoint, releaseSavepoint] at h
    split at h
    · cases h
      rfl
    · split at h
      all_goals cases h
      rfl
  | _ => cases h

end

end TransactionScope

open TransactionScope in
theorem savepoints_restore (id : UInt64) (uow : UnitOfWork) (arena : QueryAstArena) (calls : List TransactionCall) :
    let start := TransactionScope.new id uow arena
    let s := start.after calls
    (∀ name t, s.rollbackToSavepoint name = (.ok (), t) →
      ∃ earlier moment later, liveSavepoints calls = earlier ++ (name, moment) :: later ∧
        (∀ e ∈ later, e.1 ≠ name) ∧
        t.contents = (start.after (calls.take moment)).contents ∧
        t.tx.savepoints.map Savepoint.name = earlier.map Prod.fst ++ [name] ∧
        liveSavepoints (calls ++ [.rollbackToSavepoint name]) = earlier ++ [(name, moment)] ∧
        ∀ more, (∀ call ∈ more, call.isAppend = true) →
          ∃ u, (t.after more).rollbackToSavepoint name = (.ok (), u) ∧ u.contents = t.contents) ∧
    (∀ call e t, TransactionCall.run s call = (.error e, t) → t = s) ∧
    (s.tx.isActive = true →
      ∃ t, s.rollback = (.ok (), t) ∧ t.contents = start.contents ∧ t.tx.savepoints = []) := by
  intro start s
  refine ⟨?_, fun call e t h => run_error h, ?_⟩
  · intro name t hok
    have hactive := isActive_of_ok hok
    have htracks : Tracks (start.contentsAfter calls) s (liveSavepoints calls) := tracks_after id uow arena hactive
    obtain ⟨earlier, moment, later, hlive, hlater⟩ := htracks.latest hok
    rw [hlive] at htracks
    have hname : (name == name) = true := beq_self_eq_true name
    rw [htracks.rollbackToSavepoint_eq hactive hname hlater] at hok
    cases hok
    refine ⟨earlier, moment, later, hlive, fun e he => ne_of_beq_false (hlater e he), ?_, ?_, ?_, ?_⟩
    · exact contents_restored htracks.grown _
    · simp [restored, recorded]
    · rw [liveSavepoints_concat, hlive, live_rollbackToSavepoint hname hlater]
    · intro more hmore
      have hafter := htracks.rollbackToSavepoint.after_appends more hmore
      obtain ⟨htx, hafter⟩ := hafter
      refine ⟨_, hafter.rollbackToSavepoint_eq (htx ▸ hactive) hname (by simp), ?_⟩
      rw [contents_restored hafter.grown, contents_restored htracks.grown]
  · intro hactive
    have htracks : Tracks (start.contentsAfter calls) s (liveSavepoints calls) := tracks_after id uow arena hactive
    refine ⟨_, rollback_of_active hactive, ?_, rfl⟩
    rw [htracks.initial]
    exact contents_restored (htracks.nested.le mem_cons_self) _

def nestedCalls : List TransactionCall :=
  [.savepoint "outer", .registerDeletedNode 1 [] ⟨[], .nil⟩, .savepoint "inner", .savepoint "outer",
    .registerDeletedNode 2 [] ⟨[], .nil⟩, .releaseSavepoint "inner"]

theorem savepoints_restore_nested :
    ∃ t, ((TransactionScope.new 1 .new ⟨[]⟩).after nestedCalls).rollbackToSavepoint "outer" = (.ok (), t) ∧
      t.contents = ⟨[.deleteNode 1 [] ⟨[], .nil⟩], []⟩ ∧ liveSavepoints nestedCalls = [("outer", 0), ("outer", 3)] := by
  refine ⟨_, rfl, ?_, by decide⟩
  obtain ⟨earlier, moment, later, hlive, hlater, hcontents, -⟩ :=
    (savepoints_restore 1 .new ⟨[]⟩ nestedCalls).1 "outer" _ rfl
  have hsplit : [("outer", 0), ("outer", 3)] = earlier ++ ("outer", moment) :: later :=
    (by decide : [("outer", 0), ("outer", 3)] = liveSavepoints nestedCalls).trans hlive
  rw [hcontents]
  rcases earlier with _ | ⟨first, _ | ⟨second, rest⟩⟩
  · obtain ⟨-, rfl⟩ := List.cons.inj hsplit
    exact absurd rfl (hlater _ mem_cons_self)
  · cases hsplit
    rfl
  · simp at hsplit

end Voyager
