import Voyager.Session.PendingEdits

/-! A flush that runs next to other tasks. All records are made before the first of them is sent; at every
point where the flush waits for the database, fields may be assigned. -/

namespace Voyager

open Lib List

variable {V D : Type} (hydrate : Model → String → V → Option V) (serialize : V → D)

inductive Instr (D : Type)
  | send (records : List (NodeRef × Record D))
  | clear (refs : List NodeRef)

structure Assignment (V : Type) where
  ref : NodeRef
  name : String
  value : Option V

/-- A flush under way, with the assignments made since it began that no record sent after them has. -/
structure Flushing (V D : Type) where
  session : Session V
  rest : List (Instr D)
  unsent : List (Assignment V)

namespace Session

def flushProgram (s : Session V) (keyField : String) : List (Instr D) :=
  if !s.enableIdentityMap then []
  else s.dirtyByModel.entries.flatMap fun group =>
    (chunkRecords 50000 (group.2.map fun ref => (ref, (s.nodes ref).record serialize keyField))).map .send ++
      [.clear group.2]

end Session

inductive Turn (V : Type)
  | next
  | assign (a : Assignment V)

namespace Flushing

def start (s : Session V) (keyField : String) : Flushing V D := ⟨s, s.flushProgram serialize keyField, []⟩

variable [DecidableEq D]

def sentValue (s : Session V) (a : Assignment V) : Option D :=
  (hydrateFieldValue hydrate (s.nodes a.ref).model a.name a.value).map serialize

def carries (s : Session V) (records : List (NodeRef × Record D)) (a : Assignment V) : Bool :=
  records.any fun r => r.1 = a.ref ∧ r.2.get? a.name = some (sentValue hydrate serialize s a)

def step (f : Flushing V D) : Turn V → Flushing V D
  | .next =>
    match f.rest with
    | [] => f
    | .send records :: rest =>
      { f with rest := rest, unsent := f.unsent.filter fun a => !carries hydrate serialize f.session records a }
    | .clear refs :: rest => { f with session := f.session.clearAll refs, rest := rest }
  | .assign a =>
    { f with
      session := f.session.setattr hydrate a.ref a.name a.value
      unsent := if a.name.toList.head? = some '_' then f.unsent else a :: f.unsent }

def Covered (f : Flushing V D) (a : Assignment V) : Prop :=
  (∀ refs, .clear refs ∈ f.rest → a.ref ∉ refs) ∨
    ∃ records, .send records ∈ f.rest ∧ carries hydrate serialize f.session records a

def SafeStep (f f' : Flushing V D) : Prop :=
  ∃ turn, (∀ a, turn = .assign a → f.Covered hydrate serialize a) ∧ f' = f.step hydrate serialize turn

def Kept (f : Flushing V D) : Prop :=
  ∀ a ∈ f.unsent,
    ((∀ refs, .clear refs ∈ f.rest → a.ref ∉ refs) ∧ ((f.session.nodes a.ref).dirty.get? a.name).isSome) ∨
      ∃ records, .send records ∈ f.rest ∧ carries hydrate serialize f.session records a

end Flushing

section

def Instr.records : Instr D → List (List (Record D))
  | .send records => [records.map Prod.snd]
  | .clear _ => []

lemma chunkRecords_map {α β : Type} (f : α → β) (size : ℕ) (xs : List α) :
    chunkRecords size (xs.map f) = (chunkRecords size xs).map (List.map f) := by
  simp [chunkRecords, map_drop, map_take]

lemma Session.records_flushProgram (lower : String → String) (s : Session V) (keyField : String) :
    (s.flushProgram serialize keyField).flatMap Instr.records =
      (s.prepareFlushBatches serialize lower keyField).flatMap fun batch => batch.2.2.batches := by
  unfold flushProgram prepareFlushBatches
  split
  · rfl
  · simp only [flatMap_assoc, flatMap_map, flatMap_append, flatMap_singleton, Instr.records,
      append_nil, createBulkMergePlan]
    congr 1
    funext group
    rw [← map_eq_flatMap, ← chunkRecords_map, map_map]
    rfl

namespace Session

variable (s : Session V)

lemma model_setattr (ref other : NodeRef) (name : String) (value : Option V) :
    ((s.setattr hydrate ref name value).nodes other).model = (s.nodes other).model := by
  rw [setattr, nodes_update]
  split
  · next h => rw [Node.model_setattr, h]
  · rfl

lemma clearAll_nodes (refs : List NodeRef) (other : NodeRef) :
    ((s.clearAll refs).nodes other).model = (s.nodes other).model ∧
      (other ∉ refs → (s.clearAll refs).nodes other = s.nodes other) := by
  induction refs generalizing s with
  | nil => exact ⟨rfl, fun _ => rfl⟩
  | cons ref refs ih =>
    obtain ⟨hmodel, hother⟩ := ih (s.clearDirty ref)
    have hnode : (s.clearDirty ref).nodes other =
        if other = ref then (s.nodes ref).clearDirty else s.nodes other := nodes_update _ _ _ _
    refine ⟨hmodel.trans ?_, fun hnot => ?_⟩
    · rw [hnode]
      split
      · next h => rw [h]; rfl
      · rfl
    · rw [mem_cons, not_or] at hnot
      exact (hother hnot.2).trans (by rw [hnode, if_neg hnot.1])

end Session

variable [DecidableEq D]

lemma iterate_next (program : List (Instr D)) (s : Session V) :
    (Flushing.step hydrate serialize · .next)^[program.length] ⟨s, program, []⟩ =
      ⟨program.foldl (fun s i => match i with | .send _ => s | .clear refs => s.clearAll refs) s, [], []⟩ := by
  induction program generalizing s with
  | nil => rfl
  | cons i program ih => cases i <;> exact ih _

theorem Flushing.undisturbed (lower : String → String) (s : Session V) (keyField : String) :
    (∀ g s' g', s.flush serialize lower keyField g = .ok (s', g') →
      (step hydrate serialize · .next)^[(s.flushProgram serialize keyField).length] (start serialize s keyField) =
        ⟨s', [], []⟩) ∧
      (s.flushProgram serialize keyField).flatMap Instr.records =
        (s.prepareFlushBatches serialize lower keyField).flatMap fun batch => batch.2.2.batches := by
  refine ⟨fun g s' g' h => ?_, s.records_flushProgram ..⟩
  rw [start, iterate_next, Session.flush_eq_flushed h, Session.flushed, Session.flushProgram]
  split
  · rfl
  · simp [foldl_flatMap, foldl_map]

end

namespace Flushing

variable {hydrate serialize} [DecidableEq D] {f : Flushing V D}

lemma carries_congr {s s' : Session V} {a : Assignment V} (h : (s'.nodes a.ref).model = (s.nodes a.ref).model)
    (records : List (NodeRef × Record D)) :
    carries hydrate serialize s' records a = carries hydrate serialize s records a := by
  have hvalue : sentValue hydrate serialize s' a = sentValue hydrate serialize s a := by
    rw [sentValue, sentValue, h]
  rw [carries, hvalue, carries]

lemma Kept.assign (h : f.Kept hydrate serialize) {a : Assignment V} (hcovered : f.Covered hydrate serialize a) :
    (f.step hydrate serialize (.assign a)).Kept hydrate serialize := by
  have hmodel := f.session.model_setattr hydrate a.ref
  intro b hb
  have hcarry : ∀ records, carries hydrate serialize (f.session.setattr hydrate a.ref a.name a.value) records b =
      carries hydrate serialize f.session records b := carries_congr (hmodel b.ref a.name a.value)
  have hdirty : ((f.session.nodes b.ref).dirty.get? b.name).isSome →
      (((f.session.setattr hydrate a.ref a.name a.value).nodes b.ref).dirty.get? b.name).isSome := by
    intro hsome
    rw [Session.setattr, Session.nodes_update]
    split
    · next hb =>
      rw [Node.get?_dirty_setattr, ← hb]
      split
      · rfl
      · exact hsome
    · exact hsome
  simp only [step] at hb ⊢
  simp only [hcarry]
  by_cases hname : a.name.toList.head? = some '_'
  · rw [if_pos hname] at hb
    exact (h b hb).imp (fun hkeep => ⟨hkeep.1, hdirty hkeep.2⟩) id
  · rw [if_neg hname, mem_cons] at hb
    obtain rfl | hold := hb
    · refine hcovered.imp (fun hclear => ⟨hclear, ?_⟩) id
      rw [Session.setattr, Session.nodes_update, if_pos rfl, Node.get?_dirty_setattr, if_pos ⟨hname, rfl⟩]
      rfl
    · exact (h b hold).imp (fun hkeep => ⟨hkeep.1, hdirty hkeep.2⟩) id

lemma Kept.next (h : f.Kept hydrate serialize) : (f.step hydrate serialize .next).Kept hydrate serialize := by
  obtain ⟨session, rest, unsent⟩ := f
  cases rest with
  | nil => exact h
  | cons instr rest =>
    cases instr with
    | send records =>
      intro a ha
      obtain ⟨hmem, hnot⟩ := List.mem_filter.mp ha
      obtain ⟨hclear, hdirty⟩ | ⟨later, hlater, hcarries⟩ := h a hmem
      · exact .inl ⟨fun refs hrefs => hclear refs (mem_cons_of_mem _ hrefs), hdirty⟩
      · obtain heq | htail := List.mem_cons.mp hlater
        · obtain rfl := Instr.send.inj heq
          simp [hcarries] at hnot
        · exact .inr ⟨later, htail, hcarries⟩
    | clear refs =>
      intro a ha
      obtain ⟨hmodel, hother⟩ := session.clearAll_nodes refs a.ref
      obtain ⟨hclear, hdirty⟩ | ⟨later, hlater, hcarries⟩ := h a ha
      · refine .inl ⟨fun refs hrefs => hclear refs (mem_cons_of_mem _ hrefs), ?_⟩
        simpa [step, hother (hclear refs mem_cons_self)] using hdirty
      · refine .inr ⟨later, by simpa [step] using hlater, ?_⟩
        simpa [step, carries_congr hmodel] using hcarries

end Flushing

theorem assignments_sent_or_dirty [DecidableEq D] {hydrate : Model → String → V → Option V} {serialize : V → D}
    {s : Session V} {keyField : String} {f : Flushing V D}
    (hrun : Relation.ReflTransGen (Flushing.SafeStep hydrate serialize) (Flushing.start serialize s keyField) f)
    (hreturn : f.rest = []) :
    ∀ a ∈ f.unsent, ((f.session.nodes a.ref).dirty.get? a.name).isSome := by
  have hkept : f.Kept hydrate serialize := by
    clear hreturn
    induction hrun with
    | refl => exact fun a ha => absurd ha not_mem_nil
    | tail _ hstep ih =>
      obtain ⟨turn, hsafe, rfl⟩ := hstep
      cases turn with
      | next => exact ih.next
      | assign a => exact ih.assign (hsafe a rfl)
  intro a ha
  obtain ⟨-, hdirty⟩ | ⟨records, hsend, -⟩ := hkept a ha
  · exact hdirty
  · rw [hreturn] at hsend
    exact absurd hsend not_mem_nil

namespace Flushing

def couple : Session String :=
  ⟨true, (Dict.empty.set (Session.person, "1") 0).set (Session.person, "2") 1,
    fun ref => if ref = 0 then Session.ann else Session.ann.clearDirty⟩

def afterTurns (turns : List (Turn String)) : Flushing String String :=
  turns.foldl (fun f turn => f.step (fun _ _ v => some v) id turn) (start id couple "id")

end Flushing

theorem assignments_sent_or_dirty_couple :
    (((Flushing.afterTurns [.next, .assign ⟨1, "name", some "Eve"⟩, .next]).session.nodes 1).dirty.get?
      "name").isSome := by
  have hnext (f : Flushing String String) :
      Flushing.SafeStep (fun _ _ v => some v) id f (f.step (fun _ _ v => some v) id .next) :=
    ⟨.next, (fun _ h => by cases h), rfl⟩
  have hassign : Flushing.SafeStep (fun _ _ v => some v) id (Flushing.afterTurns [.next])
      (Flushing.afterTurns [.next, .assign ⟨1, "name", some "Eve"⟩]) := by
    refine ⟨.assign ⟨1, "name", some "Eve"⟩, fun a ha => .inl fun refs hrefs => ?_, rfl⟩
    obtain rfl := Turn.assign.inj ha
    obtain rfl := Instr.clear.inj (List.mem_singleton.mp hrefs)
    decide
  have hfirst : Flushing.SafeStep (fun _ _ v => some v) id (Flushing.start id Flushing.couple "id")
      (Flushing.afterTurns [.next]) := hnext _
  have hrun := ((Relation.ReflTransGen.single hfirst).tail hassign).tail (hnext _)
  exact assignments_sent_or_dirty hrun rfl ⟨1, "name", some "Eve"⟩ (List.mem_singleton.mpr rfl)

theorem assignment_during_await_lost :
    (Flushing.afterTurns [.next, .assign ⟨0, "name", some "Eve"⟩, .next]).rest = [] ∧
      (Flushing.afterTurns [.next, .assign ⟨0, "name", some "Eve"⟩, .next]).unsent =
        [⟨0, "name", some "Eve"⟩] ∧
      ((Flushing.afterTurns [.next, .assign ⟨0, "name", some "Eve"⟩, .next]).session.nodes 0).dirty.get?
        "name" = none := by
  exact ⟨rfl, rfl, rfl⟩

end Voyager
