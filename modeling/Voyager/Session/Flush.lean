import Voyager.Session.BulkMerge

namespace Voyager

open Lib List Option

inductive Command
  | flush
  | save (ref : NodeRef)

structure Write (D : Type) where
  label : String
  properties : List String
  row : Record D

namespace Session

variable {V D : Type} [DecidableEq D] (serialize : V → D) (lower : String → String)

variable (s : Session V)

def clearAll (refs : List NodeRef) : Session V := refs.foldl clearDirty s

def flush (keyField : String) (g : Graph D) : Except DbError (Session V × Graph D) :=
  (s.prepareFlushBatches serialize lower keyField).foldlM (fun state batch => do
    let g ← runBulk batch.2.2 state.2
    pure (state.1.clearAll batch.2.1, g)) (s, g)

def save (ref : NodeRef) (keyField : String) (g : Graph D) : Except DbError (Session V × Graph D) :=
  if (s.nodes ref).dirty.isEmpty then pure (s, g)
  else do
    let record := (s.nodes ref).record serialize keyField
    let g ← runBulk (createBulkMergePlan lower (s.nodes ref).model keyField [record]) g
    pure (s.clearDirty ref, g)

def persist (keyField : String) (g : Graph D) : Command → Except DbError (Session V × Graph D)
  | .flush => s.flush serialize lower keyField g
  | .save ref => s.save serialize lower ref keyField g

def sentWith : Command → Model → List NodeRef
  | .flush, model => (s.dirtyByModel.get? model).getD []
  | .save ref, _ => [ref]

def sent : Command → List NodeRef
  | .flush => if s.enableIdentityMap then s.dirtyByModel.entries.flatMap Prod.snd else []
  | .save ref => if (s.nodes ref).dirty.isEmpty then [] else [ref]

def assigned (command : Command) (keyField : String) (model : Model) : List String :=
  mergeProperties model keyField
    (chunkRecords 50000 ((s.sentWith command model).map fun ref => (s.nodes ref).record serialize keyField))

def write (command : Command) (keyField : String) (ref : NodeRef) : Write D where
  label := (s.nodes ref).model.label
  properties := s.assigned serialize command keyField (s.nodes ref).model
  row := (s.nodes ref).record serialize keyField

def writes (command : Command) (keyField : String) : List (Write D) :=
  (s.sent command).map (s.write serialize command keyField)

end Session

section

variable {D : Type} [DecidableEq D] (keyField : String)

def Write.run (w : Write D) (g : Graph D) : Except DbError (Graph D) :=
  mergeRow w.label keyField w.properties g w.row

def Write.addresses (w : Write D) (n : DbNode D) : Bool :=
  match (w.row.get? keyField).join with
  | some key => n.matches_ w.label [(keyField, key)]
  | none => false

def lastWrite (ws : List (Write D)) (n : DbNode D) (name : String) : Option (Write D) :=
  ws.reverse.find? fun w => w.addresses keyField n && decide (name ∈ w.properties)

variable {keyField}

variable {g g' : Graph D}

lemma run_getElem? {w : Write D} (h : w.run keyField g = .ok g') {i : ℕ} {n : DbNode D} (hn : g[i]? = some n) :
    g'[i]? = some (if w.addresses keyField n then n.assignAll w.properties w.row else n) := by
  rw [Write.run, mergeRow] at h
  cases hkey : (w.row.get? keyField).join with
  | none => simp [hkey] at h
  | some key =>
    have haddr : w.addresses keyField n = n.matches_ w.label [(keyField, key)] := by
      simp [Write.addresses, hkey]
    simp only [hkey] at h
    rw [haddr]
    split at h
    · obtain rfl := Except.ok.inj h
      rw [getElem?_map, hn, map_some]
    · next hany =>
      obtain rfl := Except.ok.inj h
      have hmiss : ¬ n.matches_ w.label [(keyField, key)] = true := fun hm =>
        hany (List.any_eq_true.mpr ⟨n, mem_of_getElem? hn, hm⟩)
      rw [if_neg hmiss, getElem?_append_left (List.getElem?_eq_some_iff.mp hn).1, hn]

lemma addresses_assignAll (w : Write D) {props : List String} (h : keyField ∉ props) (row : Record D)
    (n : DbNode D) : w.addresses keyField (n.assignAll props row) = w.addresses keyField n := by
  have hkey : (n.assignAll props row).props keyField = n.props keyField := if_neg h
  unfold Write.addresses
  split
  · simp only [DbNode.matches_, all_cons, hkey]
    rfl
  · rfl

lemma lastWrite_cons (w : Write D) (ws : List (Write D)) (n : DbNode D) (name : String) :
    lastWrite keyField (w :: ws) n name =
      (lastWrite keyField ws n name).or
        (if w.addresses keyField n && decide (name ∈ w.properties) then some w else none) := by
  simp [lastWrite, find?_append, find?_singleton]

lemma foldlM_run {ws : List (Write D)} (hws : ∀ w ∈ ws, keyField ∉ w.properties)
    (h : ws.foldlM (fun g w => w.run keyField g) g = .ok g') {i : ℕ} {n : DbNode D} (hn : g[i]? = some n) :
    ∃ n', g'[i]? = some n' ∧ ∀ name, n'.props name =
      match lastWrite keyField ws n name with
      | some w => (w.row.get? name).join
      | none => n.props name := by
  induction ws generalizing g n with
  | nil =>
    obtain rfl := Except.ok.inj h
    exact ⟨n, hn, fun _ => rfl⟩
  | cons w ws ih =>
    rw [foldlM_cons] at h
    cases hw : w.run keyField g with
    | error e =>
      rw [hw] at h
      cases h
    | ok mid =>
      rw [hw] at h
      obtain ⟨n', hn', hprops⟩ := ih (fun w hw => hws w (by simp [hw])) h (run_getElem? hw hn)
      refine ⟨n', hn', fun name => ?_⟩
      have hlast : lastWrite keyField ws (if w.addresses keyField n then n.assignAll w.properties w.row else n)
          name = lastWrite keyField ws n name := by
        split
        · simp only [lastWrite, addresses_assignAll _ (hws w (by simp))]
        · rfl
      rw [hprops, hlast, lastWrite_cons]
      cases lastWrite keyField ws n name with
      | some v => simp
      | none => by_cases haddr : w.addresses keyField n <;> by_cases hmem : name ∈ w.properties <;>
          simp [haddr, hmem, DbNode.assignAll]

end

namespace Session

variable {V D : Type} [DecidableEq D] {serialize : V → D} {lower : String → String}

lemma dirtyByModel_eq (s : Session V) :
    s.dirtyByModel = ((s.identityMap.entries.filter fun e => !(s.nodes e.2).dirty.isEmpty).map Prod.snd).foldl
      (fun groups ref => groups.push (s.nodes ref).model ref) Dict.empty := by
  rw [foldl_map, foldl_filter, dirtyByModel]
  congr 1
  funext groups e
  cases (s.nodes e.2).dirty.isEmpty <;> rfl

lemma get?_dirtyByModel {s : Session V} {model : Model} {refs : List NodeRef}
    (h : s.dirtyByModel.get? model = some refs) : ∀ ref ∈ refs, (s.nodes ref).model = model := by
  rw [dirtyByModel_eq, Dict.get?_foldl_push] at h
  split at h
  · simp at h
  · obtain rfl := Option.some.inj h
    intro ref href
    rw [Dict.get?_empty, getD_none, nil_append] at href
    simpa using (List.mem_filter.mp href).2

omit [DecidableEq D] in
lemma keyField_notMem_assigned (s : Session V) (command : Command) (keyField : String) (model : Model) :
    keyField ∉ s.assigned serialize command keyField model := by
  unfold assigned mergeProperties
  simp only
  split
  · split <;> simp
  · simp

lemma runBulk_group (s : Session V) (keyField : String) {model : Model} {refs : List NodeRef}
    (h : s.dirtyByModel.get? model = some refs) (g : Graph D) :
    runBulk (createBulkMergePlan lower model keyField
        (refs.map fun ref => (s.nodes ref).record serialize keyField)) g =
      (refs.map (s.write serialize .flush keyField)).foldlM (fun g w => w.run keyField g) g := by
  have hassigned : mergeProperties model keyField
      (chunkRecords 50000 (refs.map fun ref => (s.nodes ref).record serialize keyField)) =
        s.assigned serialize .flush keyField model := by
    rw [assigned, sentWith, h, getD_some]
  have hwrites : refs.map (s.write serialize .flush keyField) =
      refs.map fun ref => ⟨model.label, s.assigned serialize .flush keyField model,
        (s.nodes ref).record serialize keyField⟩ :=
    map_congr_left fun ref href => by rw [write, get?_dirtyByModel h ref href]
  rw [runBulk_createBulkMergePlan, hassigned, hwrites, List.foldlM_map, List.foldlM_map]
  rfl

variable {keyField : String} {s s' : Session V} {g g' : Graph D}

lemma groups_run {t t' : Session V} {groups : List (Model × List NodeRef)}
    (hgroups : ∀ group ∈ groups, s.dirtyByModel.get? group.1 = some group.2)
    (h : groups.foldlM (fun state group => do
      let g ← runBulk (createBulkMergePlan lower group.1 keyField
        (group.2.map fun ref => (s.nodes ref).record serialize keyField)) state.2
      pure (state.1.clearAll group.2, g)) (t, g) = .ok (t', g')) :
    ((groups.flatMap Prod.snd).map (s.write serialize .flush keyField)).foldlM
      (fun g w => w.run keyField g) g = .ok g' := by
  induction groups generalizing t g with
  | nil =>
    cases h
    rfl
  | cons group groups ih =>
    rw [foldlM_cons, runBulk_group s keyField (hgroups group (by simp))] at h
    rw [flatMap_cons, map_append, foldlM_append]
    cases hg : (group.2.map (s.write serialize .flush keyField)).foldlM (fun g w => w.run keyField g) g with
    | error e =>
      rw [hg] at h
      cases h
    | ok mid =>
      rw [hg] at h
      exact ih (fun other hmem => hgroups other (by simp [hmem])) h

lemma flush_run (h : s.flush serialize lower keyField g = .ok (s', g')) :
    (s.writes serialize .flush keyField).foldlM (fun g w => w.run keyField g) g = .ok g' := by
  rw [flush, prepareFlushBatches] at h
  cases hmap : s.enableIdentityMap with
  | false =>
    rw [hmap] at h
    cases h
    simp [writes, sent, hmap, pure, Except.pure]
  | true =>
    rw [hmap, Bool.not_true, if_neg (by simp), List.foldlM_map] at h
    rw [writes, sent, if_pos hmap]
    exact groups_run (fun group hmem => Dict.get?_eq_some.mpr hmem) h

lemma save_run {ref : NodeRef} (h : s.save serialize lower ref keyField g = .ok (s', g')) :
    (s.writes serialize (.save ref) keyField).foldlM (fun g w => w.run keyField g) g = .ok g' := by
  rw [save] at h
  split at h
  · next hclean =>
    cases h
    simp [writes, sent, hclean, pure, Except.pure]
  · next hdirty =>
    rw [writes, sent, if_neg hdirty]
    simp only at h
    cases hrun : runBulk (createBulkMergePlan lower (s.nodes ref).model keyField
        [(s.nodes ref).record serialize keyField]) g with
    | error e =>
      rw [hrun] at h
      cases h
    | ok mid =>
      rw [hrun] at h
      cases h
      rw [runBulk_createBulkMergePlan] at hrun
      exact hrun

lemma persist_run {command : Command} (h : s.persist serialize lower keyField g command = .ok (s', g')) :
    (s.writes serialize command keyField).foldlM (fun g w => w.run keyField g) g = .ok g' := by
  cases command with
  | flush => exact flush_run h
  | save ref => exact save_run h

end Session

end Voyager
