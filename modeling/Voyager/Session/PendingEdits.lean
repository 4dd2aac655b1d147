import Voyager.Session.FlushFrame

/-! Runs of a session: registrations, assignments and flushes, and the edits that are still to be sent. -/

namespace Voyager

open Lib List Option Dict

variable {V D : Type} [DecidableEq V] (hydrate : Model → String → V → Option V)

namespace Session

def Tracked (s : Session V) (ref : NodeRef) : Prop := ref ∈ s.identityMap.entries.map Prod.snd

instance (s : Session V) (ref : NodeRef) : Decidable (s.Tracked ref) := by unfold Tracked; infer_instance

def mergeTarget (s : Session V) (ref : NodeRef) (keyField : String) : Option NodeRef :=
  if !s.enableIdentityMap then none
  else ((s.nodes ref).get keyField).bind fun keyVal =>
    (s.identityMap.get? ((s.nodes ref).model, keyVal)).filter (· ≠ ref)

def flushed (s : Session V) : Session V :=
  if !s.enableIdentityMap then s else s.dirtyByModel.entries.foldl (fun t group => t.clearAll group.2) s

end Session

open Session

inductive Action (V : Type)
  | register (ref : NodeRef) (keyField : String) (isClean : Bool)
  | assign (ref : NodeRef) (name : String) (value : Option V)
  | flush (keyField : String)

/-- A session with, for every field, the value last assigned to it on a tracked instance since the flush. -/
structure Tracking (V : Type) where
  session : Session V
  pending : NodeRef → String → Option (Option V)

namespace Tracking

variable (t : Tracking V)

def assign (ref : NodeRef) (name : String) (value : Option V) : Tracking V where
  session := t.session.setattr hydrate ref name value
  pending :=
    if t.session.Tracked ref ∧ name.toList.head? ≠ some '_' then
      Function.update t.pending ref (Function.update (t.pending ref) name (some value))
    else t.pending

def register (ref : NodeRef) (keyField : String) (isClean : Bool) : Tracking V where
  session := (t.session.register hydrate ref keyField isClean).1
  pending :=
    match t.session.mergeTarget ref keyField with
    | none => t.pending
    | some existing =>
      let cleaned := t.session.cleaned ref isClean
      ((cleaned.nodes ref).dirty.entries.foldl (fun (t : Tracking V) e => t.assign hydrate existing e.1 e.2)
        ⟨cleaned, t.pending⟩).pending

def step : Action V → Tracking V
  | .register ref keyField isClean => t.register hydrate ref keyField isClean
  | .assign ref name value => t.assign hydrate ref name value
  | .flush _ => ⟨t.session.flushed, fun _ _ => none⟩

def Safe : Action V → Prop
  | .register ref keyField true =>
    t.session.enableIdentityMap = true →
      (∀ name, t.pending ref name = none) ∧
        ∀ existing ∈ t.session.mergeTarget ref keyField, ∀ name, t.pending existing name = none
  | _ => True

def SafeStep (t t' : Tracking V) : Prop := ∃ action, t.Safe action ∧ t' = t.step hydrate action

/-- The record that a flush now sends for the instance has this value for the field. -/
def Sends (serialize : V → D) (lower : String → String) (s : Session V) (keyField : String) (ref : NodeRef)
    (name : String) (value : Option D) : Prop :=
  ∃ batch ∈ s.prepareFlushBatches serialize lower keyField, ∃ (i : ℕ) (record : Record D),
    batch.2.1[i]? = some ref ∧ batch.2.2.batches.flatten[i]? = some record ∧ record.get? name = some value

end Tracking

open Tracking

section

omit [DecidableEq V]

lemma Node.model_setattr (n : Node V) (name : String) (value : Option V) :
    (n.setattr hydrate name value).model = n.model := by
  unfold Node.setattr
  split <;> rfl

lemma Node.get?_dirty_setattr (n : Node V) (name other : String) (value : Option V) :
    (n.setattr hydrate name value).dirty.get? other =
      if name.toList.head? ≠ some '_' ∧ other = name then some (hydrateFieldValue hydrate n.model name value)
      else n.dirty.get? other := by
  unfold Node.setattr
  split
  · next h => simp [h]
  · next h => simp [h, get?_set]

namespace Session

variable (s : Session V)

@[simp] lemma identityMap_update (ref : NodeRef) (f : Node V → Node V) :
    (s.update ref f).identityMap = s.identityMap := rfl

@[simp] lemma enableIdentityMap_update (ref : NodeRef) (f : Node V → Node V) :
    (s.update ref f).enableIdentityMap = s.enableIdentityMap := rfl

lemma nodes_update (ref other : NodeRef) (f : Node V → Node V) :
    (s.update ref f).nodes other = if other = ref then f (s.nodes ref) else s.nodes other := by
  simp only [update, Function.update_apply]

lemma clearAll_unchanged (refs : List NodeRef) : (s.clearAll refs).identityMap = s.identityMap ∧
      (s.clearAll refs).enableIdentityMap = s.enableIdentityMap := by
  induction refs generalizing s with
  | nil => exact ⟨rfl, rfl⟩
  | cons ref refs ih => exact ih (s.clearDirty ref)

lemma flushed_unchanged :
    s.flushed.identityMap = s.identityMap ∧ s.flushed.enableIdentityMap = s.enableIdentityMap := by
  have hgroups : ∀ (groups : List (Model × List NodeRef)) (t : Session V),
      (groups.foldl (fun t group => t.clearAll group.2) t).identityMap = t.identityMap ∧
        (groups.foldl (fun t group => t.clearAll group.2) t).enableIdentityMap = t.enableIdentityMap := by
    intro groups
    induction groups with
    | nil => exact fun t => ⟨rfl, rfl⟩
    | cons group groups ih =>
      intro t
      obtain ⟨hmap, henabled⟩ := t.clearAll_unchanged group.2
      rw [foldl_cons, (ih _).1, (ih _).2, hmap, henabled]
      exact ⟨rfl, rfl⟩
  unfold flushed
  split
  · exact ⟨rfl, rfl⟩
  · exact hgroups _ s

end Session

end

lemma Session.tracked_iff {s : Session V} {ref : NodeRef} :
    s.Tracked ref ↔ ∃ key, s.identityMap.get? key = some ref := by
  rw [Tracked, List.mem_map]
  constructor
  · rintro ⟨⟨key, ref⟩, hmem, rfl⟩
    exact ⟨key, get?_eq_some.mpr hmem⟩
  · rintro ⟨key, hkey⟩
    exact ⟨(key, ref), get?_eq_some.mp hkey, rfl⟩

section

variable (s : Session V) (ref : NodeRef) (isClean : Bool)

omit [DecidableEq V]

lemma Session.identityMap_cleaned : (s.cleaned ref isClean).identityMap = s.identityMap := by
  cases isClean <;> rfl

lemma Session.enableIdentityMap_cleaned : (s.cleaned ref isClean).enableIdentityMap = s.enableIdentityMap := by
  cases isClean <;> rfl

lemma Session.get_cleaned (keyField : String) :
    ((s.cleaned ref isClean).nodes ref).get keyField = (s.nodes ref).get keyField := by
  cases isClean with
  | false => rfl
  | true => rw [cleaned, if_pos rfl, clearDirty, nodes_update, if_pos rfl]; rfl

lemma Session.model_cleaned : ((s.cleaned ref isClean).nodes ref).model = (s.nodes ref).model := by
  cases isClean with
  | false => rfl
  | true => rw [cleaned, if_pos rfl, clearDirty, nodes_update, if_pos rfl]; rfl

end

omit [DecidableEq V] in
lemma Session.flush_eq_flushed [DecidableEq D] {serialize : V → D} {lower : String → String} {s s' : Session V}
    {keyField : String} {g g' : Graph D} (h : s.flush serialize lower keyField g = .ok (s', g')) :
    s' = s.flushed := by
  have hgroups : ∀ (groups : List (Model × List NodeRef)) (t : Session V) (g : Graph D),
      groups.foldlM (fun state group => do
        let g ← runBulk (createBulkMergePlan lower group.1 keyField
          (group.2.map fun ref => (s.nodes ref).record serialize keyField)) state.2
        pure (state.1.clearAll group.2, g)) (t, g) = Except.ok (s', g') →
      s' = groups.foldl (fun t group => t.clearAll group.2) t := by
    intro groups
    induction groups with
    | nil =>
      intro t g h
      cases h
      rfl
    | cons group groups ih =>
      intro t g h
      rw [foldlM_cons] at h
      cases hrun : runBulk (createBulkMergePlan lower group.1 keyField
          (group.2.map fun ref => (s.nodes ref).record serialize keyField)) g with
      | error e =>
        rw [hrun] at h
        cases h
      | ok mid =>
        rw [hrun] at h
        exact ih _ mid h
  rw [flush, prepareFlushBatches] at h
  unfold flushed
  split at h
  · next hoff =>
    cases h
    rw [if_pos hoff]
  · next hon =>
    rw [foldlM_map] at h
    rw [if_neg hon]
    exact hgroups _ s g h

namespace Tracking

structure Kept (t : Tracking V) : Prop where
  enabled : ∀ ref, t.session.Tracked ref → t.session.enableIdentityMap = true
  dirty : ∀ ref name value, t.pending ref name = some value → t.session.Tracked ref ∧
    (t.session.nodes ref).dirty.get? name =
      some (hydrateFieldValue hydrate (t.session.nodes ref).model name value)

variable {hydrate} {t : Tracking V}

omit [DecidableEq V] in
lemma Kept.assign (h : t.Kept hydrate) (ref : NodeRef) (name : String) (value : Option V) :
    (t.assign hydrate ref name value).Kept hydrate := by
  refine ⟨h.enabled, fun other field v hv => ?_⟩
  have hnode : (t.assign hydrate ref name value).session.nodes other =
      if other = ref then (t.session.nodes ref).setattr hydrate name value else t.session.nodes other := by
    simp only [Tracking.assign, setattr, Session.nodes_update]
  rw [hnode]
  simp only [Tracking.assign] at hv
  split at hv
  · next hnote =>
    by_cases hother : other = ref
    · subst hother
      rw [Function.update_self, Function.update_apply] at hv
      rw [if_pos rfl, Node.model_setattr, Node.get?_dirty_setattr]
      by_cases hfield : field = name
      · subst hfield
        rw [if_pos rfl] at hv
        obtain rfl := Option.some.inj hv
        exact ⟨hnote.1, by rw [if_pos ⟨hnote.2, rfl⟩]⟩
      · rw [if_neg hfield] at hv
        rw [if_neg fun hc => hfield hc.2]
        exact h.dirty other field v hv
    · rw [Function.update_of_ne hother] at hv
      rw [if_neg hother]
      exact h.dirty other field v hv
  · next hskip =>
    obtain ⟨htracked, hdirty⟩ := h.dirty other field v hv
    refine ⟨htracked, ?_⟩
    by_cases hother : other = ref
    · subst hother
      rw [if_pos rfl, Node.model_setattr, Node.get?_dirty_setattr, if_neg, hdirty]
      exact fun hc => hskip ⟨htracked, hc.1⟩
    · rw [if_neg hother, hdirty]

omit [DecidableEq V] in
lemma Kept.clearDirty (h : t.Kept hydrate) {ref : NodeRef} (hnone : ∀ name, t.pending ref name = none) :
    Kept hydrate ⟨t.session.clearDirty ref, t.pending⟩ := by
  refine ⟨h.enabled, fun other field v hv => ?_⟩
  have hother : other ≠ ref := by
    rintro rfl
    rw [hnone] at hv
    cases hv
  have hnode : (t.session.clearDirty ref).nodes other = t.session.nodes other := by
    rw [Session.clearDirty, Session.nodes_update, if_neg hother]
  simp only [hnode]
  exact h.dirty other field v hv

omit [DecidableEq V] in
lemma Kept.foldl_assign (h : t.Kept hydrate) (ref : NodeRef) (entries : List (String × Option V)) :
    Kept hydrate (entries.foldl (fun (t : Tracking V) e => t.assign hydrate ref e.1 e.2) t) := by
  induction entries generalizing t with
  | nil => exact h
  | cons e entries ih => exact ih (h.assign ref e.1 e.2)

omit [DecidableEq V] in
lemma session_foldl_assign (ref : NodeRef) (entries : List (String × Option V)) :
    (entries.foldl (fun (t : Tracking V) e => t.assign hydrate ref e.1 e.2) t).session =
      entries.foldl (fun s e => s.setattr hydrate ref e.1 e.2) t.session := by
  induction entries generalizing t with
  | nil => rfl
  | cons e entries ih => exact ih

lemma Kept.track (h : t.Kept hydrate) (henabled : t.session.enableIdentityMap = true) {key : Model × V}
    {ref : NodeRef} (hkey : ∀ other ∈ t.session.identityMap.get? key, other = ref) :
    Kept hydrate ⟨{ t.session with identityMap := t.session.identityMap.set key ref }, t.pending⟩ := by
  refine ⟨fun _ _ => henabled, fun other field v hv => ?_⟩
  obtain ⟨htracked, hdirty⟩ := h.dirty other field v hv
  refine ⟨?_, hdirty⟩
  obtain ⟨key', hkey'⟩ := tracked_iff.mp htracked
  refine tracked_iff.mpr ⟨key', ?_⟩
  rw [get?_set]
  split
  · next heq =>
    subst heq
    rw [hkey other hkey']
  · exact hkey'

lemma Kept.register (h : t.Kept hydrate) {ref : NodeRef} {keyField : String} {isClean : Bool}
    (hsafe : t.Safe (.register ref keyField isClean)) :
    (t.register hydrate ref keyField isClean).Kept hydrate := by
  cases henabled : t.session.enableIdentityMap with
  | false => simpa [Tracking.register, Session.register, Session.mergeTarget, henabled] using h
  | true =>
    have hclean : Kept hydrate ⟨t.session.cleaned ref isClean, t.pending⟩ := by
      cases isClean with
      | false => exact h
      | true => exact h.clearDirty (hsafe henabled).1
    have hmap := t.session.identityMap_cleaned ref isClean
    have hmodel := t.session.model_cleaned ref isClean
    have hkey := t.session.get_cleaned ref isClean keyField
    have htrack : ∀ keyVal,
        (∀ other ∈ t.session.identityMap.get? ((t.session.nodes ref).model, keyVal), other = ref) →
        Kept hydrate ⟨{ t.session.cleaned ref isClean with
          identityMap := t.session.identityMap.set ((t.session.nodes ref).model, keyVal) ref }, t.pending⟩ := by
      intro keyVal hfree
      rw [← hmap] at hfree ⊢
      exact hclean.track ((t.session.enableIdentityMap_cleaned ref isClean).trans henabled) hfree
    simp only [Tracking.register, Session.register, Session.mergeTarget, henabled, Bool.not_true, Bool.false_eq_true,
      if_false, hkey, hmodel, hmap]
    cases hget : (t.session.nodes ref).get keyField with
    | none => exact hclean
    | some keyVal =>
      simp only [bind_some]
      cases hexisting : t.session.identityMap.get? ((t.session.nodes ref).model, keyVal) with
      | none => exact htrack keyVal (by simp [hexisting])
      | some existing =>
        by_cases hsame : existing = ref
        · have hfree := htrack keyVal (by simp [hexisting, hsame])
          simpa [hsame, Option.filter] using hfree
        · simp only [hsame, if_false, filter_some, ne_eq, not_false_eq_true, decide_true, if_true]
          have hmerged := hclean.foldl_assign existing ((t.session.cleaned ref isClean).nodes ref).dirty.entries
          rw [← session_foldl_assign (t := ⟨t.session.cleaned ref isClean, t.pending⟩)]
          cases isClean with
          | false => exact hmerged
          | true =>
            have hempty : ((t.session.cleaned ref true).nodes ref).dirty.entries = [] := by
              rw [cleaned, if_pos rfl, Session.clearDirty, Session.nodes_update, if_pos rfl]
              rfl
            rw [hempty] at hmerged ⊢
            refine hmerged.clearDirty ((hsafe henabled).2 existing ?_)
            simp [Session.mergeTarget, henabled, hget, hexisting, hsame]

lemma Kept.step (h : t.Kept hydrate) {action : Action V} (hsafe : t.Safe action) :
    (t.step hydrate action).Kept hydrate := by
  cases action with
  | register ref keyField isClean => exact h.register hsafe
  | assign ref name value => exact h.assign ref name value
  | flush keyField =>
    have hflushed := t.session.flushed_unchanged
    refine ⟨fun ref href => ?_, fun ref name value hv => by cases hv⟩
    rw [Tracking.step, hflushed.2]
    rw [Tracking.step, Session.Tracked, hflushed.1] at href
    exact h.enabled ref href

end Tracking

section

variable {serialize : V → D} {lower : String → String} {s : Session V} {keyField : String}

omit [DecidableEq V]

lemma Node.get?_record_of_dirty {n : Node V} {name : String} {value : Option V} (h : n.dirty.get? name = some value) :
    (n.record serialize keyField).get? name = some (value.map serialize) := by
  unfold Node.record
  cases hkey : n.get keyField with
  | none => simp [h]
  | some key =>
    by_cases hname : name = keyField
    · subst hname
      have hvalue : value = some key := by
        have := n.dirty_values name value h
        simpa [Node.get, this] using hkey
      simp [hvalue]
    · simp [get?_set_of_ne _ hname, h]

lemma Session.sends_record (henabled : s.enableIdentityMap = true) {ref : NodeRef} (htracked : s.Tracked ref)
    (hdirty : (s.nodes ref).dirty.isEmpty = false) :
    ∃ batch ∈ s.prepareFlushBatches serialize lower keyField, ∃ i : ℕ,
      batch.2.1[i]? = some ref ∧
        batch.2.2.batches.flatten[i]? = some ((s.nodes ref).record serialize keyField) := by
  have hmem : ref ∈ ((s.identityMap.entries.filter fun e => !(s.nodes e.2).dirty.isEmpty).map Prod.snd).filter
      fun other => (s.nodes other).model = (s.nodes ref).model := by
    obtain ⟨e, he, rfl⟩ := List.mem_map.mp htracked
    rw [mem_filter]
    exact ⟨List.mem_map.mpr ⟨e, mem_filter.mpr ⟨he, by simp [hdirty]⟩, rfl⟩, by simp⟩
  have hgroup := get?_foldl_push (fun other => (s.nodes other).model)
    ((s.identityMap.entries.filter fun e => !(s.nodes e.2).dirty.isEmpty).map Prod.snd) empty
    (s.nodes ref).model
  rw [if_neg (ne_nil_of_mem hmem), ← s.dirtyByModel_eq, get?_empty, getD_none, nil_append,
    get?_eq_some] at hgroup
  rw [prepareFlushBatches, henabled, Bool.not_true, if_neg (by simp)]
  refine ⟨_, List.mem_map.mpr ⟨_, hgroup, rfl⟩, ?_⟩
  obtain ⟨i, hi⟩ := mem_iff_getElem?.mp hmem
  refine ⟨i, hi, ?_⟩
  simp only [createBulkMergePlan]
  rw [flatten_chunkRecords (by decide), getElem?_map, hi, map_some]

end

theorem pending_edits_sent {hydrate : Model → String → V → Option V} {start t : Tracking V}
    (hmap : start.session.identityMap = Dict.empty) (hnone : ∀ ref name, start.pending ref name = none)
    (hrun : Relation.ReflTransGen (Tracking.SafeStep hydrate) start t) (serialize : V → D)
    (lower : String → String) (keyField : String) {ref : NodeRef} {name : String} {value : Option V}
    (hpending : t.pending ref name = some value) :
    Tracking.Sends serialize lower t.session keyField ref name
      ((hydrateFieldValue hydrate (t.session.nodes ref).model name value).map serialize) := by
  have hstart : start.Kept hydrate := by
    refine ⟨fun ref href => ?_, fun ref name value hv => ?_⟩
    · simp [Session.Tracked, hmap, empty] at href
    · simp [hnone] at hv
  have hkept : t.Kept hydrate := by
    clear hpending
    induction hrun with
    | refl => exact hstart
    | tail _ hstep ih =>
      obtain ⟨action, hsafe, rfl⟩ := hstep
      exact ih.step hsafe
  obtain ⟨htracked, hdirty⟩ := hkept.dirty ref name value hpending
  have hnonempty : (t.session.nodes ref).dirty.isEmpty = false := by
    rw [get?_eq_some] at hdirty
    exact isEmpty_eq_false_iff.mpr (ne_nil_of_mem hdirty)
  obtain ⟨batch, hbatch, i, hi, hrecord⟩ :=
    sends_record (hkept.enabled ref htracked) htracked hnonempty
  exact ⟨batch, hbatch, i, _, hi, hrecord, Node.get?_record_of_dirty hdirty⟩

namespace Tracking

def twoLoads : Tracking String := ⟨⟨true, Dict.empty, fun _ => Session.ann.clearDirty⟩, fun _ _ => none⟩

def loadAndRename : List (Action String) := [.register 0 "id" true, .assign 0 "name" (some "Eve")]

def after (actions : List (Action String)) : Tracking String :=
  actions.foldl (fun t action => t.step (fun _ _ v => some v) action) twoLoads

def loadedTwice : Tracking String := after (loadAndRename ++ [.register 1 "id" true])

end Tracking

theorem pending_edits_sent_loadAndRename :
    Tracking.Sends id id (Tracking.after Tracking.loadAndRename).session "id" 0 "name" (some "Eve") := by
  have hregister : Tracking.SafeStep (fun _ _ v => some v) twoLoads _ :=
    ⟨.register 0 "id" true, fun _ => ⟨fun _ => rfl, fun _ _ _ => rfl⟩, rfl⟩
  have hassign : Tracking.SafeStep (fun _ _ v => some v) _ (after loadAndRename) :=
    ⟨.assign 0 "name" (some "Eve"), trivial, rfl⟩
  have hrun := (Relation.ReflTransGen.single hregister).tail hassign
  have hpending : (after loadAndRename).pending 0 "name" = some (some "Eve") := rfl
  exact pending_edits_sent rfl (fun _ _ => rfl) hrun id id "id" hpending

theorem second_load_drops_edit :
    Tracking.loadedTwice.session.Tracked 0 ∧ Tracking.loadedTwice.pending 0 "name" = some (some "Eve") ∧
      ∀ value : Option String, ¬ Tracking.Sends id id Tracking.loadedTwice.session "id" 0 "name" value := by
  refine ⟨by decide, rfl, ?_⟩
  rintro value ⟨batch, hbatch, -⟩
  exact absurd hbatch not_mem_nil

end Voyager
