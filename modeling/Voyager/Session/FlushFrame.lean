import Voyager.Session.Flush

namespace Voyager.Session

open Lib List Bool

variable {V D : Type} [DecidableEq D] (serialize : V → D) (s : Session V)

def tracked : Command → List ((Model × V) × NodeRef)
  | .flush => s.identityMap.entries
  | .save ref => s.identityMap.entries.filter (·.2 = ref)

def Stands (keyField : String) (entry : (Model × V) × NodeRef) (n : DbNode D) : Prop :=
  entry.1.1.label ∈ n.labels ∧ n.props keyField = some (serialize entry.1.2)

def intended (ref : NodeRef) (n : DbNode D) (name : String) : Option D :=
  match (s.nodes ref).dirty.get? name with
  | some value => value.map serialize
  | none => n.props name

variable (command : Command)

variable (keyField : String)

def Persisted (g g' : Graph D) : Prop :=
  ∀ entry ∈ s.tracked command, ∀ (i : ℕ) (n n' : DbNode D), g[i]? = some n → g'[i]? = some n' →
    Stands serialize keyField entry n → ∀ name, n'.props name = s.intended serialize entry.2 n name

/-- The last row that assigns a property has its intended value, and where there is none the node has it. -/
def LastWritesIntended (g : Graph D) : Prop :=
  ∀ entry ∈ s.tracked command, ∀ n ∈ g, Stands serialize keyField entry n → ∀ name,
    match lastWrite keyField (s.writes serialize command keyField) n name with
    | some w => (w.row.get? name).join = s.intended serialize entry.2 n name
    | none => n.props name = s.intended serialize entry.2 n name

def Apart (g : Graph D) : Prop :=
  ∀ entry ∈ s.tracked command, ∀ n ∈ g, Stands serialize keyField entry n → ∀ ref ∈ s.sent command,
    (s.write serialize command keyField ref).addresses keyField n → ref = entry.2

def Reaches (ref : NodeRef) (n : DbNode D) (name : String) : Prop :=
  ref ∈ s.sent command ∧ (s.write serialize command keyField ref).addresses keyField n ∧
    name ∈ s.assigned serialize command keyField (s.nodes ref).model

/-- Every dirty field is assigned or has its value already, and every assigned field that is not dirty is
absent from the database node. -/
def PendingCover (g : Graph D) : Prop :=
  ∀ entry ∈ s.tracked command, ∀ n ∈ g, Stands serialize keyField entry n → ∀ name,
    match (s.nodes entry.2).dirty.get? name with
    | some value => s.Reaches serialize command keyField entry.2 n name ∨ n.props name = value.map serialize
    | none => s.Reaches serialize command keyField entry.2 n name → n.props name = none

variable {serialize} {s s' : Session V} {command : Command} {keyField : String} {g g' : Graph D}
  {lower : String → String}

lemma persisted_iff (h : s.persist serialize lower keyField g command = .ok (s', g')) :
    s.Persisted serialize command keyField g g' ↔ s.LastWritesIntended serialize command keyField g := by
  have hkeys : ∀ w ∈ s.writes serialize command keyField, keyField ∉ w.properties := by
    intro w hw
    obtain ⟨ref, -, rfl⟩ := List.mem_map.mp hw
    exact s.keyField_notMem_assigned command keyField _
  have hrun := fun i n (hn : g[i]? = some n) => foldlM_run hkeys (persist_run h) hn
  constructor
  · intro hp entry hentry n hn hstands name
    obtain ⟨i, hi⟩ := mem_iff_getElem?.mp hn
    obtain ⟨n', hn', hprops⟩ := hrun i n hi
    have hvalue := hp entry hentry i n n' hi hn' hstands name
    rw [hprops] at hvalue
    split <;> simp_all
  · intro hp entry hentry i n n' hi hi' hstands name
    obtain ⟨m, hm, hprops⟩ := hrun i n hi
    obtain rfl := Option.some.inj (hm.symm.trans hi')
    have hvalue := hp entry hentry n (mem_of_getElem? hi) hstands name
    rw [hprops]
    split <;> simp_all

omit [DecidableEq D] in
lemma get?_record (n : Node V) {name : String} (h : name ≠ keyField) :
    (n.record serialize keyField).get? name = (n.dirty.get? name).map (Option.map serialize) := by
  unfold Node.record
  split <;> simp [Dict.get?_set_of_ne _ h]

lemma lastWrite_of_apart (h : s.Apart serialize command keyField g) {entry : (Model × V) × NodeRef}
    (hentry : entry ∈ s.tracked command) {n : DbNode D} (hn : n ∈ g) (hstands : Stands serialize keyField entry n)
    (name : String) :
    match lastWrite keyField (s.writes serialize command keyField) n name with
    | some w => w = s.write serialize command keyField entry.2 ∧ s.Reaches serialize command keyField entry.2 n name
    | none => ¬ s.Reaches serialize command keyField entry.2 n name := by
  cases hlast : lastWrite keyField (s.writes serialize command keyField) n name with
  | some w =>
    have hmem := mem_of_find?_eq_some hlast
    have hpred := find?_some hlast
    rw [and_eq_true, decide_eq_true_eq] at hpred
    rw [mem_reverse] at hmem
    obtain ⟨ref, href, rfl⟩ := List.mem_map.mp hmem
    obtain rfl := h entry hentry n hn hstands ref href hpred.1
    exact ⟨rfl, href, hpred.1, hpred.2⟩
  | none =>
    rintro ⟨hsent, haddr, hassigned⟩
    have hmem : s.write serialize command keyField entry.2 ∈ (s.writes serialize command keyField).reverse :=
      List.mem_reverse.mpr (mem_map_of_mem hsent)
    have hpred := List.find?_eq_none.mp hlast _ hmem
    rw [and_eq_true, decide_eq_true_eq] at hpred
    exact hpred ⟨haddr, hassigned⟩

lemma lastWritesIntended_iff (h : s.Apart serialize command keyField g) :
    s.LastWritesIntended serialize command keyField g ↔ s.PendingCover serialize command keyField g := by
  unfold LastWritesIntended PendingCover
  refine forall₂_congr fun entry hentry => forall₂_congr fun n hn => forall₂_congr fun hstands name => ?_
  have hlast := lastWrite_of_apart h hentry hn hstands name
  cases hw : lastWrite keyField (s.writes serialize command keyField) n name with
  | some w =>
    rw [hw] at hlast
    obtain ⟨rfl, hreaches⟩ := hlast
    have hne : name ≠ keyField := by
      rintro rfl
      exact s.keyField_notMem_assigned command name _ hreaches.2.2
    have hrow : (s.write serialize command keyField entry.2).row.get? name = _ := get?_record _ hne
    cases hdirty : (s.nodes entry.2).dirty.get? name with
    | some value => simp [hrow, hdirty, intended, hreaches]
    | none => simp [hrow, hdirty, intended, hreaches, eq_comm]
  | none =>
    rw [hw] at hlast
    cases hdirty : (s.nodes entry.2).dirty.get? name with
    | some value | none => simp [hdirty, intended, hlast]

theorem persisted_iff_lastWrites_and_cover (h : s.persist serialize lower keyField g command = .ok (s', g')) :
    (s.Persisted serialize command keyField g g' ↔ s.LastWritesIntended serialize command keyField g) ∧
      (s.Apart serialize command keyField g →
        (s.Persisted serialize command keyField g g' ↔ s.PendingCover serialize command keyField g)) :=
  ⟨persisted_iff h, fun hapart => (persisted_iff h).trans (lastWritesIntended_iff hapart)⟩

def person : Model := ⟨0, "Person", ["Person"], ["id", "name", "age"]⟩

def ann : Node String := Node.new (fun _ _ v => some v) person
  ((Dict.empty.set "id" (some "1")).set "name" (some "Ann") |>.set "age" (some "30"))

def loaded : Session String := ⟨true, Dict.empty.set (person, "1") 0, fun _ => ann.clearDirty⟩

def fresh : Session String := ⟨true, Dict.empty.set (person, "1") 0, fun _ => ann⟩

def renamed : Session String := loaded.setattr (fun _ _ v => some v) 0 "name" (some "Eve")

def people : Graph String := [⟨["Person"], fun name => (ann.values.get? name).join⟩]

theorem persisted_iff_fresh :
    ∃ s' g', fresh.persist id id "id" people .flush = .ok (s', g') ∧ fresh.Persisted id .flush "id" people g' := by
  have hrun : ∃ r, fresh.persist id id "id" people .flush = .ok r := ⟨_, rfl⟩
  obtain ⟨⟨s', g'⟩, h⟩ := hrun
  refine ⟨s', g', h, (persisted_iff_lastWrites_and_cover h).1.mpr ?_⟩
  intro entry hentry n hn _ name
  obtain rfl := List.mem_singleton.mp hentry
  obtain rfl := List.mem_singleton.mp hn
  by_cases hname : name ∈ ["id", "name", "age"]
  · fin_cases hname <;> rfl
  · have hwrites : fresh.writes id .flush "id" = [⟨"Person", ["name", "age"], ann.record id "id"⟩] := rfl
    have hclean : (fresh.nodes 0).dirty.get? name = none := Dict.get?_eq_none.mpr hname
    have hunassigned : name ∉ ["name", "age"] := fun h => hname (mem_cons_of_mem _ h)
    simp [hwrites, lastWrite, hunassigned, intended, hclean]

theorem flush_removes_clean_field :
    ∃ s' g' n', renamed.persist id id "id" people .flush = .ok (s', g') ∧ g'[0]? = some n' ∧
      (renamed.nodes 0).dirty.keys = ["name"] ∧ n'.props "name" = some "Eve" ∧ n'.props "age" = none ∧
      ¬ renamed.Persisted id .flush "id" people g' := by
  refine ⟨_, _, _, rfl, rfl, rfl, rfl, rfl, fun h => ?_⟩
  have := h ((person, "1"), 0) (by decide) 0 _ _ rfl rfl ⟨by decide, rfl⟩ "age"
  exact absurd this (by decide)

end Voyager.Session
