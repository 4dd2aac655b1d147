import Voyager.Builder.QueryBuilder

/-! The builder without its arena: which nodes stand in which path, and which paths in which clause. -/

namespace Voyager

open List

structure PathNode where
  edge : Option NodeHandle
  node : NodeHandle
deriving DecidableEq, Repr

inductive PatternKind
  | match_ (optional : Bool)
  | create
  | merge
deriving DecidableEq, Repr

def ClauseMode.patternKind (optional : Bool) : Option ClauseMode → Option PatternKind
  | some .with_ => none
  | some .create => some .create
  | some .merge => some .merge
  | _ => some (.match_ optional)

abbrev PatternClause := Option PatternKind × List PathNode

structure Outline where
  mode : Option ClauseMode
  optional : Bool
  reads : List PatternClause
  writes : List PatternClause
  paths : List (List PathNode)
  start : Option NodeHandle
  edges : List PathNode

namespace Outline

variable (o : Outline)

def clauses : List PatternClause := o.reads ++ o.writes

def kind : Option PatternKind := ClauseMode.patternKind o.optional o.mode

def current : List (List PathNode) := o.paths ++ (o.start.map fun s => ⟨none, s⟩ :: o.edges).toList

def loose : List PathNode := if o.start.isSome then [] else o.edges

def next : List PathNode := (if o.mode = some .merge then o.current.take 1 else o.current).flatten

def pattern : Outline :=
  if o.start.isSome then { o with paths := o.current, start := none, edges := [] } else o

def startAt (node : NodeHandle) : Outline := { o with start := some node }

def edgeTo (edge node : NodeHandle) : Outline := { o with edges := o.edges ++ [⟨some edge, node⟩] }

def write : Outline := { o with writes := o.writes ++ [(none, [])] }

def flush : Outline :=
  match o.kind with
  | none => { o with mode := none }
  | some kind =>
    let o' := { o with paths := [], start := none, edges := o.loose }
    if o.current = [] then o'
    else
      match kind with
      | .match_ _ => { o' with reads := o.reads ++ [(some kind, o.next)] }
      | _ => { o' with writes := o.writes ++ [(some kind, o.next)] }

def pending : List PathNode := o.current.flatten ++ o.loose

def Below (n : ℕ) : Prop := ∀ x, x ∈ o.pending ∨ (∃ c ∈ o.clauses, x ∈ c.2) → x.node < n

def holders (x : PathNode) : ℕ := o.clauses.countP fun c => x ∈ c.2

structure Waiting (kind : PatternKind) (x : PathNode) : Prop where
  kind_eq : o.kind = some kind
  mem : x ∈ o.next
  tight : x ∉ o.loose
  holders_eq : o.holders x = 0

structure Written (kind : PatternKind) (x : PathNode) : Prop where
  holders_eq : o.holders x = 1
  kind_eq : ∀ c ∈ o.clauses, x ∈ c.2 → c.1 = some kind
  gone : x ∉ o.pending

variable {o} {n : ℕ} {kind : PatternKind} {x : PathNode}

lemma holders_eq_zero_iff : o.holders x = 0 ↔ ∀ c ∈ o.clauses, x ∉ c.2 := by
  simp [holders, countP_eq_zero]

lemma Below.holders (h : o.Below n) (hx : n ≤ x.node) : o.holders x = 0 := by
  rw [holders_eq_zero_iff]
  intro c hc hmem
  exact absurd (h x (.inr ⟨c, hc, hmem⟩)) (Nat.not_lt.mpr hx)

lemma next_subset : o.next ⊆ o.current.flatten := by
  intro x hx
  unfold next at hx
  split_ifs at hx
  · obtain ⟨l, hl, hx⟩ := mem_flatten.mp hx
    exact mem_flatten.mpr ⟨l, mem_of_mem_take hl, hx⟩
  · exact hx

lemma current_of_start {s : NodeHandle} (h : o.start = some s) : o.current = o.paths ++ [⟨none, s⟩ :: o.edges] := by
  simp [current, h]

lemma current_of_no_start (h : o.start = none) : o.current = o.paths := by simp [current, h]

lemma current_pattern : o.pattern.current = o.current := by
  unfold pattern
  split_ifs with h
  · simp [current]
  · rfl

lemma loose_pattern : o.pattern.loose = o.loose := by
  unfold pattern
  split_ifs with h
  · simp [loose, h]
  · rfl

lemma pending_startAt (node : NodeHandle) :
    (o.startAt node).pending = o.paths.flatten ++ ⟨none, node⟩ :: o.edges := by
  simp [pending, startAt, current, loose]

lemma mem_of_pending (h : x ∈ o.pending) :
    x ∈ o.paths.flatten ∨ (∃ s, o.start = some s ∧ x = ⟨none, s⟩) ∨ x ∈ o.edges := by
  unfold pending current loose at h
  cases hstart : o.start with
  | none =>
    simp only [hstart, Option.map_none, Option.toList_none, append_nil, Option.isSome_none] at h
    exact (mem_append.mp h).imp_right .inr
  | some s => simpa [hstart] using h

lemma mem_pending_of_startAt {node : NodeHandle} (h : x ∈ (o.startAt node).pending) :
    x = ⟨none, node⟩ ∨ x ∈ o.pending := by
  rw [pending_startAt] at h
  unfold pending current loose
  cases o.start with
  | none => simpa [or_left_comm] using h
  | some s =>
    simp only [mem_append, mem_cons] at h
    rcases h with h | rfl | h
    · exact .inr (by simp [mem_flatten.mp h])
    · exact .inl rfl
    · exact .inr (by simp [h])

lemma mem_pending_edgeTo {edge node : NodeHandle} :
    x ∈ (o.edgeTo edge node).pending ↔ x = ⟨some edge, node⟩ ∨ x ∈ o.pending := by
  unfold pending current loose edgeTo
  cases o.start with
  | none | some s => simp [or_comm, or_left_comm, or_assoc]

lemma next_startAt (h : o.start = none) (node : NodeHandle) : o.next ⊆ (o.startAt node).next := by
  unfold next
  change (if o.mode = some .merge then _ else _ : List _).flatten ⊆
    (if o.mode = some .merge then _ else _ : List _).flatten
  have hcurrent : (o.startAt node).current = o.current ++ [⟨none, node⟩ :: o.edges] := by
    rw [current_of_no_start h]
    simp [current, startAt]
  rw [hcurrent]
  split_ifs
  · cases o.current <;> simp
  · rw [flatten_append]
    exact subset_append_left _ _

lemma next_edgeTo (edge node : NodeHandle) : o.next ⊆ (o.edgeTo edge node).next := by
  unfold next
  change (if o.mode = some .merge then _ else _ : List _).flatten ⊆
    (if o.mode = some .merge then _ else _ : List _).flatten
  cases h : o.start with
  | none => simp [current, edgeTo, h]
  | some s =>
    have hcurrent : (o.edgeTo edge node).current =
        o.paths ++ [⟨none, s⟩ :: (o.edges ++ [⟨some edge, node⟩])] := by
      simp [current, edgeTo, h]
    have hflatten : (o.edgeTo edge node).current.flatten =
        (o.paths ++ [⟨none, s⟩ :: o.edges]).flatten ++ [⟨some edge, node⟩] := by
      rw [hcurrent]
      simp
    rw [current_of_start h]
    split_ifs
    · rw [hcurrent]
      cases o.paths <;> simp
    · rw [hflatten]
      exact subset_append_left _ _

inductive Step (n : ℕ) (o : Outline) : Outline → Prop
  | silent : Step n o o
  | pattern : Step n o o.pattern
  | startAt (node : NodeHandle) (hstart : o.start = none) (hnode : n ≤ node) : Step n o (o.startAt node)
  | edgeTo (edge node : NodeHandle) (hnode : n ≤ node) : Step n o (o.edgeTo edge node)

variable {o' : Outline}

lemma pending_pattern : o.pattern.pending = o.pending := by
  unfold pending
  rw [current_pattern, loose_pattern]

lemma clauses_pattern : o.pattern.clauses = o.clauses := by
  unfold pattern
  split_ifs <;> rfl

lemma mode_pattern : o.pattern.mode = o.mode := by
  unfold pattern
  split_ifs <;> rfl

lemma kind_pattern : o.pattern.kind = o.kind := by
  unfold pattern
  split_ifs <;> rfl

lemma next_pattern : o.pattern.next = o.next := by
  unfold next
  rw [current_pattern, mode_pattern]

section

variable (h : Step n o o')

include h

lemma Step.clauses : o'.clauses = o.clauses := by
  cases h with
  | pattern => exact clauses_pattern
  | _ => rfl

lemma Step.reads_eq : o'.reads = o.reads := by
  cases h with
  | pattern =>
    unfold Outline.pattern
    split_ifs <;> rfl
  | _ => rfl

lemma Step.kind_eq : o'.kind = o.kind := by
  cases h with
  | pattern => exact kind_pattern
  | _ => rfl

lemma Step.next : o.next ⊆ o'.next := by
  cases h with
  | silent => exact List.Subset.refl _
  | pattern => rw [next_pattern]; exact List.Subset.refl _
  | startAt node hstart => exact next_startAt hstart node
  | edgeTo edge node => exact next_edgeTo edge node

lemma Step.current_subset : o.current.flatten ⊆ o'.current.flatten := by
  cases h with
  | silent => exact List.Subset.refl _
  | pattern => rw [current_pattern]; exact List.Subset.refl _
  | startAt node hstart =>
    rw [current_of_no_start hstart]
    simp [current, Outline.startAt]
  | edgeTo edge node =>
    cases hstart : o.start with
    | none => simp [current, Outline.edgeTo, hstart]
    | some s =>
      have hflatten : (o.edgeTo edge node).current.flatten = o.current.flatten ++ [⟨some edge, node⟩] := by
        simp [current, Outline.edgeTo, hstart]
      rw [hflatten]
      exact subset_append_left _ _

lemma Step.mem_pending (hx : x ∈ o'.pending) : x ∈ o.pending ∨ n ≤ x.node := by
  cases h with
  | silent => exact .inl hx
  | pattern => exact .inl (pending_pattern ▸ hx)
  | startAt node hstart hnode =>
    rcases mem_pending_of_startAt hx with rfl | hx
    · exact .inr hnode
    · exact .inl hx
  | edgeTo edge node hnode =>
    rcases mem_pending_edgeTo.mp hx with rfl | hx
    · exact .inr hnode
    · exact .inl hx

lemma Step.mem_loose (hx : x ∈ o'.loose) : x ∈ o.loose ∨ n ≤ x.node := by
  cases h with
  | silent => exact .inl hx
  | pattern => exact .inl (loose_pattern ▸ hx)
  | startAt => simp [loose, Outline.startAt] at hx
  | edgeTo edge node hnode =>
    have hloose : (o.edgeTo edge node).loose ⊆ o.loose ++ [⟨some edge, node⟩] := by
      unfold loose Outline.edgeTo
      split_ifs <;> simp
    rcases mem_append.mp (hloose hx) with hx | hx
    · exact .inl hx
    · obtain rfl := mem_singleton.mp hx
      exact .inr hnode

end

lemma Waiting.step (hx : o.Waiting kind x) (h : Step n o o') (hn : x.node < n) : o'.Waiting kind x where
  kind_eq := h.kind_eq.trans hx.kind_eq
  mem := h.next hx.mem
  tight hmem := (h.mem_loose hmem).elim hx.tight (Nat.not_le.mpr hn)
  holders_eq := by rw [holders, h.clauses]; exact hx.holders_eq

lemma Written.step (hx : o.Written kind x) (h : Step n o o') (hn : x.node < n) : o'.Written kind x where
  holders_eq := by rw [holders, h.clauses]; exact hx.holders_eq
  kind_eq := by rw [h.clauses]; exact hx.kind_eq
  gone hmem := (h.mem_pending hmem).elim hx.gone (Nat.not_le.mpr hn)

lemma clauses_write : o.write.clauses = o.clauses ++ [(none, [])] := by
  simp [clauses, write]

lemma Written.write (hx : o.Written kind x) : o.write.Written kind x where
  holders_eq := by
    rw [holders, clauses_write, countP_append]
    exact hx.holders_eq
  kind_eq := by
    rw [clauses_write]
    intro c hc hmem
    rcases mem_append.mp hc with hc | hc
    · exact hx.kind_eq c hc hmem
    · obtain rfl := mem_singleton.mp hc
      cases hmem
  gone := hx.gone

lemma flush_spec {k : PatternKind} (hkind : o.kind = some k) : o.flush.pending = o.loose ∧
      (o.current = [] ∧ o.flush.clauses = o.clauses ∨
        o.current ≠ [] ∧ o.flush.clauses.Perm ((some k, o.next) :: o.clauses)) := by
  have hpending : ∀ o' : Outline, o'.paths = [] → o'.start = none → o'.pending = o'.edges := by
    intro o' hpaths hstart
    rw [pending, current_of_no_start hstart, loose, hstart, hpaths]
    rfl
  unfold flush
  rw [hkind]
  dsimp only
  split_ifs with hcurrent
  · exact ⟨hpending _ rfl rfl, .inl ⟨hcurrent, rfl⟩⟩
  · cases k with
    | match_ optional =>
      refine ⟨hpending _ rfl rfl, .inr ⟨hcurrent, ?_⟩⟩
      simp only [clauses, append_assoc, singleton_append]
      exact perm_middle
    | create | merge =>
      refine ⟨hpending _ rfl rfl, .inr ⟨hcurrent, ?_⟩⟩
      simp only [clauses, ← append_assoc]
      exact perm_append_singleton _ _

lemma flush_of_no_kind (hkind : o.kind = none) : o.flush = { o with mode := none } := by
  unfold flush
  rw [hkind]

lemma Waiting.flush (hx : o.Waiting kind x) : o.flush.Written kind x := by
  obtain ⟨hpending, ⟨hnone, -⟩ | ⟨-, hperm⟩⟩ := flush_spec hx.kind_eq
  · have hmem := next_subset hx.mem
    rw [hnone] at hmem
    cases hmem
  · have hnot := holders_eq_zero_iff.mp hx.holders_eq
    refine ⟨?_, ?_, hpending ▸ hx.tight⟩
    · rw [holders, hperm.countP_eq, countP_cons_of_pos (by simpa using hx.mem)]
      exact congrArg (· + 1) hx.holders_eq
    · intro c hc hmem
      rcases mem_cons.mp (hperm.mem_iff.mp hc) with rfl | hc
      · rfl
      · exact absurd hmem (hnot c hc)

lemma Written.mode {m : Option ClauseMode} {optional : Bool} (hx : o.Written kind x) :
    Written { o with mode := m, optional := optional } kind x :=
  ⟨hx.holders_eq, hx.kind_eq, hx.gone⟩

lemma Written.flush (hx : o.Written kind x) : o.flush.Written kind x := by
  cases hkind : o.kind with
  | none =>
    rw [flush_of_no_kind hkind]
    exact hx.mode
  | some k =>
    have hgone : x ∉ o.current.flatten ∧ x ∉ o.loose := by simpa [pending] using hx.gone
    have hnext : x ∉ o.next := fun hmem => hgone.1 (next_subset hmem)
    obtain ⟨hpending, ⟨-, hclauses⟩ | ⟨-, hperm⟩⟩ := flush_spec hkind
    · refine ⟨?_, ?_, hpending ▸ hgone.2⟩
      · rw [holders, hclauses]
        exact hx.holders_eq
      · rw [hclauses]
        exact hx.kind_eq
    · refine ⟨?_, ?_, hpending ▸ hgone.2⟩
      · rw [holders, hperm.countP_eq, countP_cons_of_neg (by simpa using hnext)]
        exact hx.holders_eq
      · intro c hc hmem
        rcases mem_cons.mp (hperm.mem_iff.mp hc) with rfl | hc
        · exact absurd hmem hnext
        · exact hx.kind_eq c hc hmem

lemma Written.startAt (hx : o.Written kind x) {node : NodeHandle} (hnode : x.node < node) :
    (o.startAt node).Written kind x :=
  ⟨hx.holders_eq, hx.kind_eq, fun hmem =>
    (mem_pending_of_startAt hmem).elim (fun h => by simp [h] at hnode) hx.gone⟩

lemma Below.flush (hb : o.Below n) : o.flush.Below n := by
  cases hkind : o.kind with
  | none =>
    rw [flush_of_no_kind hkind]
    exact hb
  | some k =>
    obtain ⟨hpending, hclauses⟩ := flush_spec hkind
    rintro x (hx | ⟨c, hc, hx⟩)
    · rw [hpending] at hx
      exact hb x (.inl (mem_append_right _ hx))
    · rcases hclauses with ⟨-, hclauses⟩ | ⟨-, hperm⟩
      · exact hb x (.inr ⟨c, hclauses ▸ hc, hx⟩)
      · rcases mem_cons.mp (hperm.mem_iff.mp hc) with rfl | hc
        · exact hb x (.inl (mem_append_left _ (next_subset hx)))
        · exact hb x (.inr ⟨c, hc, hx⟩)

lemma Below.write (hb : o.Below n) : o.write.Below n := by
  rintro x (hx | ⟨c, hc, hx⟩)
  · exact hb x (.inl hx)
  · rw [clauses_write] at hc
    rcases mem_append.mp hc with hc | hc
    · exact hb x (.inr ⟨c, hc, hx⟩)
    · obtain rfl := mem_singleton.mp hc
      cases hx

lemma startAt_waiting (hb : o.Below n) (hkind : o.kind = some kind)
    (hmerge : o.mode = some .merge → o.paths = []) : (o.startAt n).Waiting kind ⟨none, n⟩ where
  kind_eq := hkind
  mem := by
    have hcurrent : (o.startAt n).current = o.paths ++ [⟨none, n⟩ :: o.edges] := by simp [current, startAt]
    unfold next
    rw [hcurrent]
    split_ifs with hmode
    · simp [hmerge hmode]
    · simp
  tight := by simp [loose, startAt]
  holders_eq := hb.holders le_rfl

lemma edgeTo_waiting (hb : o.Below n) {edge : NodeHandle} (hstart : o.start.isSome = true) (hkind : o.kind = some kind)
    (hmerge : o.mode = some .merge → o.paths = []) : (o.edgeTo edge n).Waiting kind ⟨some edge, n⟩ where
  kind_eq := hkind
  mem := by
    obtain ⟨s, hs⟩ := Option.isSome_iff_exists.mp hstart
    have hcurrent : (o.edgeTo edge n).current = o.paths ++ [⟨none, s⟩ :: (o.edges ++ [⟨some edge, n⟩])] := by
      simp [current, edgeTo, hs]
    unfold next
    rw [hcurrent]
    split_ifs with hmode
    · simp [hmerge hmode]
    · simp
  tight := by simp [loose, edgeTo, hstart]
  holders_eq := hb.holders le_rfl

lemma kind_flush (hkind : o.kind = some kind) : o.flush.kind = some kind := by
  unfold flush
  rw [hkind]
  dsimp only
  split_ifs
  · exact hkind
  · cases kind <;> exact hkind

lemma flush_start (hkind : o.kind = some kind) : o.flush.start = none ∧ o.flush.paths = [] := by
  unfold flush
  rw [hkind]
  dsimp only
  split_ifs
  · exact ⟨rfl, rfl⟩
  · cases kind <;> exact ⟨rfl, rfl⟩

end Outline

end Voyager
