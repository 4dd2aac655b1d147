import Voyager.Optimizer.Layout

namespace Voyager

open AstOptimizer
open Lib (bind_ok)

namespace Interpretation

variable {V : Type} {I : Interpretation V} {a b : QueryAstArena} {clauses : List NodeHandle}
  {reads others : Set Site} {m k : NodeHandle} {r : Row V}

lemma pipeline_append (clauses clauses' : List NodeHandle) (cond : NodeHandle → Row V → Prop) :
    I.pipeline a (clauses ++ clauses') cond = I.pipeline a clauses cond ++ I.pipeline a clauses' cond :=
  List.map_append

lemma pipeline_cons (m : NodeHandle) (clauses : List NodeHandle) (cond : NodeHandle → Row V → Prop) :
    I.pipeline a (m :: clauses) cond =
      (I.stage a m, fun r => I.patternsOf a m r ∧ cond m r) :: I.pipeline a clauses cond := rfl

variable {cond cond' : NodeHandle → Row V → Prop}

lemma pipeline_congr (hstage : ∀ m ∈ clauses, I.stage b m = I.stage a m)
    (hkeep : ∀ m ∈ clauses, ∀ r, I.patternsOf b m r ∧ cond' m r ↔ I.patternsOf a m r ∧ cond m r) :
    I.pipeline b clauses cond' = I.pipeline a clauses cond := by
  refine List.map_congr_left fun m hm => ?_
  rw [hstage m hm]
  congr 1
  funext r
  exact propext (hkeep m hm r)

section

variable (hl : Layout a clauses reads others)

include hl

section

variable (hb : Unseen clauses (reads ∪ others) a b)

include hb

lemma stage_of_unseen (hm : m ∈ clauses) : I.stage b m = I.stage a m := by
  have hview : SameView reads a b := hb.view.mono Set.subset_union_left
  obtain ⟨optional, paths, condition, hn, hpaths, -⟩ := hl.clause m hm
  obtain ⟨condition', hn'⟩ := hb.clause m hm optional paths condition hn
  have hcandidates := I.candidates_congr a b reads paths hl.closed hview hpaths
  have habsent := I.absent_congr a b reads paths hl.closed hview hpaths
  unfold stage
  rw [hn, hn']
  ext1
  · rfl
  · exact hcandidates.symm
  · exact habsent.symm

lemma holds_of_unseen {h : NodeHandle} (hh : (.expression, h) ∈ reads) : I.Holds b r h ↔ I.Holds a r h :=
  (holds_congr hl.closed (hb.view.mono Set.subset_union_left) hh).symm

lemma patternsOf_of_unseen (hm : m ∈ clauses) (hsame : ∀ h, PatternPredicate b m h ↔ PatternPredicate a m h) :
    I.patternsOf b m r ↔ I.patternsOf a m r := by
  refine forall_congr' fun h => ?_
  rw [hsame]
  exact imp_congr_right fun hh => holds_of_unseen hl hb (hl.predicate m hm h hh)

end

section

variable {x : String} {pred : NodeHandle} (hm : m ∈ clauses) (hk : PatternOf a m k) (hpush : Pushed x pred k a b)
  (hpred : (.expression, pred) ∈ reads)

include hm hk hpush hpred

lemma patternsOf_push {m' : NodeHandle} (hm' : m' ∈ clauses) :
    I.patternsOf b m' r ↔ I.patternsOf a m' r ∧ (m' = m → I.Holds a r pred) := by
  have hb := hl.unseen_push hm hk hpush
  constructor
  · intro h
    refine ⟨fun h' hh' => ?_, fun heq => ?_⟩
    · rw [← holds_of_unseen hl hb (hl.predicate m' hm' h' hh')]
      exact h h' ((hl.patternPredicate_push hm hk hpush hm').mpr (.inl hh'))
    · rw [← holds_of_unseen hl hb hpred]
      exact h pred ((hl.patternPredicate_push hm hk hpush hm').mpr (.inr ⟨heq, rfl⟩))
  · rintro ⟨h, hown⟩ h' hh'
    obtain hh' | ⟨rfl, rfl⟩ := (hl.patternPredicate_push hm hk hpush hm').mp hh'
    · rw [holds_of_unseen hl hb (hl.predicate m' hm' h' hh')]
      exact h h' hh'
    · rw [holds_of_unseen hl hb hpred]
      exact hown rfl

lemma patternsOf_push_of_ne {m' : NodeHandle} (hm' : m' ∈ clauses) (hne : m' ≠ m) :
    I.patternsOf b m' r ↔ I.patternsOf a m' r := by
  rw [patternsOf_push hl hm hk hpush hpred hm']
  simp [hne]

lemma pipeline_push_own (hother : ∀ m', m' ≠ m → cond' m' = cond m')
    (hown : ∀ r, cond m r ↔ cond' m r ∧ I.Holds a r pred) :
    I.pipeline b clauses cond' = I.pipeline a clauses cond := by
  refine pipeline_congr (fun m' hm' => stage_of_unseen hl (hl.unseen_push hm hk hpush) hm') fun m' hm' r => ?_
  by_cases h : m' = m
  · subst h
    rw [patternsOf_push hl hm hk hpush hpred hm, hown]
    tauto
  · rw [patternsOf_push_of_ne hl hm hk hpush hpred hm' h, hother m' h]

lemma run_push_earlier {j : NodeHandle} {pre mid post : List NodeHandle}
    (hsplit : clauses = pre ++ m :: (mid ++ j :: post)) (hnodup : clauses.Nodup)
    (hstage : (I.stage a m).optional = false) (hstage' : (I.stage a j).optional = false)
    (hsettled : ∀ r, ∀ r' ∈ (I.stage a m).candidates r, ∀ r'', r' ≤ r'' → (I.Holds a r'' pred ↔ I.Holds a r' pred))
    (hother : ∀ m', m' ≠ j → cond' m' = cond m')
    (hown : ∀ r, cond j r ↔ cond' j r ∧ I.Holds a r pred) (bag : Multiset (Row V)) :
    (I.pipeline b clauses cond').run bag = (I.pipeline a clauses cond).run bag := by
  have hstages := fun m' hm' => stage_of_unseen (I := I) (m := m') hl (hl.unseen_push hm hk hpush) hm'
  have hpiece : ∀ part ⊆ clauses, m ∉ part → j ∉ part → I.pipeline b part cond' = I.pipeline a part cond := by
    intro part hsub hmpart hjpart
    refine pipeline_congr (fun m' hm' => hstages m' (hsub hm')) fun m' hm' r => ?_
    rw [patternsOf_push_of_ne hl hm hk hpush hpred (hsub hm') fun h => hmpart (h ▸ hm'),
      hother m' fun h => hjpart (h ▸ hm')]
  have hpreclauses : pre ⊆ clauses := by simp [hsplit]
  have hmidclauses : mid ⊆ clauses := fun _ h => by simp [hsplit, h]
  have hpostclauses : post ⊆ clauses := fun _ h => by simp [hsplit, h]
  have hj : j ∈ clauses := by simp [hsplit]
  have hne : m ≠ j ∧ m ∉ pre ∧ j ∉ pre ∧ m ∉ mid ∧ j ∉ mid ∧ m ∉ post ∧ j ∉ post := by
    rw [hsplit] at hnodup
    grind
  have hkeepm : (fun r => I.patternsOf b m r ∧ cond' m r) =
      fun r => (I.patternsOf a m r ∧ cond m r) ∧ I.Holds a r pred := by
    funext r
    rw [patternsOf_push hl hm hk hpush hpred hm, hother m hne.1]
    simp only [forall_const, and_right_comm]
  have hkeepj : (fun r => I.patternsOf b j r ∧ cond' j r) = fun r => I.patternsOf a j r ∧ cond' j r := by
    funext r
    rw [patternsOf_push_of_ne hl hm hk hpush hpred hj hne.1.symm]
  have hcondj : (fun r => I.patternsOf a j r ∧ cond j r) =
      fun r => (I.patternsOf a j r ∧ cond' j r) ∧ I.Holds a r pred := by
    funext r
    rw [hown r, and_assoc]
  have hpipeline : I.pipeline b clauses cond' = I.pipeline a pre cond ++
      (I.stage a m, fun r => (I.patternsOf a m r ∧ cond m r) ∧ I.Holds a r pred) ::
        (I.pipeline a mid cond ++ (I.stage a j, fun r => I.patternsOf a j r ∧ cond' j r) ::
          I.pipeline a post cond) := by
    rw [hsplit, pipeline_append, pipeline_cons, pipeline_append, pipeline_cons, hkeepm, hkeepj, hstages m hm,
      hstages j hj, hpiece pre hpreclauses hne.2.1 hne.2.2.1, hpiece mid hmidclauses hne.2.2.2.1 hne.2.2.2.2.1,
      hpiece post hpostclauses hne.2.2.2.2.2.1 hne.2.2.2.2.2.2]
  rw [hpipeline, hsplit, pipeline_append, pipeline_cons, pipeline_append, pipeline_cons, hcondj]
  exact (Lib.Pipeline.run_move hstage hstage' hsettled bag).symm

end

end

end Interpretation

end Voyager
