import Voyager.Net.PoolEffects

namespace Voyager.Net

open Lib AsyncConnection

variable {C : Type}

def Pool.flags (s : Pool C) (e : Event C) : Flags :=
  match e with
  | .start _ => .none
  | .use _ _ _ => .none
  | .drop _ _ => .none
  | .resume i o =>
    match s.tasks[i]? with
    | some (.acquire state) => ⟨state.isReleasing, state.joins s.inner, state.isStowing, false, state.creates o⟩
    | some (.warmUp (.creating _)) => ⟨false, false, false, false, o.ok⟩
    | some (.warmUp (.stowing _ _)) => ⟨false, false, true, false, false⟩
    | _ => .none
  | .timeout i _ =>
    match s.tasks[i]? with
    | some (.acquire state) => ⟨state.dropsPermit, false, false, false, false⟩
    | _ => .none
  | .cancel i _ =>
    match s.tasks[i]? with
    | some (.acquire state) => ⟨state.dropsPermit, false, false, state.isChecking, false⟩
    | _ => .none

open Pool

def WarmUpState.isStowing : WarmUpState C → Bool
  | .stowing _ _ => true
  | _ => false

def WarmUpState.creates (o : Outcome C) : WarmUpState C → Bool
  | .creating _ => o.ok
  | _ => false

section

variable {s : Pool C} {i : ℕ} {o : Outcome C}

lemma flags_warmUp {state : WarmUpState C} (hi : s.tasks[i]? = some (.warmUp state)) :
    s.flags (.resume i o) = ⟨false, false, state.isStowing, false, state.creates o⟩ := by
  simp only [flags, hi]
  cases state <;> rfl

lemma flags_evict {finished : Bool} (hi : s.tasks[i]? = some (.evictExpired finished)) :
    s.flags (.resume i o) = .none := by
  simp only [flags, hi]

lemma flags_close {state : CloseState} (hi : s.tasks[i]? = some (.close state)) : s.flags (.resume i o) = .none := by
  simp only [flags, hi]

end

lemma befall_eq_some {s s' : Pool C} {i : ℕ} {f : AcquireState C → Option (Turn C)} (h : s.befall i f = some s') :
    ∃ state turn, s.tasks[i]? = some (.acquire state) ∧ f state = some turn ∧ s' = s.conclude i turn := by
  rw [befall] at h
  split at h
  · rename_i state hi
    obtain ⟨turn, hturn, rfl⟩ := Option.map_eq_some_iff.mp h
    exact ⟨state, turn, hi, hturn, rfl⟩
  · cases h

lemma Pool.tasks_of_waits {s : Pool C} {j : ℕ} (h : s.waits j = true) :
    s.tasks[j]? = some (.acquire (.waiting none)) := by
  rw [waits] at h
  split at h
  · assumption
  · cases h

section

variable {s : Pool C} {i : ℕ} {state : AcquireState C} {flags : Flags} {turn : Turn C}
  (hi : s.tasks[i]? = some (.acquire state)) (heffect : Effect s.waits s.inner state i flags turn)
include hi heffect

/-- The waiter that is sent something is another task. -/
lemma tasks_of_sent {j : ℕ} {handover : Handover C} (hsent : turn.sent = some (j, handover)) :
    s.tasks[j]? = some (.acquire (.waiting none)) ∧
      (s.tasks.set j (.acquire (.waiting (some handover))))[i]? = some (.acquire state) := by
  obtain ⟨hwaits, hstate⟩ := heffect.sent j handover hsent
  have hj := tasks_of_waits hwaits
  have hne : j ≠ i := by
    rintro rfl
    rw [hj] at hi
    cases hi
    exact hstate rfl
  exact ⟨hj, by rw [List.getElem?_set_ne hne, hi]⟩

lemma load_conclude {f : Task C → ℕ} (hf : f (.acquire (.waiting none)) = 0) :
    Tasks.load f (s.conclude i turn).tasks + f (.acquire state) =
      Tasks.load f s.tasks + turn.holds fun state => f (.acquire state) := by
  rw [conclude, Turn.holds]
  cases hsent : turn.sent with
  | none =>
    simp only [Nat.add_zero]
    exact Tasks.load_set f hi _
  | some sent =>
    obtain ⟨j, handover⟩ := sent
    obtain ⟨hj, hi'⟩ := tasks_of_sent hi heffect hsent
    have hset := Tasks.load_set f hj (.acquire (.waiting (some handover)))
    have hset' := Tasks.load_set f hi' (.acquire turn.state)
    simp only
    omega

end

variable [AsyncConnection C]

inductive Stepped (config : PoolConfig) (s : Pool C) (e : Event C) : Pool C → Prop where
  | start {task : Task C} (he : e = .start task) (hfresh : Pool.fresh config task = true) :
      Stepped config s e { s with tasks := s.tasks ++ [task] }
  | turn {i : ℕ} {state : AcquireState C} {turn : Turn C} (hi : s.tasks[i]? = some (.acquire state))
      (heffect : Effect s.waits s.inner state i (s.flags e) turn) :
      Stepped config s e (s.conclude i turn)
  | warmUp {i : ℕ} {o : Outcome C} {state state' : WarmUpState C} {inner : PoolInner C} (he : e = .resume i o)
      (hi : s.tasks[i]? = some (.warmUp state)) (hresume : state.resume s.inner o = some (state', inner)) :
      Stepped config s e ⟨inner, s.tasks.set i (.warmUp state')⟩
  | evict {i : ℕ} {o : Outcome C} (he : e = .resume i o) (hi : s.tasks[i]? = some (.evictExpired false)) :
      Stepped config s e ⟨evict config s.inner o.now, s.tasks.set i (.evictExpired true)⟩
  | close {i : ℕ} {o : Outcome C} {state state' : CloseState} {inner : PoolInner C} (he : e = .resume i o)
      (hi : s.tasks[i]? = some (.close state)) (hresume : state.resume s.inner = some (state', inner)) :
      Stepped config s e ⟨inner, s.tasks.set i (.close state')⟩

lemma stepped {config : PoolConfig} {s s' : Pool C} {e : Event C} (h : s.step config e = some s') :
    Stepped config s e s' := by
  cases e with
  | start task =>
    rw [step] at h
    split_ifs at h with hfresh
    cases h
    exact .start rfl hfresh
  | resume i o =>
    rw [step, resume] at h
    split at h
    · rename_i state hi
      obtain ⟨turn, hturn, rfl⟩ := Option.map_eq_some_iff.mp h
      refine .turn hi ?_
      simp only [flags, hi]
      exact effect_resume config hturn
    · rename_i state hi
      obtain ⟨⟨state', inner⟩, hresume, rfl⟩ := Option.map_eq_some_iff.mp h
      exact .warmUp rfl hi hresume
    · rename_i hi
      cases h
      exact .evict rfl hi
    · rename_i state hi
      obtain ⟨⟨state', inner⟩, hresume, rfl⟩ := Option.map_eq_some_iff.mp h
      exact .close rfl hi hresume
    · cases h
  | use i conn markBroken =>
    obtain ⟨state, turn, hi, hturn, rfl⟩ := befall_eq_some h
    exact .turn hi (effect_use hturn)
  | drop i runtime =>
    obtain ⟨state, turn, hi, hturn, rfl⟩ := befall_eq_some h
    exact .turn hi (effect_drop hturn)
  | timeout i runtime =>
    obtain ⟨state, turn, hi, hturn, rfl⟩ := befall_eq_some h
    refine .turn hi ?_
    simp only [flags, hi]
    exact effect_timeout hturn
  | cancel i runtime =>
    obtain ⟨state, turn, hi, hturn, rfl⟩ := befall_eq_some h
    refine .turn hi ?_
    simp only [flags, hi]
    exact effect_cancel hturn

end Voyager.Net
