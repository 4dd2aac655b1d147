import Mathlib
import Voyager.Emit.Clauses
import Voyager.Emit.Walk
import Voyager.Lib.Bindings
import Voyager.Lib.Tracking

/-! What a successful emission adds to the emitter, in terms of the events it walks. -/

namespace Voyager

open Lib (Mark Tracks Woven overlay)

lemma placeholderName_injective : Function.Injective placeholderName := by
  intro m n h
  exact Nat.repr_inj.mp ((String.append_right_inj "p").mp h)

def placeholders (n : ℕ) (events : List Event) : List (String × LiteralValue) :=
  (Mark.numbering n events).map fun p => (placeholderName p.1, p.2)

structure Emits (s : Emitter) (events : List Event) (t : Emitter) : Prop where
  counter : t.paramCounter = Mark.counter s.paramCounter events
  written : t.written = s.written ++ placeholders s.paramCounter events
  parameters : ∀ name, t.parameters.lookup name =
    overlay (placeholders s.paramCounter events) name (s.parameters.lookup name)
  buffer : ∃ text, t.buffer = s.buffer ++ text ∧
    Woven ((placeholders s.paramCounter events).map ("$" ++ ·.1)) text

lemma placeholders_append (n : ℕ) (u v : List Event) :
    placeholders n (u ++ v) = placeholders n u ++ placeholders (Mark.counter n u) v := by
  simp only [placeholders, Mark.numbering_append, List.map_append]

namespace Emits

lemma refl (s : Emitter) : Emits s [] s where
  counter := rfl
  written := (List.append_nil _).symm
  parameters _ := rfl
  buffer := ⟨"", by simp, .done _⟩

lemma trans {s t r : Emitter} {u v : List Event} (hu : Emits s u t) (hv : Emits t v r) : Emits s (u ++ v) r where
  counter := by rw [hv.counter, hu.counter, Mark.counter_append]
  written := by
    rw [hv.written, hu.written, placeholders_append, hu.counter, List.append_assoc]
  parameters name := by
    rw [hv.parameters, hu.parameters, placeholders_append, hu.counter, Lib.overlay_append]
  buffer := by
    obtain ⟨text, htext, hwoven⟩ := hu.buffer
    obtain ⟨more, hmore, hwoven'⟩ := hv.buffer
    refine ⟨text ++ more, by rw [hmore, htext, String.append_assoc], ?_⟩
    rw [placeholders_append, List.map_append, ← hu.counter]
    exact hwoven.append hwoven'

lemma of_buffer {s t : Emitter} {text : String} (h : t = { s with buffer := s.buffer ++ text }) : Emits s [] t := by
  subst h
  exact ⟨rfl, (List.append_nil _).symm, fun _ => rfl, text, rfl, .done _⟩

lemma writeLiteral (s : Emitter) (lit : LiteralValue) : Emits s [.item lit] (s.writeLiteral lit) where
  counter := rfl
  written := rfl
  parameters name := by
    change (s.parameters.insert (placeholderName s.paramCounter) lit).lookup name =
      if placeholderName s.paramCounter = name then some lit else s.parameters.lookup name
    split
    · subst name
      exact AList.lookup_insert _
    · rename_i hne
      exact AList.lookup_insert_ne (Ne.symm hne)
  buffer := by
    refine ⟨"$" ++ placeholderName s.paramCounter, rfl, ?_⟩
    have h := Woven.piece "" ("$" ++ placeholderName s.paramCounter) (.done "")
    rwa [String.append_empty, String.empty_append] at h

end Emits

def emission : Lib.Grading Emitter Event := ⟨Emits, Emits.refl, Emits.trans⟩

abbrev Follows {α : Type} (m : EmitM α) (events : List Event) : Prop := Tracks emission m events

lemma pushStr_follows (s : String) : Follows (pushStr s) [] :=
  Tracks.modify fun _ => Emits.of_buffer rfl

lemma emitExecutionMode_follows (mode : ExecutionMode) : Follows (emitExecutionMode mode) [] :=
  Tracks.modify fun _ => Emits.of_buffer rfl

lemma pushLiteral_follows (lit : LiteralValue) : Follows (pushLiteral lit) [.item lit] :=
  Tracks.modify fun s => Emits.writeLiteral s lit

lemma violation_follows (message : String) (got : AstNode) (events : List Event) :
    Follows (violation message got) events :=
  Tracks.throw _

variable {events : List Event}

lemma text_follows {α : Type} {f : Unit → EmitM α} (s : String) (h : Follows (f ()) events) :
    Follows (pushStr s >>= f) events :=
  (pushStr_follows s).silent_bind fun _ => h

lemma followed_by_text {m : EmitM Unit} (h : Follows m events) (s : String) :
    Follows (m >>= fun _ => pushStr s) events :=
  h.bind_silent fun _ => pushStr_follows s

lemma node_follows {α : Type} {arena : QueryAstArena} {h : NodeHandle} {f : AstNode → EmitM α}
    (hf : ∀ n, arena.nodes[h]? = some n → Follows (f n) events) :
    Follows (node arena h >>= f) events :=
  Tracks.lift_bind fun n hn => hf n (QueryAstArena.get_eq_ok.mp hn)

lemma separated_follows {α : Type} {body : α → EmitM Unit} {events : α → List Event} (sep : String)
    (hbody : ∀ x, Follows (body x) (events x)) (xs : List α) :
    Follows (separated sep body xs) (xs.flatMap events) := by
  cases xs with
  | nil => exact Tracks.pure _
  | cons x xs =>
    refine (hbody x).bind fun _ => ?_
    exact Tracks.forM (fun y => text_follows sep (hbody y)) xs

lemma spaced_follows {body : NodeHandle → EmitM Unit} {events : NodeHandle → List Event}
    (hbody : ∀ h, Follows (body h) (events h)) (hasEmitted : Bool) (hs : List NodeHandle) :
    Follows (spaced body hasEmitted hs) (hs.flatMap events) := by
  induction hs generalizing hasEmitted with
  | nil => exact Tracks.pure _
  | cons h hs ih =>
    have hrest : Follows (body h >>= fun _ => spaced body true hs) (events h ++ hs.flatMap events) :=
      (hbody h).bind fun _ => ih true
    cases hasEmitted with
    | false => exact hrest
    | true => exact text_follows " " hrest

end Voyager
