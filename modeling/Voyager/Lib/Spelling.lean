import Voyager.Lib.Tracking

/-! Texts that are spelled token by token, and programs that write them to a buffer. -/

namespace Voyager.Lib

section

variable {τ : Type} {spell : τ → String → Prop}

inductive Spelled (spell : τ → String → Prop) : List τ → String → Prop
  | nil : Spelled spell [] ""
  | cons {t : τ} {ts : List τ} {s rest : String} : spell t s → Spelled spell ts rest → Spelled spell (t :: ts) (s ++ rest)

variable {s : String}

lemma Spelled.single {t : τ} (h : spell t s) : Spelled spell [t] s := by
  have := Spelled.cons h .nil
  rwa [String.append_empty] at this

lemma Spelled.append {us vs : List τ} {t : String} (hu : Spelled spell us s) (hv : Spelled spell vs t) :
    Spelled spell (us ++ vs) (s ++ t) := by
  induction hu with
  | nil => simpa using hv
  | cons hs _ ih =>
    rw [String.append_assoc]
    exact .cons hs ih

lemma Spelled.eq_join {f : τ → String} {ts : List τ} (hf : ∀ t ∈ ts, ∀ s, spell t s → s = f t)
    (h : Spelled spell ts s) : s = String.join (ts.map f) := by
  induction h with
  | nil => rfl
  | cons hs _ ih =>
    rw [List.map_cons, String.join_cons, hf _ List.mem_cons_self _ hs, ← ih fun t ht => hf t (List.mem_cons_of_mem _ ht)]

end

def spelling {σ τ : Type} (spell : τ → String → Prop) (buffer : σ → String) : Grading σ τ where
  rel s ts t := ∃ text, Spelled spell ts text ∧ buffer t = buffer s ++ text
  refl s := ⟨"", .nil, by simp⟩
  trans := by
    rintro s t r u v ⟨text, hu, ht⟩ ⟨more, hv, hr⟩
    exact ⟨text ++ more, hu.append hv, by rw [hr, ht, String.append_assoc]⟩

end Voyager.Lib
