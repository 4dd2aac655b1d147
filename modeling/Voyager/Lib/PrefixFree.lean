import Mathlib.Tactic

/-! Texts that can be read off the front of a longer text. -/

namespace Voyager.Lib

open List

/-- The characters of an ASCII identifier. -/
def asciiWord (c : Char) : Bool := c.isAlphanum || c = '_'

variable {α : Type*} {p : α → Bool}

def Stops (p : α → Bool) (rest : List α) : Prop := ∀ c ∈ rest.head?, p c = false

lemma stops_cons {c : α} (h : p c = false) (rest : List α) : Stops p (c :: rest) := by
  intro d hd
  obtain rfl : c = d := by simpa using hd
  exact h

lemma takeWhile_append_of_stops {a rest : List α} (ha : ∀ c ∈ a, p c = true) (hrest : Stops p rest) :
    (a ++ rest).takeWhile p = a := by
  induction a with
  | nil =>
    cases rest with
    | nil => rfl
    | cons c rest =>
      apply takeWhile_cons_of_neg
      rw [hrest c rfl]
      simp
  | cons c a ih =>
    rw [cons_append, takeWhile_cons_of_pos (ha c mem_cons_self)]
    rw [ih (fun d hd => ha d (mem_cons_of_mem c hd))]

lemma append_inj_of_stops {a b rest rest' : List α} (ha : ∀ c ∈ a, p c = true) (hb : ∀ c ∈ b, p c = true)
    (hrest : Stops p rest) (hrest' : Stops p rest') (h : a ++ rest = b ++ rest') : a = b ∧ rest = rest' := by
  have hab : a = b := by
    rw [← takeWhile_append_of_stops ha hrest, h, takeWhile_append_of_stops hb hrest']
  subst hab
  exact ⟨rfl, append_cancel_left h⟩

variable {β : Type*} {text : β → List α} {good : β → Prop}

def Delimited (p : α → Bool) (text : β → List α) (good : β → Prop) (x : β) : Prop :=
  ∀ ⦃y : β⦄ ⦃rest rest' : List α⦄, good y → Stops p rest → Stops p rest' → text x ++ rest = text y ++ rest' →
    x = y ∧ rest = rest'

def followed (comma : α) (space : List α) (text : β → List α) (xs : List β) : List α :=
  xs.flatMap fun x => comma :: (space ++ text x)

def joined (comma : α) (space : List α) (text : β → List α) : List β → List α
  | [] => []
  | x :: xs => text x ++ followed comma space text xs

variable {comma close : α} {space : List α}

lemma followed_cons (x : β) (xs : List β) (rest : List α) : followed comma space text (x :: xs) ++ rest =
      comma :: (space ++ (text x ++ (followed comma space text xs ++ rest))) := by
  simp [followed, append_assoc]

section

variable (hcomma : p comma = false) (hclose : p close = false)

include hcomma hclose

lemma stops_followed (xs : List β) (rest : List α) : Stops p (followed comma space text xs ++ close :: rest) := by
  cases xs with
  | nil => exact stops_cons hclose rest
  | cons x xs =>
    rw [followed_cons]
    exact stops_cons hcomma _

variable {xs ys : List β} {rest rest' : List α} (hne : comma ≠ close)

include hne

lemma followed_inj (hxs : ∀ x ∈ xs, Delimited p text good x) (hys : ∀ y ∈ ys, good y)
    (h : followed comma space text xs ++ close :: rest = followed comma space text ys ++ close :: rest') :
    xs = ys ∧ rest = rest' := by
  induction xs generalizing ys with
  | nil =>
    cases ys with
    | nil => exact ⟨rfl, (List.cons.inj h).2⟩
    | cons y ys =>
      rw [followed_cons] at h
      exact absurd (List.cons.inj h).1.symm hne
  | cons x xs ih =>
    cases ys with
    | nil =>
      rw [followed_cons] at h
      exact absurd (List.cons.inj h).1 hne
    | cons y ys =>
      rw [followed_cons, followed_cons] at h
      have htexts := append_cancel_left (List.cons.inj h).2
      obtain ⟨rfl, htail⟩ := hxs x mem_cons_self (hys y mem_cons_self)
        (stops_followed hcomma hclose xs rest) (stops_followed hcomma hclose ys rest') htexts
      obtain ⟨rfl, hrest⟩ := ih (fun z hz => hxs z (mem_cons_of_mem x hz))
        (fun z hz => hys z (mem_cons_of_mem x hz)) htail
      exact ⟨rfl, hrest⟩

lemma cons_followed_inj {x y : β} (hxs : ∀ z ∈ x :: xs, Delimited p text good z) (hys : ∀ z ∈ y :: ys, good z)
    (h : text x ++ (followed comma space text xs ++ close :: rest) = text y ++ (followed comma space text ys ++ close :: rest'))
    : x :: xs = y :: ys ∧ rest = rest' := by
  obtain ⟨rfl, htail⟩ := hxs x mem_cons_self (hys y mem_cons_self)
    (stops_followed hcomma hclose xs rest) (stops_followed hcomma hclose ys rest') h
  obtain ⟨rfl, hrest⟩ := followed_inj hcomma hclose hne (fun z hz => hxs z (mem_cons_of_mem x hz))
    (fun z hz => hys z (mem_cons_of_mem x hz)) htail
  exact ⟨rfl, hrest⟩

lemma joined_inj (hopen : ∀ y rest rest', good y → Stops p rest → text y ++ rest ≠ close :: rest')
    (hxs : ∀ x ∈ xs, Delimited p text good x) (hgood : ∀ x ∈ xs, good x) (hys : ∀ y ∈ ys, good y)
    (h : joined comma space text xs ++ close :: rest = joined comma space text ys ++ close :: rest') :
    xs = ys ∧ rest = rest' := by
  cases xs with
  | nil =>
    cases ys with
    | nil => exact ⟨rfl, (List.cons.inj h).2⟩
    | cons y ys =>
      rw [joined, joined, append_assoc] at h
      exact absurd h.symm (hopen y _ _ (hys y mem_cons_self) (stops_followed hcomma hclose ys rest'))
  | cons x xs =>
    cases ys with
    | nil =>
      rw [joined, joined, append_assoc] at h
      exact absurd h (hopen x _ _ (hgood x mem_cons_self) (stops_followed hcomma hclose xs rest))
    | cons y ys =>
      rw [joined, joined, append_assoc, append_assoc] at h
      exact cons_followed_inj hcomma hclose hne hxs hys h

end

end Voyager.Lib
