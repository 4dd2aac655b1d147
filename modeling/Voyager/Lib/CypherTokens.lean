import Voyager.Lib.PrefixFree

/-! The tokens of a Cypher text: names, which may stand in backquotes, and signs of one character. -/

namespace Voyager.Lib.Cypher

open List Bool

inductive Token
  | name (text : List Char)
  | sign (c : Char)
deriving DecidableEq, Repr

structure Alphabet where
  word : Char → Bool
  ascii : ∀ c, c.toNat < 128 → word c = asciiWord c

inductive Mode
  | code
  | name (text : List Char)
  | quoted (text : List Char)
  -- behind a backquote in a quoted name, which ends the name unless another one follows
  | quote (text : List Char)
deriving DecidableEq, Repr

variable (a : Alphabet)

def Alphabet.start (c : Char) : Bool := a.word c && !c.isDigit

def enter (c : Char) : List Token × Mode :=
  if c = '`' then ([], .quoted [])
  else if a.start c then ([], .name [c])
  else if c.isWhitespace then ([], .code)
  else ([.sign c], .code)

def step : Mode → Char → List Token × Mode
  | .code, c => enter a c
  | .name text, c => if a.word c then ([], .name (text ++ [c])) else (.name text :: (enter a c).1, (enter a c).2)
  | .quoted text, c => if c = '`' then ([], .quote text) else ([], .quoted (text ++ [c]))
  | .quote text, c =>
    if c = '`' then ([], .quoted (text ++ ['`'])) else (.name text :: (enter a c).1, (enter a c).2)

def flush : Mode → List Token
  | .code => []
  | .name text | .quoted text | .quote text => [.name text]

def lex : Mode → List Char → List Token
  | m, [] => flush m
  | m, c :: cs => (step a m c).1 ++ lex (step a m c).2 cs

def tokenize (text : String) : List Token := lex a .code text.toList

def IsSign (c : Char) : Prop := c.toNat < 128 ∧ asciiWord c = false ∧ c ≠ '`' ∧ c.isWhitespace = false

instance : DecidablePred IsSign := fun c =>
  inferInstanceAs (Decidable (c.toNat < 128 ∧ asciiWord c = false ∧ c ≠ '`' ∧ c.isWhitespace = false))

def ends : Mode → List Char → Mode := foldl fun m c => (step a m c).2

def Mode.isQuoted : Mode → Bool
  | .quoted _ => true
  | _ => false

/-- Every quoted name ends in the text. -/
def Closed (text : List Char) : Prop := (ends a .code text).isQuoted = false

instance (text : List Char) : Decidable (Closed a text) :=
  inferInstanceAs (Decidable ((ends a .code text).isQuoted = false))

variable {a} {m : Mode} {c : Char}

lemma step_sign (hc : IsSign c) (hm : m.isQuoted = false) : step a m c = (flush m ++ [.sign c], .code) := by
  have hword : a.word c = false := by
    rw [a.ascii c hc.1]
    exact hc.2.1
  have hstart : a.start c = false := by rw [Alphabet.start, hword, Bool.false_and]
  have henter : enter a c = ([.sign c], .code) := by simp [enter, hc.2.2.1, hstart, hc.2.2.2]
  cases m with
  | code => exact henter
  | name text => simp [step, hword, henter, flush]
  | quoted text => cases hm
  | quote text => simp [step, hc.2.2.1, henter, flush]

section

variable {text rest : List Char}

lemma lex_append_sign (hc : IsSign c) (h : (ends a m text).isQuoted = false) :
    lex a m (text ++ c :: rest) = lex a m text ++ .sign c :: lex a .code rest := by
  induction text generalizing m with
  | nil =>
    have hstep : step a m c = (flush m ++ [.sign c], .code) := step_sign hc h
    rw [nil_append, lex, lex, hstep, append_assoc]
    rfl
  | cons d text ih => rw [cons_append, lex, lex, ih h, append_assoc]

lemma ends_append_sign (hc : IsSign c) (h : (ends a m text).isQuoted = false) :
    ends a m (text ++ c :: rest) = ends a .code rest := by
  rw [ends, foldl_append, foldl_cons]
  change foldl _ (step a (ends a m text) c).2 rest = _
  rw [step_sign hc h, ends]

lemma isQuoted_append (h : (ends a m text).isQuoted = true) (hrest : '`' ∉ rest) :
    (ends a m (text ++ rest)).isQuoted = true := by
  rw [ends, foldl_append]
  change (ends a (ends a m text) rest).isQuoted = true
  generalize ends a m text = m at h
  induction rest generalizing m with
  | nil => exact h
  | cons c rest ih =>
    obtain ⟨hc, hrest⟩ := not_or.mp (mem_cons.not.mp hrest)
    cases m with
    | quoted text => exact ih hrest _ (by simp [step, Ne.symm hc, Mode.isQuoted])
    | _ => cases h

end

end Voyager.Lib.Cypher
