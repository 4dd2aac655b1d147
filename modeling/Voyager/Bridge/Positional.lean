import Voyager.Bridge.Interpolation

namespace Voyager.Bridge.PostgresBridge

/-- The %-formatting of the driver, which refuses any other percent sign and a wrong number of values. -/
def percentFormat : List Char → List Value → Option (List (Char ⊕ Value))
  | [], values => if values = [] then some [] else none
  | '%' :: 's' :: cs, v :: values => (percentFormat cs values).map (.inr v :: ·)
  | '%' :: '%' :: cs, values => (percentFormat cs values).map (.inl '%' :: ·)
  | c :: cs, values => if c = '%' then none else (percentFormat cs values).map (.inl c :: ·)

variable (W : WordClass) (parameters : Params)

def knownAt (c : Char) (cs : List Char) : Option (ℕ × Value) :=
  (if c = '$' then placeholderAt W cs else none).bind fun name =>
    (parameters.lookup (String.ofList name)).map fun v => (name.length, v)

/-- The statement with the values of its known names in their places. -/
def bound : ℕ → List Char → List (Char ⊕ Value)
  | _, [] => []
  | skip + 1, _ :: cs => bound skip cs
  | 0, c :: cs =>
    match knownAt W parameters c cs with
    | some (n, v) => .inr v :: bound n cs
    | none => .inl c :: bound 0 cs

def driverReads (statement : String) : Option (List (Char ⊕ Value)) :=
  let (text, values) := formatPgqStatement W statement parameters
  percentFormat text.toList values

variable {W parameters} {text name rest : List Char}

lemma percentFormat_append {values out} (hname : '%' ∉ name) (h : percentFormat text values = some out) :
    percentFormat (name ++ text) values = some (name.map .inl ++ out) := by
  induction name with
  | nil => exact h
  | cons c name ih =>
    obtain ⟨hc, hname⟩ := List.ne_and_not_mem_of_not_mem_cons hname
    rw [List.cons_append, percentFormat, if_neg hc.symm, ih hname]
    · rfl
    all_goals
      intros
      exact hc.symm ‹_›

lemma bound_append (hname : '$' ∉ name) :
    bound W parameters 0 (name ++ rest) = name.map .inl ++ bound W parameters name.length (name ++ rest) := by
  induction name with
  | nil => rfl
  | cons c name ih =>
    obtain ⟨hc, hname⟩ := List.ne_and_not_mem_of_not_mem_cons hname
    simp [bound, knownAt, hc.symm, ih hname]

lemma placeholderAt_eq_some (h : placeholderAt W text = some name) :
    '$' ∉ name ∧ '%' ∉ name ∧ ∃ rest, text = name ++ rest := by
  simp only [placeholderAt, Option.ite_none_right_eq_some, Option.some.injEq] at h
  obtain ⟨-, rfl⟩ := h
  refine ⟨fun hdollar => ?_, fun hpercent => ?_, _, (List.takeWhile_append_dropWhile ..).symm⟩
  · exact absurd (List.mem_takeWhile_imp hdollar) (by decide)
  · exact absurd (List.mem_takeWhile_imp hpercent) (by decide)

lemma percentFormat_positionalFrom (h : '%' ∉ text) (skip : ℕ) :
    let (out, values) := positionalFrom W parameters skip text
    percentFormat out values = some (bound W parameters skip text) := by
  induction text generalizing skip with
  | nil => rfl
  | cons c cs ih =>
    obtain ⟨hc, hcs⟩ := List.ne_and_not_mem_of_not_mem_cons h
    cases skip with
    | succ skip => exact ih hcs skip
    | zero =>
      cases hat : if c = '$' then placeholderAt W cs else none with
      | none =>
        have hknown : knownAt W parameters c cs = none := by
          rw [knownAt, hat, Option.bind_none]
        simpa [positionalFrom, bound, hat, hknown] using percentFormat_append (mt List.mem_singleton.mp hc) (ih hcs 0)
      | some name =>
        obtain ⟨rfl, hplace⟩ := Option.ite_none_right_eq_some.mp hat
        cases hvalue : parameters.lookup (String.ofList name) with
        | some v => simp [positionalFrom, bound, knownAt, hplace, hvalue, percentFormat, ih hcs]
        | none =>
          obtain ⟨hname, -, rest, rfl⟩ := placeholderAt_eq_some hplace
          have hpercent : '%' ∉ '$' :: name := by
            simp_all
          simpa [positionalFrom, bound, knownAt, hplace, hvalue, bound_append hname] using
            percentFormat_append hpercent (ih hcs name.length)

def keptChars (out : List (Char ⊕ Value)) : List Char := out.filterMap Sum.getLeft?

lemma keptChars_inl (c : Char) (out : List (Char ⊕ Value)) : keptChars (.inl c :: out) = c :: keptChars out := rfl

lemma keptChars_inr (v : Value) (out : List (Char ⊕ Value)) : keptChars (.inr v :: out) = keptChars out := rfl

lemma keptChars_append (name : List Char) (out : List (Char ⊕ Value)) :
    keptChars (name.map .inl ++ out) = name ++ keptChars out := by
  simp [keptChars, List.filterMap_map, Function.comp_def]

/-- A percent sign of the text that is read takes two in the format, a value takes one. -/
lemma count_percentFormat {values out} (h : percentFormat text values = some out) :
    text.count '%' = values.length + 2 * (keptChars out).count '%' := by
  fun_induction percentFormat text values generalizing out with
  | case1 => cases h; rfl
  | case2 => cases h
  | case3 cs v values ih =>
    obtain ⟨out, hout, rfl⟩ := Option.map_eq_some_iff.mp h
    simp [ih hout, keptChars_inr]
    omega
  | case4 cs values ih =>
    obtain ⟨out, hout, rfl⟩ := Option.map_eq_some_iff.mp h
    simp [ih hout, keptChars_inl]
    omega
  | case5 => cases h
  | case6 c cs values _ _ hc ih =>
    obtain ⟨out, hout, rfl⟩ := Option.map_eq_some_iff.mp h
    simp [hc, ih hout, keptChars_inl]

lemma count_positionalFrom (skip : ℕ) (text : List Char) :
    (positionalFrom W parameters skip text).1.count '%' =
      (positionalFrom W parameters skip text).2.length + (keptChars (bound W parameters skip text)).count '%' := by
  induction text generalizing skip with
  | nil => rfl
  | cons c cs ih =>
    cases skip with
    | succ skip => exact ih skip
    | zero =>
      cases hat : if c = '$' then placeholderAt W cs else none with
      | none =>
        have hknown : knownAt W parameters c cs = none := by
          rw [knownAt, hat, Option.bind_none]
        simp [positionalFrom, bound, hat, hknown, keptChars_inl, List.count_cons, ih 0, add_assoc]
      | some name =>
        obtain ⟨rfl, hplace⟩ := Option.ite_none_right_eq_some.mp hat
        obtain ⟨hname, hpercent, rest, rfl⟩ := placeholderAt_eq_some hplace
        cases hvalue : parameters.lookup (String.ofList name) with
        | some v =>
          simp [positionalFrom, bound, knownAt, hplace, hvalue, keptChars_inr, ih]
          omega
        | none =>
          simp [positionalFrom, bound, knownAt, hplace, hvalue, bound_append hname, keptChars_inl, keptChars_append, ih,
            List.count_eq_zero.mpr hpercent]

lemma percent_mem_bound {skip : ℕ} (hskip : '%' ∉ text.take skip) (h : '%' ∈ text) :
    '%' ∈ keptChars (bound W parameters skip text) := by
  induction text generalizing skip with
  | nil => cases h
  | cons c cs ih =>
    cases skip with
    | succ skip =>
      rw [List.take_succ_cons, List.mem_cons, not_or] at hskip
      exact ih hskip.2 ((List.mem_cons.mp h).resolve_left hskip.1)
    | zero =>
      rw [bound]
      cases hknown : knownAt W parameters c cs with
      | none =>
        rcases List.mem_cons.mp h with rfl | h
        · exact List.mem_cons_self
        · exact List.mem_cons_of_mem _ (ih (by simp) h)
      | some known =>
        obtain ⟨name, hat, hvalue⟩ := Option.bind_eq_some_iff.mp hknown
        obtain ⟨rfl, hplace⟩ := Option.ite_none_right_eq_some.mp hat
        obtain ⟨v, -, rfl⟩ := Option.map_eq_some_iff.mp hvalue
        obtain ⟨-, hpercent, rest, rfl⟩ := placeholderAt_eq_some hplace
        exact ih (by simpa using hpercent) ((List.mem_cons.mp h).resolve_left (by decide))

theorem formatPgqStatement_binds (statement : String) (hgraph : mentionsGraphTable statement = false)
    (hkeys : parameters.keys ≠ []) :
    driverReads W parameters statement = some (bound W parameters 0 statement.toList) ↔ '%' ∉ statement.toList := by
  have hreads : driverReads W parameters statement = percentFormat (positionalFrom W parameters 0 statement.toList).1
      (positionalFrom W parameters 0 statement.toList).2 := by
    simp [driverReads, formatPgqStatement, hkeys, hgraph]
  rw [hreads]
  refine ⟨fun h hmem => ?_, fun hpercent => percentFormat_positionalFrom hpercent 0⟩
  have hformat := count_percentFormat h
  rw [count_positionalFrom] at hformat
  have hkept : '%' ∈ keptChars (bound W parameters 0 _) := percent_mem_bound (by simp) hmem
  have hpos := List.count_pos_iff.mpr hkept
  omega

theorem formatPgqStatement_binds_quotedName :
    driverReads asciiWords quotedName "x = $a" = some ("x = ".toList.map .inl ++ [.inr (.str "it's".toList)]) :=
  (formatPgqStatement_binds "x = $a" (by decide) (by decide)).mpr (by decide)

theorem driver_refuses_percent :
    driverReads asciiWords quotedName "SELECT * FROM cypher('g', $$ RETURN $a $$, %s) AS (result agtype)" = none ∧
      driverReads asciiWords quotedName "x LIKE '%' AND y = $a" = none := by
  decide +kernel

end Voyager.Bridge.PostgresBridge
