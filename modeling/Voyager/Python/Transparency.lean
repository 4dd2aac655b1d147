import Voyager.Cache.Soundness
import Voyager.Python.Compile

/-! Requests that their keys tell apart get the same answers with the cache as without it. -/

namespace Voyager.Python

open Lib CompiledQueryCache List

variable (env : Environment)

structure Request.Keyable (r : Request) : Prop where
  prints : env.printing.raises r.spec = none
  plain : r.spec.Plain
  dialect : ':' ∉ r.dialect.toList
  graphName : ':' ∉ (r.graphName.getD "").toList
  named : r.graphName ≠ some ""

def Request.withoutCache (r : Request) : Request := { r with useCache := false }

lemma compile_withoutCache (r : Request) : compile env r.withoutCache = compile env r := rfl

variable {env}

lemma colon_inj {a b rest rest' : List Char} (ha : ':' ∉ a) (hb : ':' ∉ b) (h : a ++ ':' :: rest = b ++ ':' :: rest') :
    a = b ∧ rest = rest' := by
  have hplain : ∀ {a : List Char}, ':' ∉ a → ∀ c ∈ a, (c != ':') = true := by
    intro a ha c hc
    rw [bne_iff_ne]
    rintro rfl
    exact ha hc
  have hstops : ∀ rest : List Char, Stops (· != ':') (':' :: rest) := stops_cons rfl
  obtain ⟨hab, hrest⟩ := append_inj_of_stops (hplain ha) (hplain hb) (hstops rest) (hstops rest') h
  exact ⟨hab, (List.cons.inj hrest).2⟩

lemma graphName_inj {a b : Option String} (ha : a ≠ some "") (hb : b ≠ some "") (h : a.getD "" = b.getD "") : a = b := by
  cases a with
  | none =>
    cases b with
    | none => rfl
    | some b => exact absurd (congrArg some h.symm) hb
  | some a =>
    cases b with
    | none => exact absurd (congrArg some h) ha
    | some b => exact congrArg some h

lemma optimize_inj {a b : Bool}
    (h : (if a then "true" else "false").toList = (if b then "true" else "false").toList) : a = b := by
  cases a with
  | false =>
    cases b with
    | false => rfl
    | true => exact absurd h (by decide)
  | true =>
    cases b with
    | false => exact absurd h (by decide)
    | true => rfl

variable {r r' : Request}

lemma keyText_inj (hr : r.Keyable env) (hr' : r'.Keyable env) (h : keyText env r = keyText env r') :
    r.withoutCache = r'.withoutCache := by
  have hflag : ∀ b : Bool, ':' ∉ (if b then "true" else "false").toList := by decide
  have hstops : ∀ rest : List Char, Stops isAtom (':' :: rest) := stops_cons (by decide)
  obtain ⟨hdialect, h⟩ := colon_inj hr.dialect hr'.dialect h
  obtain ⟨hgraph, h⟩ := colon_inj hr.graphName hr'.graphName h
  obtain ⟨hspec, h⟩ := repr_delimited env.printing hr.plain hr'.plain (hstops _) (hstops _) h
  obtain ⟨hoptimize, hlevel⟩ := colon_inj (hflag _) (hflag _) (List.cons.inj h).2
  have hname := graphName_inj hr.named hr'.named (String.toList_inj.mp hgraph)
  cases r with
  | mk spec dialect graphName optimize level useCache =>
    cases r' with
    | mk spec' dialect' graphName' optimize' level' useCache' =>
      rw [Request.withoutCache, Request.withoutCache, Request.mk.injEq]
      exact ⟨hspec, String.toList_inj.mp hdialect, hname, optimize_inj hoptimize, String.toList_inj.mp hlevel, rfl⟩

lemma cacheKey_eq (h : r.Keyable env) : cacheKey env r = .ok (.ofList (keyText env r)) := by
  rw [cacheKey, h.prints]

lemma compile_eq_of_cacheKey (hr : r.Keyable env) (hr' : r'.Keyable env)
    (h : cacheKey env r = cacheKey env r') : compile env r = compile env r' := by
  rw [cacheKey_eq hr, cacheKey_eq hr'] at h
  have htext := String.ofList_injective (Except.ok.inj h)
  rw [← compile_withoutCache env r, keyText_inj hr hr' htext, compile_withoutCache]

def Compiles (env : Environment) (key : String) (compiled : CompiledQuery) : Prop :=
  ∀ r : Request, r.Keyable env → cacheKey env r = .ok key → compile env r = .ok compiled

variable {compiled : CompiledQuery} {key : String}

lemma compiles_of_compile (hr : r.Keyable env) (hkey : cacheKey env r = .ok key) (h : compile env r = .ok compiled) :
    Compiles env key compiled := by
  intro r' hr' hkey'
  rw [← h]
  apply compile_eq_of_cacheKey hr' hr
  rw [hkey', hkey]

lemma compileQueryFromSpec_of_key (huse : r.useCache = true) (hkey : cacheKey env r = .ok key)
    (cache : CompiledQueryCache CompiledQuery) :
    compileQueryFromSpec env cache r =
      match cache.query? key with
      | some cached => (.ok cached, (cache.get key).2)
      | none =>
        match compile env r with
        | .ok compiled => (.ok compiled, (cache.get key).2.put key compiled)
        | .error e => (.error e, (cache.get key).2) := by
  rw [compileQueryFromSpec, if_pos huse, hkey, ← get_fst]
  cases hget : cache.get key with
  | mk found next =>
    cases found with
    | none =>
      cases hcompile : compile env r with
      | ok compiled | error e => simp only [hget]
    | some cached => simp only [hget]

variable {cache : CompiledQueryCache CompiledQuery}

lemma compileQueryFromSpec_step (hcache : cache.Holds (Compiles env)) (hr : r.useCache = true → r.Keyable env) :
    (compileQueryFromSpec env cache r).1 = compile env r ∧
      (compileQueryFromSpec env cache r).2.Holds (Compiles env) := by
  cases huse : r.useCache with
  | false =>
    rw [compileQueryFromSpec, if_neg (by simp [huse])]
    exact ⟨rfl, hcache⟩
  | true =>
    have hkey := cacheKey_eq (hr huse)
    rw [compileQueryFromSpec_of_key huse hkey]
    cases hfound : cache.query? (.ofList (keyText env r)) with
    | some cached =>
      have hright := hcache _ _ hfound r (hr huse) hkey
      exact ⟨hright.symm, hcache.get _⟩
    | none =>
      cases hcompile : compile env r with
      | error e => exact ⟨rfl, hcache.get _⟩
      | ok compiled => exact ⟨rfl, (hcache.get _).put (compiles_of_compile (hr huse) hkey hcompile)⟩

lemma results_eq_map {requests : List Request} (h : ∀ r ∈ requests, r.useCache = true → r.Keyable env)
    (hcache : cache.Holds (Compiles env)) :
    results env cache requests = requests.map (compile env) := by
  induction requests generalizing cache with
  | nil => rfl
  | cons r rest ih =>
    obtain ⟨hresult, hnext⟩ := compileQueryFromSpec_step hcache (h r mem_cons_self)
    rw [results, hresult, ih (fun r hr => h r (mem_cons_of_mem _ hr)) hnext, map_cons]

theorem query_cache_transparent (env : Environment) (requests : List Request)
    (h : ∀ r ∈ requests, r.useCache = true → r.Keyable env) :
    results env globalQueryCache requests = results env globalQueryCache (requests.map Request.withoutCache) ∧
      ∀ r r' : Request, r.Keyable env → r'.Keyable env → cacheKey env r = cacheKey env r' →
        compile env r = compile env r' := by
  refine ⟨?_, fun r r' hr hr' hkey => compile_eq_of_cacheKey hr hr' hkey⟩
  have hempty : globalQueryCache.Holds (Compiles env) := .new 1024
  rw [results_eq_map h hempty, results_eq_map _ hempty, map_map]
  · rfl
  · intro r hr huse
    obtain ⟨r, -, rfl⟩ := List.mem_map.mp hr
    cases huse

lemma results_of_same_key (huse : r.useCache = true) (huse' : r'.useCache = true) (hkey : cacheKey env r = .ok key)
    (hkey' : cacheKey env r' = .ok key) (h : compile env r = .ok compiled) :
    results env globalQueryCache [r, r'] = [.ok compiled, .ok compiled] := by
  have hempty : globalQueryCache.query? key = none := rfl
  rw [results, compileQueryFromSpec_of_key huse hkey, hempty, h, results,
    compileQueryFromSpec_of_key huse' hkey', query?_put_self]
  rfl

section

/-- Floats as their bits with a point, which is enough of Python's format. -/
def plainPrinting : Printing where
  float bits := (toString bits.toNat).toList ++ ['.']
  isPrintable _ := true
  raises _ := none
  float_chars := by
    intro bits c hc
    rw [toList_toString_nat, mem_append, mem_singleton] at hc
    rcases hc with hc | rfl
    · have := Nat.isDigit_of_mem_toDigits (by decide) (by decide) hc
      simp [isFloatChar, this]
    · rfl
  float_fraction := by
    intro bits
    exact ⟨'.', by simp, by decide, by decide⟩
  float_injective := by
    intro a b _ _ h
    rw [toList_toString_nat, toList_toString_nat] at h
    exact UInt64.toNat_inj.mp (toDigits_injective (append_cancel_right h))

def plainEnvironment : Environment where
  unicode := Unicode.ascii
  printing := plainPrinting
  warn _ := .ok ()
  sqlPgq _ _ _ := .error (.core .outOfFuel)

def projecting (expr : Value) : Request where
  spec := .dict
    [(.str "spec_version", .int 1),
      (.str "matches", .list [.dict [(.str "paths", .list [.list [.tuple [.str "node", .str "n", .list []]]])]]),
      (.str "projections", .list [.tuple [.str "expr", expr, .none]])]
  dialect := "cypher"
  graphName := none
  optimize := true
  optimizationLevel := "standard"
  useCache := true

def propertyOf (key : String) : Value :=
  let (handle, builder) := QueryBuilder.new.prop "n" key
  .expr builder.arena handle

def statement? (result : Except PyErr CompiledQuery) : Option String :=
  result.toOption.map CompiledQuery.statement

lemma exists_of_statement? {result : Except PyErr CompiledQuery} {s : String} (h : statement? result = some s) :
    ∃ compiled, result = .ok compiled := by
  cases result with
  | error e => cases h
  | ok compiled => exact ⟨compiled, rfl⟩

theorem expression_answered_with_another :
    cacheKey plainEnvironment (projecting (propertyOf "name")) =
        cacheKey plainEnvironment (projecting (propertyOf "age")) ∧
      (results plainEnvironment globalQueryCache
          [projecting (propertyOf "name"), projecting (propertyOf "age")]).map statement? =
        [some "MATCH (n) RETURN n.name", some "MATCH (n) RETURN n.name"] ∧
      (results plainEnvironment globalQueryCache
          [(projecting (propertyOf "name")).withoutCache, (projecting (propertyOf "age")).withoutCache]).map statement? =
        [some "MATCH (n) RETURN n.name", some "MATCH (n) RETURN n.age"] := by
  have hkey : cacheKey plainEnvironment (projecting (propertyOf "name")) =
      cacheKey plainEnvironment (projecting (propertyOf "age")) := rfl
  have hname : statement? (compile plainEnvironment (projecting (propertyOf "name"))) =
      some "MATCH (n) RETURN n.name" := by decide +kernel
  obtain ⟨compiled, hcompiled⟩ := exists_of_statement? hname
  refine ⟨hkey, ?_, by decide +kernel⟩
  rw [results_of_same_key rfl rfl rfl hkey.symm hcompiled]
  rw [hcompiled] at hname
  rw [map_cons, map_cons, map_nil, hname]

lemma keyable_projecting {expr : Value} (h : expr.Plain) : (projecting expr).Keyable plainEnvironment where
  prints := rfl
  plain := by simp [projecting, h, Value.Plain.none, Value.Plain.int, Value.Plain.str]
  dialect := show ':' ∉ "cypher".toList by decide
  graphName := show ':' ∉ "".toList by decide
  named := nofun

theorem query_cache_transparent_projections :
    results plainEnvironment globalQueryCache
        [projecting (.tuple [.str "prop", .str "n", .str "name"]),
          projecting (.tuple [.str "prop", .str "n", .str "age"])] =
      results plainEnvironment globalQueryCache
        [(projecting (.tuple [.str "prop", .str "n", .str "name"])).withoutCache,
          (projecting (.tuple [.str "prop", .str "n", .str "age"])).withoutCache] := by
  have hplain : ∀ key, (Value.tuple [.str "prop", .str "n", .str key]).Plain := by
    intro key
    simp [Value.Plain.str]
  refine (query_cache_transparent plainEnvironment _ ?_).1
  intro r hr _
  rw [mem_pair] at hr
  rcases hr with rfl | rfl
  · exact keyable_projecting (hplain "name")
  · exact keyable_projecting (hplain "age")

end

end Voyager.Python
