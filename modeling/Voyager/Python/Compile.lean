import Voyager.Cache.QueryCache
import Voyager.Emit.Age
import Voyager.Optimizer.Pushdown
import Voyager.Python.Repr
import Voyager.Python.Spec

/-! The compilation of a specification in one call, behind the cache of compiled queries. -/

namespace Voyager

inductive OptimizationLevel
  | none | standard | aggressive
deriving DecidableEq, Repr

def OptimizationLevel.fromStrOpt (s : String) : OptimizationLevel :=
  match s.toLower with
  | "none" | "0" | "off" | "false" => .none
  | "aggressive" | "2" | "all" | "high" => .aggressive
  | _ => .standard

namespace AstOptimizer

def optimize (level : OptimizationLevel) (fuel : ℕ) (root : NodeHandle) : OptM Unit := do
  if level != .none then
    (folds fuel).allExpressions root
    optimizeStatement fuel root
    if level == .aggressive then pruneDeadVariables fuel root

end AstOptimizer

namespace Python

mutual

def Value.depth : Value → ℕ
  | .list items | .tuple items => depthOfItems items
  | .dict entries => depthOfEntries entries
  | .object _ (some base) _ => base.depth
  | _ => 0

def depthOfItems : List Value → ℕ
  | [] => 0
  | item :: items => max (item.depth + 1) (depthOfItems items)

def depthOfEntries : List (Value × Value) → ℕ
  | [] => 0
  | (key, value) :: entries => max (max (key.depth + 1) (value.depth + 1)) (depthOfEntries entries)

end

structure Request where
  spec : Value
  dialect : String
  graphName : Option String
  optimize : Bool
  optimizationLevel : String
  useCache : Bool

/-- What a request meets: the Unicode tables, Python's printing, what `warnings.warn` does with a message and the
emitter for SQL/PGQ. -/
structure Environment where
  unicode : Unicode
  printing : Printing
  warn : String → Except PyErr Unit
  sqlPgq : String → QueryAstArena → NodeHandle → Except PyErr CompiledQuery

variable (env : Environment)

variable (r : Request)

def keyText : List Char :=
  r.dialect.toList ++ ':' :: ((r.graphName.getD "").toList ++ ':' :: (r.spec.repr env.printing ++
    ':' :: ((if r.optimize then "true" else "false").toList ++ ':' :: r.optimizationLevel.toList)))

def cacheKey : Except PyErr String :=
  match env.printing.raises r.spec with
  | some e => .error e
  | none => .ok (.ofList (keyText env r))

def checkWarnCypherPathMode (dialect : String) (pathMode : Option String) : Except PyErr Unit :=
  match pathMode with
  | none => .ok ()
  | some mode =>
    if (env.unicode.trim dialect).toLower ∈ ["cypher", "opencypher", "neo4j", "memgraph"] ∧ ¬mode.isEmpty ∧
        mode.toLower ≠ "none" then
      env.warn ("Dialect '" ++ dialect ++ "' does not support explicit path search modes ('" ++ mode ++
        "'). Cypher default traversal semantics (trail) will be used and the search mode keyword was omitted.")
    else .ok ()

def fuelFor (arena : QueryAstArena) : ℕ := arena.nodes.length + 1

def fromCore {α : Type} (result : Except Error α) : Except PyErr α := result.mapError .core

def emit (arena : QueryAstArena) (root : NodeHandle) : Except PyErr CompiledQuery :=
  match env.unicode.toLowercase r.dialect with
  | "cypher" | "opencypher" | "neo4j" | "memgraph" | "falkordb" | "falkor" =>
    fromCore (Prod.fst <$> Dialect.cypher.visitQuery arena (fuelFor arena) root Emitter.new)
  | "sql_pgq" | "pgq" | "duckpgq" | "sql" => env.sqlPgq (r.graphName.getD "graph_table") arena root
  | "iso_gql" | "gql" => fromCore (Prod.fst <$> Dialect.isoGql.visitQuery arena (fuelFor arena) root Emitter.new)
  | "age" | "apache_age" | "postgres_age" =>
    fromCore (AgeEmitter.visitQuery (r.graphName.getD "age_graph") arena (fuelFor arena) root)
  | other => .error (.voyagerError .unsupportedDialect ("Unsupported query dialect: '" ++ other ++
      "'. Choose from 'cypher', 'sql_pgq', 'iso_gql', or 'apache_age'."))

/-- The compilation itself. Every level of the specification is read through at most two of the readers. -/
def compile : Except PyErr CompiledQuery := do
  let entries ← r.spec.asDict
  let (_, builder) ← ((readers env.unicode (2 * r.spec.depth + 2)).query entries).run .new
  checkWarnCypherPathMode env r.dialect builder.getPathMode
  let (arena, root) := builder.build
  let arena ←
    if r.optimize then
      fromCore (Prod.snd <$>
        (AstOptimizer.optimize (.fromStrOpt r.optimizationLevel) (fuelFor arena) root).run arena)
    else .ok arena
  emit env r arena root

def compileQueryFromSpec (cache : CompiledQueryCache CompiledQuery) (r : Request) :
    Except PyErr CompiledQuery × CompiledQueryCache CompiledQuery :=
  if r.useCache then
    match cacheKey env r with
    | .error e => (.error e, cache)
    | .ok key =>
      match cache.get key with
      | (some cached, cache) => (.ok cached, cache)
      | (none, cache) =>
        match compile env r with
        | .ok compiled => (.ok compiled, cache.put key compiled)
        | .error e => (.error e, cache)
  else (compile env r, cache)

def globalQueryCache : CompiledQueryCache CompiledQuery := .new 1024

def results (cache : CompiledQueryCache CompiledQuery) : List Request → List (Except PyErr CompiledQuery)
  | [] => []
  | r :: rest => (compileQueryFromSpec env cache r).1 :: results (compileQueryFromSpec env cache r).2 rest

end Python

end Voyager
