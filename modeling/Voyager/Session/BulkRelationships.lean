import Voyager.Session.Bulk

/-! The statement that creates relationships in bulk and the variables it introduces. -/

namespace Voyager

section

variable (lower : String → String) (relType : String) (properties : List String)
  (fromLabel fromKey toLabel toKey batchParam rowAlias : String)

def compileBulkCreateRel : NodeHandle × QueryAstArena :=
  let arena : QueryAstArena := ⟨[]⟩
  let fromVar := "_from_" ++ lower fromLabel ++ "_0"
  let toVar := "_to_" ++ lower toLabel ++ "_0"
  let relVar := "_" ++ lower relType ++ "_0"
  let (batchParamHandle, arena) := arena.alloc (.parameter batchParam)
  let (unwindHandle, arena) := arena.alloc (.unwindClause batchParamHandle rowAlias)
  let (fromVarIdent, arena) := arena.alloc (.identifier fromVar)
  let (toVarIdent, arena) := arena.alloc (.identifier toVar)
  let (rowAliasIdent, arena) := arena.alloc (.identifier rowAlias)
  let (fromKeyProp, arena) := arena.alloc (.propertyAccess fromVarIdent fromKey)
  let (rowFromKeyProp, arena) := arena.alloc (.propertyAccess rowAliasIdent ("from_" ++ fromKey))
  let (fromPred, arena) := arena.alloc (.binaryExpression fromKeyProp .eq rowFromKeyProp)
  let (fromNodeHandle, arena) := arena.alloc (.nodePattern (some fromVar) (some (.label fromLabel)) [fromPred])
  let (toKeyProp, arena) := arena.alloc (.propertyAccess toVarIdent toKey)
  let (rowToKeyProp, arena) := arena.alloc (.propertyAccess rowAliasIdent ("to_" ++ toKey))
  let (toPred, arena) := arena.alloc (.binaryExpression toKeyProp .eq rowToKeyProp)
  let (toNodeHandle, arena) := arena.alloc (.nodePattern (some toVar) (some (.label toLabel)) [toPred])
  let (matchHandle, arena) := arena.alloc (.matchClause false [fromNodeHandle, toNodeHandle] none)
  let (destNodeRef, arena) := arena.alloc (.nodePattern (some toVar) none [])
  let (edgePattern, arena) :=
    arena.alloc (.edgePattern (some relVar) (some (.label relType)) .outgoing none none [] destNodeRef)
  let (srcNodeRef, arena) := arena.alloc (.nodePattern (some fromVar) none [])
  let (pathChain, arena) := arena.alloc (.pathChain none .none srcNodeRef [edgePattern])
  let (createHandle, arena) := arena.alloc (.createClause [pathChain])
  let (relVarIdent, arena) := arena.alloc (.identifier relVar)
  let (setItems, arena) := allocSetItems relVarIdent rowAliasIdent properties arena
  let (mutations, arena) :=
    if setItems.isEmpty then ([createHandle], arena)
    else
      let (setClause, arena) := arena.alloc (.setClause setItems)
      ([createHandle, setClause], arena)
  arena.alloc (.queryStatement .normal none [unwindHandle] [matchHandle] [] [] mutations none)

end

/-- The variable that a node of a statement introduces; a pattern without labels only refers to one. -/
def AstNode.introduced : AstNode → Option String
  | .unwindClause _ row => some row
  | .nodePattern var (some _) _ => var
  | .edgePattern var .. => var
  | _ => none

open AstNode

lemma introduced_alloc (arena : QueryAstArena) (n : AstNode) : (arena.alloc n).2.nodes.filterMap introduced =
      arena.nodes.filterMap introduced ++ n.introduced.toList := by
  rw [QueryAstArena.alloc, List.filterMap_append]
  cases hn : n.introduced <;> simp [hn]

lemma introduced_allocSetItems (ident row : NodeHandle) (props : List String) (arena : QueryAstArena) :
    (allocSetItems ident row props arena).2.nodes.filterMap introduced =
      arena.nodes.filterMap introduced := by
  induction props generalizing arena with
  | nil => rfl
  | cons prop props ih =>
    rw [allocSetItems]
    simp [ih, allocSetItem, introduced_alloc, introduced]

section

variable (lower : String → String) (relType : String) (properties : List String)
  (fromLabel fromKey toLabel toKey batchParam rowAlias : String)

lemma introduced_compileBulkCreateRel :
    (compileBulkCreateRel lower relType properties fromLabel fromKey toLabel toKey batchParam
      rowAlias).2.nodes.filterMap introduced =
      [rowAlias, "_from_" ++ lower fromLabel ++ "_0", "_to_" ++ lower toLabel ++ "_0",
        "_" ++ lower relType ++ "_0"] := by
  simp only [compileBulkCreateRel]
  split_ifs
  all_goals simp [introduced_alloc, introduced_allocSetItems, introduced]

theorem bulk_variables_distinct :
    ((compileBulkCreateRel lower relType properties fromLabel fromKey toLabel toKey batchParam
        rowAlias).2.nodes.filterMap AstNode.introduced).Nodup ↔
      lower relType ≠ "from_" ++ lower fromLabel ∧ lower relType ≠ "to_" ++ lower toLabel ∧
        rowAlias ∉ ["_from_" ++ lower fromLabel ++ "_0", "_to_" ++ lower toLabel ++ "_0",
          "_" ++ lower relType ++ "_0"] := by
  have hclash : ∀ part label : String,
      ("_" ++ part) ++ label ++ "_0" = "_" ++ lower relType ++ "_0" ↔ lower relType = part ++ label := by
    intro part label
    rw [String.append_left_inj, String.append_assoc, String.append_right_inj, eq_comm]
  have hfrom := hclash "from_" (lower fromLabel)
  have hto := hclash "to_" (lower toLabel)
  have hne : "_from_" ++ lower fromLabel ++ "_0" ≠ "_to_" ++ lower toLabel ++ "_0" := by
    rw [← String.toList_inj.ne]
    simp
  rw [introduced_compileBulkCreateRel]
  simp only [List.nodup_cons, List.mem_cons, List.not_mem_nil, or_false, not_or, hne, not_false_eq_true]
  tauto

end

theorem bulk_variables_clash :
    (compileBulkCreateRel String.toLower "FROM_PERSON" [] "Person" "id" "Company" "id" "batch"
      "row").2.nodes.filterMap AstNode.introduced =
        ["row", "_from_person_0", "_to_company_0", "_from_person_0"] := by
  decide +kernel

end Voyager
