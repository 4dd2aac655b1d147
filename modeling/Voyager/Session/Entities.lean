import Voyager.Lib.Dict

namespace Voyager

open Lib

/-- A node class: the class object, its name, its labels and the names of its schema fields. -/
structure Model where
  cls : ℕ
  name : String
  labels : List String
  fields : List String
deriving DecidableEq

def Model.label (model : Model) : String := model.labels.head?.getD model.name

abbrev Fields (V : Type) := Dict String (Option V)

structure Node (V : Type) where
  model : Model
  values : Fields V
  dirty : Fields V
  dirty_values : ∀ name value, dirty.get? name = some value → values.get? name = some value

abbrev NodeRef := ℕ

section

variable {V : Type} (hydrate : Model → String → V → Option V)

/-- Only a declared field has a hydrator. -/
def hydrateFieldValue (model : Model) (name : String) (value : Option V) : Option V :=
  if name ∈ model.fields then value.bind (hydrate model name) else value

namespace Node

def new (model : Model) (values : Fields V) : Node V :=
  let hydrated : Fields V := ⟨values.entries.map fun e => (e.1, hydrateFieldValue hydrate model e.1 e.2), by
    simpa [Function.comp_def] using values.nodup⟩
  { model := model, values := hydrated, dirty := hydrated, dirty_values := fun _ _ h => h }

def get (n : Node V) (name : String) : Option V := (n.values.get? name).join

def clearDirty (n : Node V) : Node V :=
  { n with dirty := Dict.empty, dirty_values := fun _ _ h => by simp at h }

def setattr (n : Node V) (name : String) (value : Option V) : Node V :=
  if name.toList.head? = some '_' then n
  else
    let value := hydrateFieldValue hydrate n.model name value
    { n with
      values := n.values.set name value
      dirty := n.dirty.set name value
      dirty_values := by
        intro other v h
        by_cases hname : other = name
        · simpa [Dict.get?_set, hname] using h
        · rw [Dict.get?_set_of_ne _ hname] at h ⊢
          exact n.dirty_values other v h }

end Node

end

structure Session (V : Type) where
  enableIdentityMap : Bool
  identityMap : Dict (Model × V) NodeRef
  nodes : NodeRef → Node V

namespace Session

variable {V : Type} [DecidableEq V] (hydrate : Model → String → V → Option V)

variable (s : Session V) (ref : NodeRef)

def update (f : Node V → Node V) : Session V :=
  { s with nodes := Function.update s.nodes ref (f (s.nodes ref)) }

def setattr (name : String) (value : Option V) : Session V :=
  s.update ref fun n => n.setattr hydrate name value

def clearDirty : Session V := s.update ref Node.clearDirty

def cleaned (isClean : Bool) : Session V :=
  if isClean then s.clearDirty ref else s

def register (keyField : String) (isClean : Bool) : Session V × NodeRef :=
  if !s.enableIdentityMap then (s, ref)
  else
    let s := s.cleaned ref isClean
    match (s.nodes ref).get keyField with
    | none => (s, ref)
    | some keyVal =>
      let mapKey := ((s.nodes ref).model, keyVal)
      let track := ({ s with identityMap := s.identityMap.set mapKey ref }, ref)
      match s.identityMap.get? mapKey with
      | none => track
      | some existing =>
        if existing = ref then track
        else
          let s := (s.nodes ref).dirty.entries.foldl (fun s e => s.setattr hydrate existing e.1 e.2) s
          (s.cleaned existing isClean, existing)

end Session

end Voyager
