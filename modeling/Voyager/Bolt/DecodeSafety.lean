import Voyager.Bolt.PackStream
import Voyager.Lib.Dict
import Voyager.Lib.SelfDelimiting

/-! What the PackStream decoder does on arbitrary bytes. -/

namespace Voyager.Bolt

open Lib Decoder Delimited BoltValue List Option

namespace BoltValue

/-- The constructors of a value; a label, a key, an index of a path and each record in a path count as one too. -/
def constructors (v : BoltValue) : ℕ :=
  match v with
  | .list items => 1 + (items.map fun u => constructors u).sum
  | .map entries => 1 + (entries.map fun e => 1 + constructors e.2).sum
  | .struct _ fields => 1 + (fields.map fun u => constructors u).sum
  | .node n => 1 + n.labels.length + (n.properties.map fun e => 1 + constructors e.2).sum
  | .relationship r => 1 + (r.properties.map fun e => 1 + constructors e.2).sum
  | .path p => 1 +
      (p.nodes.map fun n => 1 + n.labels.length + (n.properties.map fun e => 1 + constructors e.2).sum).sum +
      (p.relationships.map fun r => 1 + (r.properties.map fun e => 1 + constructors e.2).sum).sum +
      p.sequence.length
  | _ => 1
termination_by sizeOf v
decreasing_by
  all_goals apply sizeOf_lt_of_mem_children
  all_goals simp only [children, List.mem_append, List.mem_flatMap, List.mem_map]
  all_goals grind

end BoltValue

namespace PackStream

open BoltValue

attribute [local simp] constructors

def total (vs : List BoltValue) : ℕ := (vs.map constructors).sum

def entriesTotal (m : List (String × BoltValue)) : ℕ := (m.map fun e => 1 + constructors e.2).sum

lemma constructors_pos (v : BoltValue) : 1 ≤ v.constructors := by
  cases v <;> simp only [constructors] <;> omega

variable {v : BoltValue}

lemma constructors_le_total {vs : List BoltValue} (h : v ∈ vs) : v.constructors ≤ total vs :=
  single_le_sum (by simp) _ (mem_map_of_mem h)

lemma length_le_total (vs : List BoltValue) : vs.length ≤ total vs := by
  induction vs with
  | nil => exact le_rfl
  | cons v vs ih =>
    have := constructors_pos v
    simp only [total, map_cons, sum_cons, length_cons] at ih ⊢
    omega

lemma entriesTotal_asMap_le (v : BoltValue) : entriesTotal (v.asMap.getD []) ≤ v.constructors := by
  cases v with
  | map m =>
    rw [constructors]
    exact Nat.le_add_left _ _
  | _ => exact Nat.zero_le _

lemma sum_asList_le {α : Type} (pick : BoltValue → Option α) (weight : α → ℕ)
    (h : ∀ v a, pick v = some a → weight a ≤ v.constructors) (v : BoltValue) :
    (((v.asList.getD []).filterMap pick).map weight).sum ≤ v.constructors := by
  cases v with
  | list items =>
    rw [constructors]
    refine le_trans ?_ (Nat.le_add_left _ _)
    show ((items.filterMap pick).map weight).sum ≤ _
    induction items with
    | nil => exact le_rfl
    | cons u us ih =>
      cases hu : pick u with
      | none =>
        rw [filterMap_cons_none hu, map_cons, sum_cons]
        omega
      | some a =>
        have := h u a hu
        rw [filterMap_cons_some hu, map_cons, map_cons, sum_cons, sum_cons]
        omega
  | _ => exact Nat.zero_le _

lemma labels_le (v : BoltValue) : ((v.asList.getD []).filterMap asStr).length ≤ v.constructors := by
  have := sum_asList_le asStr (fun _ => 1) (fun v _ _ => constructors_pos v) v
  simpa using this

lemma entriesTotal_field_le (fields : List BoltValue) (i : ℕ) :
    entriesTotal ((fields[i]?.bind asMap).getD []) ≤ total fields := by
  cases hfield : fields[i]? with
  | none => exact Nat.zero_le _
  | some v => exact (entriesTotal_asMap_le v).trans (constructors_le_total (mem_of_getElem? hfield))

lemma constructors_list (items : List BoltValue) : (list items).constructors = 1 + total items := by
  rw [constructors, total]

lemma constructors_map (m : List (String × BoltValue)) : (map m).constructors = 1 + entriesTotal m := by
  rw [constructors, entriesTotal]

lemma constructors_struct (tag : UInt8) (fields : List BoltValue) :
    (struct tag fields).constructors = 1 + total fields := by
  rw [constructors, total]

lemma constructors_node (n : BoltNode BoltValue) :
    (BoltValue.node n).constructors = 1 + n.labels.length + entriesTotal n.properties := by
  rw [constructors, entriesTotal]

lemma constructors_relationship (r : BoltRelationship BoltValue) :
    (relationship r).constructors = 1 + entriesTotal r.properties := by
  rw [constructors, entriesTotal]

lemma constructors_path (p : BoltPath BoltValue) : (path p).constructors = 1 +
      (p.nodes.map fun n => (BoltValue.node n).constructors).sum +
      (p.relationships.map fun r => 1 + entriesTotal r.properties).sum + (p.sequence.map fun _ => 1).sum := by
  simp [constructors, entriesTotal]

lemma entriesTotal_unbound_le {r : BoltUnboundRelationship BoltValue} (h : unboundRelationship v = some r) :
    1 + entriesTotal r.properties ≤ v.constructors := by
  cases v with
  | struct tag fields =>
    simp only [unboundRelationship] at h
    split_ifs at h
    cases h
    rw [constructors_struct]
    exact Nat.add_le_add_left (entriesTotal_field_le fields 2) 1
  | _ => cases h

lemma node_le {n : BoltNode BoltValue} (h : v.asNode = some n) :
    (BoltValue.node n).constructors ≤ v.constructors := by
  cases v with
  | node m =>
    cases h
    exact le_rfl
  | _ => cases h

section

variable (fields : List BoltValue)

lemma exists_three {fields : List BoltValue} (h : ¬ fields.length < 3) :
    ∃ f₀ f₁ f₂ fs, fields = f₀ :: f₁ :: f₂ :: fs := by
  match fields, h with
  | f₀ :: f₁ :: f₂ :: fs, _ => exact ⟨f₀, f₁, f₂, fs, rfl⟩
  | [_, _], h | [_], h | [], h => simp at h

lemma constructors_decodeNode_le : (decodeNodeStructure fields).constructors ≤ 1 + total fields := by
  unfold decodeNodeStructure
  by_cases hlen : fields.length < 3
  · rw [if_pos hlen]
    exact (constructors_struct _ fields).le
  · rw [if_neg hlen]
    cases fields[0]?.bind asI64 with
    | none => exact (constructors_struct _ fields).le
    | some id =>
      obtain ⟨f₀, f₁, f₂, fs, rfl⟩ := exists_three hlen
      have hlabels := labels_le f₁
      have hproperties := entriesTotal_asMap_le f₂
      rw [constructors_node]
      simp only [getElem?_cons_succ, getElem?_cons_zero, bind_some, total, map_cons,
        sum_cons]
      omega

lemma constructors_decodeRelationship_le : (decodeRelationshipStructure fields).constructors ≤ 1 + total fields := by
  unfold decodeRelationshipStructure
  by_cases hlen : fields.length < 5
  · rw [if_pos hlen]
    exact (constructors_struct _ fields).le
  · rw [if_neg hlen]
    cases fields[0]?.bind asI64 with
    | none => exact (constructors_struct _ fields).le
    | some id =>
      rw [constructors_relationship]
      exact Nat.add_le_add_left (entriesTotal_field_le fields 4) 1

lemma constructors_decodePath_le : (decodePathStructure fields).constructors ≤ 1 + total fields := by
  unfold decodePathStructure
  split_ifs with hlen
  · exact (constructors_struct _ fields).le
  · obtain ⟨f₀, f₁, f₂, fs, rfl⟩ := exists_three hlen
    have hnodes := sum_asList_le asNode _ (fun _ _ h => node_le h) f₀
    have hrels := sum_asList_le unboundRelationship _ (fun _ _ h => entriesTotal_unbound_le h) f₁
    have hsequence := sum_asList_le asI64 (fun _ => 1) (fun v _ _ => constructors_pos v) f₂
    rw [constructors_path]
    simp only [getElem?_cons_succ, getElem?_cons_zero, bind_some, total, map_cons,
      sum_cons]
    omega

lemma constructors_decodeStructure_le (tag : UInt8) :
    (decodeStructure fields tag).constructors ≤ 1 + total fields := by
  have hplain : ∀ tag, (struct tag fields).constructors ≤ 1 + total fields :=
    fun tag => (constructors_struct tag fields).le
  unfold decodeStructure
  split
  · exact constructors_decodeNode_le fields
  · exact constructors_decodeRelationship_le fields
  · exact constructors_decodePath_le fields
  all_goals
    try simp only [decodePoint2DStructure, decodePoint3DStructure, decodeDateStructure, decodeTimeStructure,
      decodeLocalTimeStructure, decodeDateTimeStructure, decodeLocalDateTimeStructure,
      decodeDateTimeZoneIdStructure, decodeDurationStructure]
    -- a value of one of these kinds counts as one
    repeat' split
    all_goals first | exact hplain _ | simp

end

section

variable {m : List (String × BoltValue)} (key : String) (value : BoltValue)

variable (h : (m.map Prod.fst).Nodup)

include h

lemma nodup_keys_insert : ((insert m key value).map Prod.fst).Nodup := by
  unfold insert
  split_ifs with hany
  · exact (Dict.map_fst_overwrite key value m).symm ▸ h
  · rw [map_append]
    exact h.append (nodup_singleton key) (by simp_all)

lemma entriesTotal_replace_le :
    entriesTotal (m.map fun e => if e.1 = key then (key, value) else e) ≤ entriesTotal m + (1 + value.constructors) := by
  induction m with
  | nil => exact Nat.zero_le _
  | cons e m ih =>
    obtain ⟨hnew, htail⟩ := List.nodup_cons.mp h
    simp only [entriesTotal, map_cons, sum_cons] at ih ⊢
    by_cases he : e.1 = key
    · -- the other entries have other keys
      have hrest : (m.map fun e => if e.1 = key then (key, value) else e) = m := by
        conv_rhs => rw [← map_id m]
        refine List.map_congr_left fun e' he' => if_neg fun h' => hnew ?_
        rw [he, ← h']
        exact mem_map_of_mem he'
      rw [if_pos he, hrest]
      simp only
      omega
    · have := ih htail
      rw [if_neg he]
      omega

lemma entriesTotal_insert_le : entriesTotal (insert m key value) ≤ entriesTotal m + (1 + value.constructors) := by
  unfold insert
  split_ifs
  · exact entriesTotal_replace_le key value h
  · simp [entriesTotal]

end

variable {e : ℕ → DecodeError}

section

variable {item : Dec BoltValue}

lemma decodeMarker_cases {Q : Dec BoltValue → Prop} (hleaf : ∀ v : BoltValue, v.constructors = 1 → Q (pure v))
    (hfail : ∀ e, Q (fail e)) (hinteger : ∀ width what, Q (decodeInteger width what)) (hfloat : Q decodeFloat)
    (hstring : ∀ len, Q (decodeStringPayload len)) (hbytes : ∀ len, Q (decodeBytesPayload len))
    (hlist : ∀ len, Q (decodeListPayload item len)) (hmap : ∀ size, Q (decodeMapPayload item size))
    (hstruct : ∀ count, Q (decodeStructurePayload item count))
    (hsized : ∀ width what payload, (∀ len, Q (payload len)) → Q (decodeSized width what payload)) (marker : UInt8) :
    Q (decodeMarker item marker) := by
  unfold decodeMarker
  split_ifs
  · exact hleaf _ (by simp)
  · exact hleaf _ (by simp)
  · exact hstring _
  · exact hlist _
  · exact hmap _
  · exact hstruct _
  · split
    case h_1 | h_3 | h_4 => exact hleaf _ (by simp)
    case h_2 => exact hfloat
    case h_5 | h_6 | h_7 | h_8 => exact hinteger _ _
    case h_9 | h_10 | h_11 => exact hsized _ _ _ hbytes
    case h_12 | h_13 | h_14 => exact hsized _ _ _ hstring
    case h_15 | h_16 | h_17 => exact hsized _ _ _ hlist
    case h_18 | h_19 | h_20 => exact hsized _ _ _ hmap
    case h_21 | h_22 => exact hsized _ _ _ hstruct
    case h_23 => exact hfail _

def Payload (d : Dec BoltValue) : Prop := Delimited (fun v n => v.constructors ≤ n + 1) d

lemma payload_pure (h : v.constructors = 1) : Payload (pure v) :=
  delimited_pure v (by omega)

lemma delimited_checked {β : Type} {Q : β → ℕ → Prop} {n : ℕ} {f : Bytes → Dec β}
    (h : ∀ bytes, Delimited (fun b m => Q b (n + m)) (f bytes)) :
    Delimited Q (need n e >>= fun _ => splitTo n >>= f) := by
  refine need ?_ e
  refine (delimited_splitTo n).bind fun bytes m hm => (h bytes).mono fun b k hk => ?_
  rw [hm.1]
  exact ⟨hk, Nat.le_add_right n k⟩

lemma payload_decodeInteger (width : ℕ) (what : String) : Payload (decodeInteger width what) :=
  delimited_checked fun _ => delimited_pure _ (by simp)

lemma payload_decodeFloat : Payload decodeFloat :=
  delimited_checked fun _ => delimited_pure _ (by simp)

lemma payload_decodeBytesPayload (len : ℕ) : Payload (decodeBytesPayload len) :=
  delimited_checked fun _ => delimited_pure _ (by simp)

lemma payload_decodeStringPayload (len : ℕ) : Payload (decodeStringPayload len) := by
  refine delimited_checked fun bytes => ?_
  cases String.fromUTF8? ⟨bytes.toArray⟩ with
  | none => exact delimited_fail _
  | some s => exact delimited_pure _ (by simp)

lemma payload_decodeSized (width : ℕ) (what : String) {payload : ℕ → Dec BoltValue} (h : ∀ len, Payload (payload len)) :
    Payload (decodeSized width what payload) :=
  delimited_checked fun bytes => (h _).mono fun v n hn => by omega

def Whole (d : Dec BoltValue) : Prop := Delimited (fun v n => v.constructors ≤ n) d

section

variable (h : Whole item)

include h

lemma delimited_items (count : ℕ) : Delimited (fun vs n => count ≤ n ∧ total vs ≤ n) (times count item) := by
  refine (delimited_times h count).mono fun vs n hn => ⟨?_, hn.2⟩
  rw [← hn.1]
  exact (length_le_total vs).trans hn.2

lemma payload_decodeListPayload (len : ℕ) : Payload (decodeListPayload item len) := by
  refine need ?_ _
  refine reserve ((delimited_items h len).bind fun vs n hn => delimited_pure _ ⟨?_, hn.1⟩) _
  rw [constructors_list]
  omega

lemma payload_decodeStructurePayload (count : ℕ) : Payload (decodeStructurePayload item count) := by
  refine need (delimited_getU8.bind fun tag n hn => need ?_ _) _
  refine reserve ((delimited_items h count).bind fun fields m hm => delimited_pure _ ?_) _
  have := constructors_decodeStructure_le fields tag
  omega

lemma delimited_decodeEntries (size : ℕ) {m : List (String × BoltValue)} (hkeys : (m.map Prod.fst).Nodup) :
    Delimited (fun m' n => 2 * size ≤ n ∧ entriesTotal m' ≤ entriesTotal m + n) (decodeEntries item size m) := by
  induction size generalizing m with
  | zero => exact delimited_pure m ⟨le_rfl, le_rfl⟩
  | succ size ih =>
    refine h.bind fun key n hn => ?_
    cases key with
    | string key =>
      refine h.bind fun value k hk => (ih (nodup_keys_insert key value hkeys)).mono fun m' l hl => ?_
      have hkey : 1 ≤ n := (constructors_pos _).trans hn
      have hvalue := constructors_pos value
      have hinsert := entriesTotal_insert_le key value hkeys
      omega
    | _ => exact delimited_fail _

lemma payload_decodeMapPayload (size : ℕ) : Payload (decodeMapPayload item size) := by
  refine need ?_ _
  refine reserve ((delimited_decodeEntries h size (m := []) nodup_nil).bind fun m n hn => ?_) _
  refine delimited_pure _ ?_
  have hnil : entriesTotal [] = 0 := rfl
  rw [constructors_map]
  omega

lemma payload_decodeMarker (marker : UInt8) : Payload (decodeMarker item marker) :=
  decodeMarker_cases (fun _ hv => payload_pure hv) (fun _ => delimited_fail _) payload_decodeInteger payload_decodeFloat
    payload_decodeStringPayload payload_decodeBytesPayload (payload_decodeListPayload h) (payload_decodeMapPayload h)
    (payload_decodeStructurePayload h) (fun width what _ => payload_decodeSized width what) marker

end

end

theorem whole_decodeWithDepth (fuel depth : ℕ) : Whole (decodeWithDepth fuel depth) := by
  induction fuel generalizing depth with
  | zero => exact delimited_exhausted
  | succ fuel ih =>
    refine enter ?_ depth
    by_cases hdepth : depth > maxPackStreamDepth
    · rw [if_pos hdepth]
      exact delimited_fail _
    · rw [if_neg hdepth]
      refine need ?_ _
      refine delimited_getU8.bind fun marker n hn => (payload_decodeMarker (ih (depth + 1)) marker).mono fun v k hk => ?_
      omega

section

variable {item : Dec BoltValue} {limit : ℕ}

lemma contained_checked {β : Type} {n : ℕ} {f : Bytes → Dec β} (h : ∀ bytes, Contained (depthBound limit) 0 (f bytes)) :
    Contained (depthBound limit) 0 (need n e >>= fun _ => splitTo n >>= f) :=
  Contained.need ((contained_splitTo n).bind h) e

lemma contained_decodeStringPayload (len : ℕ) : Contained (depthBound limit) 0 (decodeStringPayload len) := by
  refine contained_checked fun bytes => ?_
  cases String.fromUTF8? ⟨bytes.toArray⟩ with
  | none => exact contained_fail _
  | some s => exact contained_pure _

lemma contained_elements {β γ : Type} {n room : ℕ} {elements : Dec β} {f : β → γ} (h : Contained (depthBound limit) 0 elements)
    (hroom : room ≤ n) :
    Contained (depthBound limit) 0 (need n e >>= fun _ => reserve room >>= fun _ => elements >>= fun b => pure (f b)) :=
  Contained.need ((contained_reserve fun _ hleft => hroom.trans hleft).bind fun _ => h.bind fun _ => contained_pure _) e

lemma contained_decodeEntries (h : Contained (depthBound limit) 0 item) (size : ℕ) (m : List (String × BoltValue)) :
    Contained (depthBound limit) 0 (decodeEntries item size m) := by
  induction size generalizing m with
  | zero => exact contained_pure m
  | succ size ih =>
    refine h.bind fun key => ?_
    cases key with
    | string key => exact h.bind fun value => ih _
    | _ => exact contained_fail _

lemma contained_decodeMarker (h : Contained (depthBound limit) 0 item) (marker : UInt8) :
    Contained (depthBound limit) 0 (decodeMarker item marker) := by
  refine decodeMarker_cases (fun _ _ => contained_pure _) contained_fail ?_ ?_ contained_decodeStringPayload ?_ ?_ ?_
    ?_ ?_ marker
  · exact fun width what => contained_checked fun _ => contained_pure _
  · exact contained_checked fun _ => contained_pure _
  · exact fun len => contained_checked fun _ => contained_pure _
  · exact fun len => contained_elements (h.times len) (Nat.min_le_left _ _)
  · exact fun size => contained_elements (contained_decodeEntries h size []) (by omega)
  · exact fun count => Contained.need (contained_getU8.bind fun tag =>
      contained_elements (h.times count) (Nat.min_le_left _ _)) _
  · exact fun width what payload hpayload => contained_checked fun bytes => hpayload _

end

lemma contained_decodeWithDepth {fuel depth : ℕ} (h : fuel + depth = maxPackStreamDepth + 2)
    (hdepth : depth ≤ maxPackStreamDepth + 1) :
    Contained (depthBound (maxPackStreamDepth + 1)) 0 (decodeWithDepth fuel depth) := by
  induction fuel generalizing depth with
  | zero => omega
  | succ fuel ih =>
    refine (contained_enter hdepth).bind fun _ => ?_
    by_cases hdeep : depth > maxPackStreamDepth
    · rw [if_pos hdeep]
      exact contained_fail _
    · rw [if_neg hdeep]
      refine Contained.need (contained_getU8.bind fun marker => contained_decodeMarker (ih ?_ ?_) marker) _
      all_goals omega

theorem safe_decode (bytes : Bytes) : Safe (depthBound (maxPackStreamDepth + 1)) (decode bytes) := by
  rw [decode]
  exact contained_decodeWithDepth (Nat.add_zero _) (Nat.zero_le _) bytes (Nat.zero_le _)

lemma decode_error_of_error {bytes : Bytes} {fault : Fault DecodeError} (h : (decode bytes).1 = .error fault) :
    ∃ e, (decode bytes).1 = .error (.error e) := by
  obtain ⟨e, rfl⟩ := (safe_decode bytes).2 fault h
  exact ⟨e, h⟩

theorem decode_arbitrary (bytes : Bytes) :
    (∀ event ∈ (decode bytes).2, Event.Within (maxPackStreamDepth + 1) event) ∧
      ((∃ e, (decode bytes).1 = .error (.error e)) ∨
        ∃ v read rest, (decode bytes).1 = .ok (v, rest) ∧ bytes = read ++ rest ∧ v.constructors ≤ read.length ∧
          (∀ other, (decode (read ++ other)).1 = .ok (v, other)) ∧
            ∀ short, short <+: read → short ≠ read → ∃ e, (decode short).1 = .error (.error e)) := by
  refine ⟨(safe_decode bytes).1, ?_⟩
  cases hrun : (decode bytes).1 with
  | error fault =>
    left
    rw [← hrun]
    exact decode_error_of_error hrun
  | ok result =>
    right
    obtain ⟨v, rest⟩ := result
    obtain ⟨read, hbytes, hcount, hsame, hshort⟩ := whole_decodeWithDepth _ _ bytes v rest hrun
    refine ⟨v, read, rest, rfl, hbytes, hcount, hsame, fun short hbegins hne => ?_⟩
    obtain ⟨fault, hfault⟩ := hshort short hbegins hne
    exact decode_error_of_error hfault

end PackStream

end Voyager.Bolt
