import Voyager.Bolt.PackStream
import Voyager.Lib.Utf8

namespace Voyager.Bolt.PackStream

open Lib Decoder BoltValue List

def Marked (item : Dec BoltValue) (bytes : Bytes) (v : BoltValue) : Prop :=
  ∃ marker payload, bytes = marker :: payload ∧ Reads (decodeMarker item marker) payload v

def ReadsValue (item : Dec BoltValue) (bytes : Bytes) (v : BoltValue) : Prop :=
  1 ≤ bytes.length ∧ Reads item bytes v

variable {bytes : Bytes}

variable {v : BoltValue}

lemma Marked.readsValue {fuel depth : ℕ} (hdepth : depth ≤ maxPackStreamDepth)
    (h : Marked (decodeWithDepth fuel (depth + 1)) bytes v) :
    ReadsValue (decodeWithDepth (fuel + 1) depth) bytes v := by
  obtain ⟨marker, payload, rfl, hread⟩ := h
  have hfirst : Reads (getU8 >>= decodeMarker (decodeWithDepth fuel (depth + 1))) ([marker] ++ payload) v :=
    (reads_getU8 marker).bind hread
  refine ⟨by simp, ?_⟩
  rw [decodeWithDepth, if_neg (by omega)]
  exact (hfirst.need _ (by simp)).enter depth

lemma reads_splitTo_of_length {n : ℕ} (h : bytes.length = n) : Reads (splitTo n : Dec Bytes) bytes bytes :=
  h ▸ reads_splitTo bytes

variable {body : Bytes}

lemma reads_checked {β : Type} {n : ℕ} {e : ℕ → DecodeError} {f : Bytes → Dec β} {b : β} (hlen : bytes.length = n)
    (h : Reads (f bytes) body b) :
    Reads (need n e >>= fun _ => splitTo n >>= f) (bytes ++ body) b :=
  ((reads_splitTo_of_length hlen).bind h).need e (by rw [length_append]; omega)

variable {width len : ℕ} {payload : ℕ → Dec BoltValue}

lemma reads_sized {what : String} (hlen : len < 256 ^ width) (h : Reads (payload len) body v) :
    Reads (decodeSized width what payload) (toBytes width len ++ body) v :=
  reads_checked (length_toBytes width len) (by rwa [ofBytes_toBytes_of_lt hlen])

variable {pieces : List Bytes} {vs : List BoltValue} {m : List (String × BoltValue)}

variable (tag : UInt8)

section

variable {item : Dec BoltValue}

lemma marked_length {tiny sized : UInt8} (what : ℕ → String)
    (htiny : ∀ n ≤ 15, decodeMarker item (tiny ||| UInt8.ofNat n) = payload n)
    (hone : decodeMarker item sized = decodeSized 1 (what 1) payload)
    (htwo : decodeMarker item (sized + 1) = decodeSized 2 (what 2) payload)
    (hfour : decodeMarker item (sized + 2) = decodeSized 4 (what 4) payload) (hlen : len < 2 ^ 32)
    (h : Reads (payload len) body v) :
    Marked item (encodeLength tiny sized len ++ body) v := by
  unfold encodeLength
  split_ifs with h15 h255 h65535
  · exact ⟨_, body, rfl, by rwa [htiny len h15]⟩
  · exact ⟨sized, _, rfl, by rw [hone]; exact reads_sized (by omega) h⟩
  · exact ⟨sized + 1, _, rfl, by rw [htwo]; exact reads_sized (by omega) h⟩
  · exact ⟨sized + 2, _, rfl, by rw [hfour]; exact reads_sized (by omega) h⟩

lemma marked_string {s : String} (h : s.utf8ByteSize < 2 ^ 32) : Marked item (encodeString s) (.string s) := by
  have hpayload : Reads (decodeStringPayload s.utf8ByteSize) (utf8Bytes s ++ []) (.string s) := by
    have htext : String.fromUTF8? ⟨(utf8Bytes s).toArray⟩ = some s := fromUTF8_utf8Bytes s
    refine reads_checked rfl ?_
    rw [htext]
    exact reads_pure _
  rw [append_nil] at hpayload
  refine marked_length (fun n => s!"String{8 * n} length") ?_ rfl rfl rfl h hpayload
  intro n hn
  interval_cases n <;> rfl

lemma marked_bytes (h : bytes.length < 2 ^ 32) : Marked item (encodeBytes bytes) (.bytes bytes) := by
  have hpayload : Reads (decodeBytesPayload bytes.length) (bytes ++ []) (.bytes bytes) :=
    reads_checked rfl (reads_pure _)
  rw [append_nil] at hpayload
  unfold encodeBytes
  dsimp only
  split_ifs with h255 h65535
  · exact ⟨0xCC, _, rfl, reads_sized (by omega) hpayload⟩
  · exact ⟨0xCD, _, rfl, reads_sized (by omega) hpayload⟩
  · exact ⟨0xCE, _, rfl, reads_sized (by omega) hpayload⟩

variable {val : I64}

lemma signExtend_setWidth {w : ℕ} (hw : w ≤ 64) (hpos : 0 < w) (hlow : -2 ^ (w - 1) ≤ val.toInt)
    (hhigh : val.toInt < 2 ^ (w - 1)) : (val.setWidth w).signExtend 64 = val := by
  apply BitVec.eq_of_toInt_eq
  have hsame : (val.toNat : ℤ).bmod (2 ^ w) = val.toInt.bmod (2 ^ w) := by
    rw [BitVec.toInt_eq_toNat_bmod, Int.bmod_bmod_of_dvd (pow_dvd_pow 2 hw)]
  have hhalf : (2 : ℤ) ^ w = 2 * 2 ^ (w - 1) := by
    rw [← pow_succ', Nat.sub_add_cancel hpos]
  rw [BitVec.toInt_signExtend, BitVec.toInt_setWidth, min_eq_right hw, Int.bmod_bmod, hsame]
  apply Int.bmod_eq_of_le_mul_two
  · push_cast
    omega
  · push_cast
    omega

lemma reads_decodeInteger {what : String} (hwidth : 8 * width ≤ 64) (hpos : 0 < width)
    (hlow : -2 ^ (8 * width - 1) ≤ val.toInt) (hhigh : val.toInt < 2 ^ (8 * width - 1)) :
    Reads (decodeInteger width what) (toBytes width (val.setWidth (8 * width)).toNat) (.integer val) := by
  have hread : Reads (decodeInteger width what) (toBytes width (val.setWidth (8 * width)).toNat ++ []) (.integer val) := by
    refine reads_checked (length_toBytes _ _) ?_
    have hlt : (val.setWidth (8 * width)).toNat < 256 ^ width := by
      have := (val.setWidth (8 * width)).isLt
      rwa [show (256 : ℕ) = 2 ^ 8 by norm_num, ← pow_mul]
    rw [ofBytes_toBytes_of_lt hlt, BitVec.ofNat_toNat, BitVec.setWidth_eq,
      signExtend_setWidth hwidth (by omega) hlow hhigh]
    exact reads_pure _
  rwa [append_nil] at hread

lemma marked_tinyInteger (hlow : -16 ≤ val.toInt) (hhigh : val.toInt ≤ 127) :
    Marked item (toBytes 1 (val.setWidth 8).toNat) (.integer val) := by
  have hbyte : (UInt8.ofNat ((val.setWidth 8).toNat / 256 ^ 0)).toNat = (val.setWidth 8).toNat := by
    have := (val.setWidth 8).isLt
    simp
  refine ⟨_, [], rfl, ?_⟩
  generalize UInt8.ofNat ((val.setWidth 8).toNat / 256 ^ 0) = marker at hbyte ⊢
  have hint : val.toInt = if 2 * val.toNat < 2 ^ 64 then (val.toNat : ℤ) else val.toNat - 2 ^ 64 :=
    BitVec.toInt_eq_toNat_cond val
  rw [BitVec.toNat_setWidth] at hbyte
  by_cases hneg : val.toInt < 0
  · have hmarker : ¬ marker ≤ 0x7F ∧ 0xF0 ≤ marker := by
      rw [UInt8.le_iff_toNat_le, UInt8.le_iff_toNat_le, hbyte]
      have h7 : (0x7F : UInt8).toNat = 127 := rfl
      have hF : (0xF0 : UInt8).toNat = 240 := rfl
      split_ifs at hint <;> omega
    have hval : (BitVec.ofNat 8 marker.toNat).signExtend 64 = val := by
      rw [hbyte, ← BitVec.toNat_setWidth, BitVec.ofNat_toNat, BitVec.setWidth_eq]
      exact signExtend_setWidth (by norm_num) (by norm_num) (by norm_num; omega) (by norm_num; omega)
    unfold decodeMarker
    rw [if_neg hmarker.1, if_pos hmarker.2, hval]
    exact reads_pure _
  · have hmarker : marker ≤ 0x7F := by
      rw [UInt8.le_iff_toNat_le, hbyte]
      have h7 : (0x7F : UInt8).toNat = 127 := rfl
      split_ifs at hint <;> omega
    have hval : BitVec.ofNat 64 marker.toNat = val := by
      apply BitVec.eq_of_toNat_eq
      rw [hbyte, BitVec.toNat_ofNat]
      have := val.isLt
      split_ifs at hint <;> omega
    unfold decodeMarker
    rw [if_pos hmarker, hval]
    exact reads_pure _

lemma marked_integer (val : I64) : Marked item (encodeInteger val) (.integer val) := by
  unfold encodeInteger
  split_ifs with htiny h8 h16 h32
  · exact marked_tinyInteger htiny.1 htiny.2
  · exact ⟨0xC8, _, rfl, reads_decodeInteger (by norm_num) (by norm_num) h8.1 h8.2⟩
  · exact ⟨0xC9, _, rfl, reads_decodeInteger (by norm_num) (by norm_num) h16.1 h16.2⟩
  · exact ⟨0xCA, _, rfl, reads_decodeInteger (by norm_num) (by norm_num) h32.1 h32.2⟩
  · have hlow := BitVec.le_toInt val
    have hhigh := BitVec.toInt_lt (x := val)
    have hread : Reads (decodeInteger 8 "Int64") (toBytes 8 (val.setWidth (8 * 8)).toNat) (.integer val) :=
      reads_decodeInteger (by norm_num) (by norm_num) hlow hhigh
    rw [show 8 * 8 = 64 from rfl, BitVec.setWidth_eq] at hread
    exact ⟨0xCB, _, rfl, hread⟩

lemma marked_float (f : F64) : Marked item (encodeFloat f) (.float f) := by
  have hread : Reads decodeFloat (toBytes 8 f.toNat ++ []) (.float f) := by
    refine reads_checked (length_toBytes _ _) ?_
    rw [ofBytes_toBytes_of_lt f.isLt, BitVec.ofNat_toNat, BitVec.setWidth_eq]
    exact reads_pure _
  rw [append_nil] at hread
  exact ⟨0xC1, _, rfl, hread⟩

section

variable (h : List.Forall₂ (ReadsValue item) pieces vs)

include h

lemma reads_items : Reads (times vs.length item) pieces.flatten vs ∧ vs.length ≤ pieces.flatten.length := by
  refine ⟨reads_times (h.imp fun _ _ hv => hv.2), ?_⟩
  induction h with
  | nil => simp
  | cons hfirst _ ih =>
    have := hfirst.1
    simp only [length_cons, flatten_cons, length_append]
    omega

lemma marked_list (hlen : vs.length < 2 ^ 32) : Marked item (encodeList pieces) (.list vs) := by
  obtain ⟨hitems, henough⟩ := reads_items h
  have hpayload : Reads (decodeListPayload item vs.length) pieces.flatten (.list vs) :=
    ((hitems.map list).reserve _).need _ henough
  rw [encodeList, h.length_eq]
  refine marked_length (fun n => s!"List{8 * n} length") ?_ rfl rfl rfl hlen hpayload
  intro n hn
  interval_cases n <;> rfl

lemma marked_structure (hlen : vs.length ≤ 65535) :
    Marked item (encodeStructure tag pieces) (decodeStructure vs tag) := by
  obtain ⟨hitems, henough⟩ := reads_items h
  have hfields : Reads (need vs.length (fun remaining => .fieldCount vs.length remaining) >>= fun _ =>
      reserve (min vs.length 1024) >>= fun _ => times vs.length item >>= fun fields =>
        pure (decodeStructure fields tag)) pieces.flatten (decodeStructure vs tag) :=
    ((hitems.map fun fields => decodeStructure fields tag).reserve _).need _ henough
  have hpayload : Reads (decodeStructurePayload item vs.length) ([tag] ++ pieces.flatten) (decodeStructure vs tag) :=
    ((reads_getU8 tag).bind hfields).need _ (by simp)
  unfold encodeStructure
  rw [h.length_eq]
  dsimp only
  split_ifs with h15 h255
  · refine ⟨_, _, rfl, ?_⟩
    have hmarker : decodeMarker item (0xB0 ||| UInt8.ofNat vs.length) = decodeStructurePayload item vs.length := by
      generalize vs.length = n at h15
      interval_cases n <;> rfl
    rw [hmarker]
    exact hpayload
  · exact ⟨0xDC, _, rfl, reads_sized (by omega) hpayload⟩
  · exact ⟨0xDD, _, rfl, reads_sized (by omega) hpayload⟩

end

lemma insert_of_notMem {key : String} (h : key ∉ m.map Prod.fst) (value : BoltValue) :
    insert m key value = m ++ [(key, value)] := by
  have hany : m.any (fun e => e.1 = key) = false := by
    rw [any_eq_false]
    intro e he
    simp only [decide_eq_true_eq]
    rintro rfl
    exact h (mem_map_of_mem he)
  simp [insert, hany]

def ReadsEntry (item : Dec BoltValue) (bytes : String × Bytes) (e : String × BoltValue) : Prop :=
  bytes.1 = e.1 ∧ ReadsValue item (encodeString e.1) (.string e.1) ∧ ReadsValue item bytes.2 e.2

section

variable {pieces : List (String × Bytes)} (h : List.Forall₂ (ReadsEntry item) pieces m)

include h

lemma reads_entries (before : List (String × BoltValue)) (hnodup : ((before ++ m).map Prod.fst).Nodup) :
    Reads (decodeEntries item m.length before) (pieces.flatMap fun e => encodeString e.1 ++ e.2) (before ++ m) := by
  induction h generalizing before with
  | nil =>
    rw [append_nil]
    exact reads_pure before
  | @cons piece e pieces m hfirst _ ih =>
    obtain ⟨key, bytes⟩ := piece
    obtain ⟨key', value⟩ := e
    obtain ⟨rfl, hkey, hvalue⟩ : key = key' ∧ _ := hfirst
    have hnew : key ∉ before.map Prod.fst := by
      rw [map_append, map_cons] at hnodup
      exact fun hmem => disjoint_of_nodup_append hnodup hmem mem_cons_self
    have hsplit : before ++ (key, value) :: m = insert before key value ++ m := by
      rw [insert_of_notMem hnew, append_assoc, singleton_append]
    have hrest := ih (insert before key value) (by rwa [← hsplit])
    rw [flatMap_cons, append_assoc, hsplit]
    exact hkey.2.bind (hvalue.2.bind hrest)

lemma marked_map (hnodup : (m.map Prod.fst).Nodup) (hlen : m.length < 2 ^ 32) :
    Marked item (encodeMap pieces) (.map m) := by
  have henough : m.length * 2 ≤ (pieces.flatMap fun e => encodeString e.1 ++ e.2).length := by
    clear hnodup hlen
    induction h with
    | nil => simp
    | cons hfirst _ ih =>
      have hkey := hfirst.2.1.1
      have hvalue := hfirst.2.2.1
      rw [← hfirst.1] at hkey
      simp only [length_cons, flatMap_cons, length_append]
      omega
  have hentries := reads_entries h [] hnodup
  have hpayload : Reads (decodeMapPayload item m.length) (pieces.flatMap fun e => encodeString e.1 ++ e.2) (.map m) :=
    ((hentries.map map).reserve _).need _ henough
  rw [encodeMap, h.length_eq]
  refine marked_length (fun n => s!"Map{8 * n} length") ?_ rfl rfl rfl hlen hpayload
  intro n hn
  interval_cases n <;> rfl

end

end

def StringFits (s : String) : Prop := s.utf8ByteSize < 2 ^ 32

structure MapFits (m : List (String × BoltValue)) : Prop where
  size : m.length < 2 ^ 32
  nodup : (m.map Prod.fst).Nodup
  keys : ∀ e ∈ m, StringFits e.1

structure NodeFits (n : BoltNode BoltValue) : Prop where
  size : n.labels.length < 2 ^ 32
  labels : ∀ label ∈ n.labels, StringFits label
  properties : MapFits n.properties
  elementId : ∀ s ∈ n.elementId, StringFits s

structure UnboundRelationshipFits (r : BoltUnboundRelationship BoltValue) : Prop where
  relType : StringFits r.relType
  properties : MapFits r.properties
  elementId : ∀ s ∈ r.elementId, StringFits s

structure RelationshipFits (r : BoltRelationship BoltValue) : Prop where
  relType : StringFits r.relType
  properties : MapFits r.properties
  startId : r.startElementId.isSome = r.elementId.isSome
  endId : r.endElementId.isSome = r.elementId.isSome
  elementIds : ∀ s ∈ r.elementId.toList ++ r.startElementId.toList ++ r.endElementId.toList, StringFits s

structure PathFits (p : BoltPath BoltValue) : Prop where
  size : p.nodes.length < 2 ^ 32 ∧ p.relationships.length < 2 ^ 32 ∧ p.sequence.length < 2 ^ 32
  nodes : ∀ n ∈ p.nodes, NodeFits n
  relationships : ∀ r ∈ p.relationships, UnboundRelationshipFits r

def Fits : BoltValue → Prop
  | .bytes data => data.length < 2 ^ 32
  | .string s => StringFits s
  | .list items => items.length < 2 ^ 32
  | .map m => MapFits m
  | .struct tag fields => fields.length ≤ 65535 ∧ tag ∉ specialTags
  | .node n => NodeFits n
  | .relationship r => RelationshipFits r
  | .path p => PathFits p
  | .dateTimeZoneId t => StringFits t.zoneId
  | _ => True

inductive WithinLimits : BoltValue → Prop
  | intro {v : BoltValue} (fits : Fits v) (children : ∀ u ∈ v.children, WithinLimits u) : WithinLimits v

def Room (fuel depth k : ℕ) : Prop := k < fuel ∧ depth + k ≤ maxPackStreamDepth

def ReadsAt (fuel depth : ℕ) : Bytes → BoltValue → Prop := ReadsValue (decodeWithDepth fuel depth)

variable {ks : List ℕ}

lemma le_nest {k : ℕ} (h : k ∈ ks) : k + 1 ≤ nest ks := by
  induction ks with
  | nil => simp at h
  | cons j ks ih =>
    rcases List.mem_cons.mp h with rfl | h
    · exact le_max_left _ _
    · exact (ih h).trans (le_max_right _ _)

section

variable {fuel depth k : ℕ}

lemma Room.nested (h : Room (fuel + 1) depth (nest ks)) (hk : k ∈ ks) : Room fuel (depth + 1) k := by
  have := le_nest hk
  unfold Room at h ⊢
  omega

lemma Room.fields (h : Room (fuel + 1) depth (nest ks)) (hne : ks ≠ []) : Room fuel (depth + 1) 0 := by
  obtain ⟨j, hj⟩ := exists_mem_of_ne_nil ks hne
  have := h.nested hj
  unfold Room at this ⊢
  omega

section

variable (hroom : Room fuel depth k)

include hroom

lemma readsAt_of_marked
    (h : ∀ f, fuel = f + 1 → Marked (decodeWithDepth f (depth + 1)) bytes v) : ReadsAt fuel depth bytes v := by
  obtain ⟨f, rfl⟩ : ∃ f, fuel = f + 1 := ⟨fuel - 1, by have := hroom.1; omega⟩
  exact (h f rfl).readsValue (by have := hroom.2; omega)

lemma readsAt_integer (i : I64) : ReadsAt fuel depth (encodeInteger i) (.integer i) :=
  readsAt_of_marked hroom fun _ _ => marked_integer i

lemma readsAt_float (f : F64) : ReadsAt fuel depth (encodeFloat f) (.float f) :=
  readsAt_of_marked hroom fun _ _ => marked_float f

lemma readsAt_string {s : String} (h : StringFits s) : ReadsAt fuel depth (encodeString s) (.string s) :=
  readsAt_of_marked hroom fun _ _ => marked_string h

end

lemma readsAt_list {α : Type} {as : List α} {bytes : α → Bytes} {value : α → BoltValue} {below : α → ℕ}
    (hroom : Room fuel depth (nest (as.map below))) (hlen : as.length < 2 ^ 32)
    (h : ∀ a ∈ as, ∀ fuel depth, Room fuel depth (below a) → ReadsAt fuel depth (bytes a) (value a)) :
    ReadsAt fuel depth (encodeList (as.map bytes)) (.list (as.map value)) := by
  refine readsAt_of_marked hroom ?_
  rintro f rfl
  refine marked_list ?_ (by simpa using hlen)
  rw [forall₂_map_left_iff, forall₂_map_right_iff, forall₂_same]
  exact fun a ha => h a ha f (depth + 1) (hroom.nested (mem_map_of_mem ha))

lemma readsAt_map (hroom : Room fuel depth (nest (m.map fun e => e.2.depth))) (hfits : MapFits m)
    (h : ∀ e ∈ m, ∀ fuel depth, Room fuel depth e.2.depth → ReadsAt fuel depth (encode e.2) e.2) :
    ReadsAt fuel depth (encodeMap (m.map fun e => (e.1, encode e.2))) (.map m) := by
  refine readsAt_of_marked hroom ?_
  rintro f rfl
  refine marked_map ?_ hfits.nodup hfits.size
  rw [forall₂_map_left_iff, forall₂_same]
  intro e he
  have hbelow : Room f (depth + 1) e.2.depth := hroom.nested (List.mem_map.mpr ⟨e, he, rfl⟩)
  exact ⟨rfl, readsAt_string hbelow (hfits.keys e he), h e he f (depth + 1) hbelow⟩

lemma readsAt_structure (hroom : Room fuel depth k) (hlen : vs.length ≤ 65535)
    (h : ∀ f, fuel = f + 1 → List.Forall₂ (ReadsAt f (depth + 1)) pieces vs) :
    ReadsAt fuel depth (encodeStructure tag pieces) (decodeStructure vs tag) :=
  readsAt_of_marked hroom fun f hf => marked_structure tag (h f hf) hlen

lemma readsAt_flat (vs : List BoltValue) (hroom : Room fuel depth 1) (hlen : vs.length ≤ 65535)
    (h : ∀ fuel depth, Room fuel depth 0 → List.Forall₂ (ReadsAt fuel depth) pieces vs) :
    ReadsAt fuel depth (encodeStructure tag pieces) (decodeStructure vs tag) := by
  refine readsAt_structure tag hroom hlen ?_
  rintro f rfl
  refine h f (depth + 1) ?_
  unfold Room at hroom ⊢
  omega

lemma readsAt_integers (is : List I64) (hroom : Room fuel depth 1) (hlen : is.length ≤ 65535) :
    ReadsAt fuel depth (encodeStructure tag (is.map encodeInteger)) (decodeStructure (is.map .integer) tag) := by
  refine readsAt_flat tag _ hroom (by simpa using hlen) fun fuel depth hroom => ?_
  rw [forall₂_map_left_iff, forall₂_map_right_iff, forall₂_same]
  exact fun i _ => readsAt_integer hroom i

lemma decodeStructure_of_plain {tag : UInt8} (h : tag ∉ specialTags) (fields : List BoltValue) :
    decodeStructure fields tag = .struct tag fields := by
  simp only [specialTags, mem_cons, not_mem_nil, or_false, not_or] at h
  unfold decodeStructure
  split <;> simp_all

lemma forall₂_strings {ss : List String} (hroom : Room fuel depth k) (hfits : ∀ s ∈ ss, StringFits s) :
    List.Forall₂ (ReadsAt fuel depth) (ss.map encodeString) (ss.map string) := by
  rw [forall₂_map_left_iff, forall₂_map_right_iff, forall₂_same]
  exact fun s hs => readsAt_string hroom (hfits s hs)

lemma forall₂_elementId {elementId : Option String} (hroom : Room fuel depth k)
    (hfits : ∀ s ∈ elementId, StringFits s) :
    List.Forall₂ (ReadsAt fuel depth) (elementId.map encodeString).toList (elementId.map string).toList := by
  rw [Option.toList_map, Option.toList_map]
  exact forall₂_strings hroom (by simpa using hfits)

lemma readsAt_labels {labels : List String} (hroom : Room fuel depth (nest (labels.map fun _ => 0)))
    (hlen : labels.length < 2 ^ 32) (hfits : ∀ label ∈ labels, StringFits label) :
    ReadsAt fuel depth (encodeList (labels.map encodeString)) (.list (labels.map .string)) :=
  readsAt_list hroom hlen fun label hlabel _ _ hroom => readsAt_string hroom (hfits label hlabel)

lemma filterMap_map_of_some {α β : Type} (f : α → β) (g : β → Option α) (h : ∀ a, g (f a) = some a) (as : List α) :
    (as.map f).filterMap g = as := by
  have hsome : g ∘ f = some := funext h
  rw [filterMap_map, hsome, filterMap_some]

lemma decodeStructure_node (n : BoltNode BoltValue) :
    decodeStructure ([.integer n.id, .list (n.labels.map .string), .map n.properties] ++
      (n.elementId.map string).toList) 0x4E = .node n := by
  obtain ⟨id, labels, properties, elementId⟩ := n
  have hlabels : (labels.map string).filterMap asStr = labels :=
    filterMap_map_of_some string asStr (fun _ => rfl) labels
  cases elementId <;>
    simpa [decodeStructure, decodeNodeStructure, asI64, asList, asMap, asStr] using hlabels

def ReadsProperties (m : List (String × BoltValue)) : Prop :=
  ∀ e ∈ m, ∀ fuel depth, Room fuel depth e.2.depth → ReadsAt fuel depth (encode e.2) e.2

lemma readsAt_node {n : BoltNode BoltValue}
    (hroom : Room fuel depth (nest [nest (n.labels.map fun _ => 0), nest (n.properties.map fun e => e.2.depth)]))
    (hfits : NodeFits n) (h : ReadsProperties n.properties) :
    ReadsAt fuel depth (encodeNode { n with properties := n.properties.map fun e => (e.1, encode e.2) }) (.node n) := by
  rw [← decodeStructure_node n]
  refine readsAt_structure 0x4E hroom (by cases n.elementId <;> simp) ?_
  rintro f rfl
  have hfield := hroom.fields (by simp)
  exact .cons (readsAt_integer hfield n.id)
    (.cons (readsAt_labels (hroom.nested (by simp)) hfits.size hfits.labels)
      (.cons (readsAt_map (hroom.nested (by simp)) hfits.properties h) (forall₂_elementId hfield hfits.elementId)))

variable (r : BoltUnboundRelationship BoltValue)

def unboundFields : List BoltValue :=
  [.integer r.id, .string r.relType, .map r.properties] ++ (r.elementId.map BoltValue.string).toList

lemma unboundRelationship_unboundFields : unboundRelationship (decodeStructure (unboundFields r) 0x72) = some r := by
  obtain ⟨id, relType, properties, elementId⟩ := r
  cases elementId <;> simp [unboundFields, decodeStructure, unboundRelationship, asI64, asMap, asStr]

lemma readsAt_unboundRelationship {r : BoltUnboundRelationship BoltValue}
    (hroom : Room fuel depth (nest [nest (r.properties.map fun e => e.2.depth)]))
    (hfits : UnboundRelationshipFits r) (h : ReadsProperties r.properties) :
    ReadsAt fuel depth (encodeUnboundRelationship { r with properties := r.properties.map fun e => (e.1, encode e.2) })
      (decodeStructure (unboundFields r) 0x72) := by
  refine readsAt_structure 0x72 hroom (by cases hid : r.elementId <;> simp [unboundFields, hid]) ?_
  rintro f rfl
  have hfield := hroom.fields (by simp)
  exact .cons (readsAt_integer hfield r.id)
    (.cons (readsAt_string hfield hfits.relType)
      (.cons (readsAt_map (hroom.nested (by simp)) hfits.properties h) (forall₂_elementId hfield hfits.elementId)))

lemma decodeStructure_path (p : BoltPath BoltValue) : decodeStructure [.list (p.nodes.map .node),
      .list (p.relationships.map fun r => decodeStructure (unboundFields r) 0x72),
      .list (p.sequence.map .integer)] 0x50 = .path p := by
  obtain ⟨nodes, relationships, sequence⟩ := p
  have hnodes : (nodes.map BoltValue.node).filterMap asNode = nodes :=
    filterMap_map_of_some BoltValue.node asNode (fun _ => rfl) nodes
  have hrels : (relationships.map fun r => decodeStructure (unboundFields r) 0x72).filterMap unboundRelationship =
      relationships := filterMap_map_of_some _ _ unboundRelationship_unboundFields relationships
  have hsequence : (sequence.map integer).filterMap asI64 = sequence :=
    filterMap_map_of_some integer asI64 (fun _ => rfl) sequence
  show decodePathStructure _ = _
  simp only [decodePathStructure, length_cons, length_nil]
  simp [asList, hnodes, hrels, hsequence]

lemma readsAt_path {p : BoltPath BoltValue} (hroom : Room fuel depth (path p).depth) (hfits : PathFits p)
    (hnodes : ∀ n ∈ p.nodes, ReadsProperties n.properties)
    (hrels : ∀ r ∈ p.relationships, ReadsProperties r.properties) :
    ReadsAt fuel depth (encode (.path p)) (.path p) := by
  rw [BoltValue.depth] at hroom
  rw [encode, encodePath, ← decodeStructure_path p]
  refine readsAt_structure 0x50 hroom (by simp) ?_
  rintro f rfl
  rw [map_map, map_map]
  refine .cons (readsAt_list (hroom.nested mem_cons_self) hfits.size.1 ?_)
    (.cons (readsAt_list (hroom.nested (.tail _ mem_cons_self)) hfits.size.2.1 ?_)
      (.cons (readsAt_list (hroom.nested (.tail _ (.tail _ mem_cons_self))) hfits.size.2.2 ?_) .nil))
  · exact fun n hn _ _ hroom => readsAt_node hroom (hfits.nodes n hn) (hnodes n hn)
  · exact fun r hr _ _ hroom => readsAt_unboundRelationship hroom (hfits.relationships r hr) (hrels r hr)
  · exact fun i _ _ _ hroom => readsAt_integer hroom i

lemma exists_elementIds {r : BoltRelationship BoltValue} (hfits : RelationshipFits r) : ∃ ids : List String,
    (∀ s ∈ ids, StringFits s) ∧ ids.length ≤ 3 ∧
    (∀ properties, encodeRelationship { r with properties } = encodeStructure 0x52 ([encodeInteger r.id,
      encodeInteger r.startNodeId, encodeInteger r.endNodeId, encodeString r.relType, encodeMap properties] ++
        ids.map encodeString)) ∧
    decodeStructure ([.integer r.id, .integer r.startNodeId, .integer r.endNodeId, .string r.relType,
      .map r.properties] ++ ids.map .string) 0x52 = .relationship r := by
  obtain ⟨id, startNodeId, endNodeId, relType, properties, elementId, startElementId, endElementId⟩ := r
  obtain ⟨-, -, hstart, hend, hids⟩ := hfits
  cases elementId with
  | none =>
    obtain rfl : startElementId = none := by simpa using hstart
    obtain rfl : endElementId = none := by simpa using hend
    exact ⟨[], by simp, by simp, fun _ => rfl,
      by simp [decodeStructure, decodeRelationshipStructure, asI64, asMap, asStr]⟩
  | some elemId =>
    obtain ⟨startId, rfl⟩ : ∃ s, startElementId = some s := Option.isSome_iff_exists.mp hstart
    obtain ⟨endId, rfl⟩ : ∃ s, endElementId = some s := Option.isSome_iff_exists.mp hend
    exact ⟨[elemId, startId, endId], hids, by simp, fun _ => rfl,
      by simp [decodeStructure, decodeRelationshipStructure, asI64, asMap, asStr]⟩

lemma readsAt_relationship {r : BoltRelationship BoltValue}
    (hroom : Room fuel depth (nest [nest (r.properties.map fun e => e.2.depth)])) (hfits : RelationshipFits r)
    (h : ReadsProperties r.properties) :
    ReadsAt fuel depth (encodeRelationship { r with properties := r.properties.map fun e => (e.1, encode e.2) })
      (.relationship r) := by
  obtain ⟨ids, hids, hlen, hencode, hdecode⟩ := exists_elementIds hfits
  rw [hencode, ← hdecode]
  refine readsAt_structure 0x52 hroom (by simp; omega) ?_
  rintro f rfl
  have hfield := hroom.fields (by simp)
  exact .cons (readsAt_integer hfield r.id) (.cons (readsAt_integer hfield r.startNodeId)
    (.cons (readsAt_integer hfield r.endNodeId) (.cons (readsAt_string hfield hfits.relType)
      (.cons (readsAt_map (hroom.nested (by simp)) hfits.properties h) (forall₂_strings hfield hids)))))

end

theorem readsAt_encode (v : BoltValue) :
    WithinLimits v → ∀ fuel depth, Room fuel depth v.depth → ReadsAt fuel depth (encode v) v := by
  induction v using induction with
  | h v ih =>
  rintro ⟨hfits, hchildren⟩ fuel depth hroom
  have hbelow (u : BoltValue) (hu : u ∈ v.children) := ih u hu (hchildren u hu)
  rw [BoltValue.depth.eq_def] at hroom
  rw [encode.eq_def]
  cases v with
  | null => exact readsAt_of_marked hroom fun _ _ => ⟨0xC0, [], rfl, reads_pure _⟩
  | boolean b =>
    refine readsAt_of_marked hroom fun _ _ => ?_
    cases b with
    | false => exact ⟨0xC2, [], rfl, reads_pure _⟩
    | true => exact ⟨0xC3, [], rfl, reads_pure _⟩
  | integer i => exact readsAt_integer hroom i
  | float f => exact readsAt_float hroom f
  | bytes data => exact readsAt_of_marked hroom fun _ _ => marked_bytes hfits
  | string s => exact readsAt_string hroom hfits
  | list items =>
    have hitems : ReadsAt fuel depth (encodeList (items.map encode)) (.list (items.map id)) :=
      readsAt_list hroom hfits hbelow
    rwa [map_id] at hitems
  | map m =>
    exact readsAt_map hroom hfits fun e he => hbelow e.2 (mem_map_of_mem he)
  | struct tag fields =>
    change ReadsAt fuel depth (encodeStructure tag (fields.map encode)) _
    rw [← decodeStructure_of_plain hfits.2 fields]
    refine readsAt_structure tag hroom hfits.1 ?_
    rintro f rfl
    rw [forall₂_map_left_iff, forall₂_same]
    exact fun u hu => hbelow u hu f (depth + 1) (hroom.nested (mem_map_of_mem hu))
  | node n =>
    exact readsAt_node hroom hfits fun e he => hbelow e.2 (mem_map_of_mem he)
  | relationship r =>
    exact readsAt_relationship hroom hfits fun e he => hbelow e.2 (mem_map_of_mem he)
  | path p =>
    have hpath := readsAt_path (by rwa [BoltValue.depth]) hfits (fun n hn e he => hbelow e.2 ?_)
      fun r hr e he => hbelow e.2 ?_
    · rwa [encode] at hpath
    · exact mem_append_left _ (List.mem_flatMap.mpr ⟨n, hn, mem_map_of_mem he⟩)
    · exact mem_append_right _ (List.mem_flatMap.mpr ⟨r, hr, mem_map_of_mem he⟩)
  | point2D p =>
    exact readsAt_flat 0x58 [.integer p.srid, .float p.x, .float p.y] hroom (by simp) fun _ _ hr =>
      .cons (readsAt_integer hr _) (.cons (readsAt_float hr _) (.cons (readsAt_float hr _) .nil))
  | point3D p =>
    exact readsAt_flat 0x59 [.integer p.srid, .float p.x, .float p.y, .float p.z] hroom (by simp) fun _ _ hr =>
      .cons (readsAt_integer hr _) (.cons (readsAt_float hr _) (.cons (readsAt_float hr _)
        (.cons (readsAt_float hr _) .nil)))
  | date d => exact readsAt_integers 0x44 [d.days] hroom (by simp)
  | time t => exact readsAt_integers 0x54 [t.nanoseconds, t.tzOffsetSeconds] hroom (by simp)
  | localTime t => exact readsAt_integers 0x74 [t.nanoseconds] hroom (by simp)
  | dateTime t => exact readsAt_integers 0x49 [t.seconds, t.nanoseconds, t.tzOffsetSeconds] hroom (by simp)
  | localDateTime t => exact readsAt_integers 0x64 [t.seconds, t.nanoseconds] hroom (by simp)
  | dateTimeZoneId t =>
    exact readsAt_flat 0x4A [.integer t.seconds, .integer t.nanoseconds, .string t.zoneId] hroom (by simp) fun _ _ hr =>
      .cons (readsAt_integer hr _) (.cons (readsAt_integer hr _) (.cons (readsAt_string hr hfits) .nil))
  | duration d => exact readsAt_integers 0x45 [d.months, d.days, d.seconds, d.nanoseconds] hroom (by simp)

theorem decode_encode (v : BoltValue) (hdepth : v.depth ≤ 64) (hlimits : WithinLimits v) (rest : Bytes) :
    (decode (encode v ++ rest)).1 = .ok (v, rest) := by
  have hroom : Room (maxPackStreamDepth + 2) 0 v.depth := by
    unfold Room maxPackStreamDepth
    omega
  exact (readsAt_encode v hlimits _ _ hroom).2 rest

def sampleNode : BoltValue :=
  .node ⟨7, ["Person"], [("name", .string "Ann"), ("seen", .list [.integer (-200), .null])], some "4:x:7"⟩

theorem decode_encode_sampleNode :
    sampleNode.depth = 3 ∧ (decode (encode sampleNode ++ [0xC0])).1 = .ok (sampleNode, [0xC0]) := by
  have hdepth : sampleNode.depth = 3 := by
    simp [sampleNode, BoltValue.depth, nest]
  have hsmall (s : String) (h : s.utf8ByteSize < 100) : StringFits s := by
    unfold StringFits
    omega
  have hscalar (v : BoltValue) (hfits : Fits v) (hnone : v.children = []) : WithinLimits v :=
    ⟨hfits, by simp [hnone]⟩
  have hseen : WithinLimits (.list [.integer (-200), .null]) := by
    refine ⟨by simp [Fits], ?_⟩
    simpa [children] using ⟨hscalar (.integer (-200)) trivial rfl, hscalar .null trivial rfl⟩
  have hname : WithinLimits (.string "Ann") := hscalar _ (hsmall "Ann" (by decide)) rfl
  have hlimits : WithinLimits sampleNode := by
    refine ⟨⟨by decide, ?_, ⟨by decide, by decide, ?_⟩, ?_⟩, ?_⟩
    · simpa [sampleNode] using hsmall "Person" (by decide)
    · simpa using ⟨hsmall "name" (by decide), hsmall "seen" (by decide)⟩
    · simpa using hsmall "4:x:7" (by decide)
    · simpa [sampleNode, children] using ⟨hname, hseen⟩
  exact ⟨hdepth, decode_encode sampleNode (by omega) hlimits [0xC0]⟩

end Voyager.Bolt.PackStream
