import Voyager.Lib.SelfDelimiting
import Voyager.Postgres.Message

/-! What the decoder of backend messages does on arbitrary payloads. -/

namespace Voyager.Postgres

open Lib Net Decoder Decoder.Contained List

variable {α : Type} {utf8Error : Bytes → String} {bound : EventBound} {left : ℕ}

lemma contained_remaining {f : Bytes → Dec α} (h : ∀ bytes, left ≤ bytes.length → Safe bound (f bytes bytes)) :
    Decoder.Contained bound left (remaining >>= f) := by
  intro bytes hleft
  refine Safe.bind ⟨forall_mem_nil _, nofun⟩ ?_
  rintro _ _ ⟨⟩
  exact h bytes hleft

lemma contained_map {β : Type} {d : Dec α} (h : Decoder.Contained bound left d) (g : α → β) : Decoder.Contained bound left (g <$> d) :=
  h.bind fun _ => contained_pure _

structure Takes (n : ℕ) (d : Dec α) : Prop where
  contained (bound : EventBound) : Decoder.Contained bound n d
  delimited : Delimited (fun _ k => k = n) d

lemma Takes.bind {β : Type} {n : ℕ} {d : Dec α} {f : α → Dec β} (hd : Takes n d) (hf : ∀ a, Decoder.Contained bound left (f a)) :
    Decoder.Contained bound (left + n) (d >>= f) := by
  intro bytes hleft
  refine (hd.contained bound bytes (by omega)).bind fun a rest hrun => hf a rest ?_
  obtain ⟨read, rfl, rfl, -⟩ := hd.delimited bytes a rest hrun
  rw [length_append] at hleft
  omega

lemma takes_splitTo (n : ℕ) (g : Bytes → α) : Takes n (splitTo n >>= fun bytes => (pure (g bytes) : Dec α)) where
  contained _ := (contained_splitTo n).bind fun _ => contained_pure _
  delimited := (delimited_splitTo n).bind fun _ _ hk => delimited_pure _ hk.1

lemma takes_getI16 : Takes 2 getI16 := takes_splitTo 2 _

lemma takes_getI32 : Takes 4 getI32 := takes_splitTo 4 _

lemma contained_readCString : Decoder.Contained bound 0 (readCString utf8Error) := by
  refine contained_remaining fun buf _ => ?_
  cases hpos : buf.findIdx? (· = 0) with
  | none => exact (contained_fail _).run _
  | some pos =>
    obtain ⟨hlt, -⟩ := findIdx?_eq_some_iff_getElem.mp hpos
    refine (contained_splitTo pos buf hlt.le).bind fun _ rest hrest => ?_
    obtain rfl : buf.drop pos = rest := by
      simp only [splitTo, if_pos hlt.le, Except.ok.injEq, Prod.mk.injEq] at hrest
      exact hrest.2
    refine (contained_splitTo 1 _ (by rw [length_drop]; omega)).bind fun _ _ _ => ?_
    cases String.fromUTF8? _ with
    | none => exact (contained_fail _).run _
    | some s => exact (contained_pure _).run _

lemma contained_decodeDiagnosticFields (n : ℕ) (diag : PgDiagnostic) :
    Decoder.Contained bound 0 (decodeDiagnosticFields utf8Error n diag) := by
  induction n generalizing diag with
  | zero => exact contained_pure _
  | succ n ih =>
    refine contained_remaining fun buf _ => ?_
    split_ifs with hempty
    · exact (contained_pure _).run _
    · refine (contained_getU8 buf (length_pos_of_ne_nil hempty)).bind fun fieldType rest _ => ?_
      split_ifs
      · exact (contained_pure _).run _
      · exact (contained_readCString.bind fun _ => ih _).run _

lemma contained_decodeMechanisms (n : ℕ) (mechanisms : List String) :
    Decoder.Contained bound 0 (decodeMechanisms utf8Error n mechanisms) := by
  induction n generalizing mechanisms with
  | zero => exact contained_pure _
  | succ n ih =>
    refine contained_remaining fun buf _ => ?_
    split_ifs with hempty
    · exact (contained_pure _).run _
    · refine (contained_readCString.run buf).bind fun mech rest _ => ?_
      split_ifs
      · exact (contained_pure _).run _
      · exact (ih _).run _

lemma contained_rest (g : Bytes → α) : Decoder.Contained bound 0 (remaining >>= fun bytes => (pure (g bytes) : Dec α)) :=
  contained_remaining fun _ _ => (contained_pure _).run _

lemma contained_decodeAuthentication : Decoder.Contained bound 0 (decodeAuthentication utf8Error) := by
  refine need (takes_getI32.bind fun authType => ?_) _
  split
  case h_4 => exact need ((contained_splitTo 4).bind fun _ => contained_pure _) _
  case h_7 | h_10 | h_11 => exact contained_rest _
  case h_9 =>
    exact contained_remaining fun _ _ =>
      ((contained_decodeMechanisms _ _).bind fun _ => contained_pure _).run _
  case h_12 => exact contained_fail _
  all_goals exact contained_pure _

lemma contained_decodeField : Decoder.Contained bound 0 (decodeField utf8Error) :=
  contained_readCString.bind fun _ => need
    (takes_getI32.bind fun _ => takes_getI16.bind fun _ => takes_getI32.bind fun _ => takes_getI16.bind fun _ =>
      takes_getI32.bind fun _ => takes_getI16.bind fun _ => contained_pure _) _

lemma contained_decodeColumn : Decoder.Contained bound 0 decodeColumn := by
  refine need (takes_getI32.bind fun colLen => ?_) _
  split_ifs
  · exact contained_pure _
  · exact need ((contained_splitTo _).bind fun _ => contained_pure _) _
  · exact contained_fail _

def declaredCount (payload : Bytes) : I16 := BitVec.ofNat 16 (ofBytes (payload.take 2))

/-- No capacity exceeds the size of the payload, no read the bytes left. -/
def WithinPayload (size : ℕ) : Lib.Event → Prop
  | .enter _ => True
  | .reserve capacity _ => capacity ≤ size
  | .read count remaining => count ≤ remaining

lemma withinPayload_read (size : ℕ) {count remaining : ℕ} (h : count ≤ remaining) :
    WithinPayload size (.read count remaining) := h

def payloadBound (size : ℕ) : EventBound := ⟨WithinPayload size, @withinPayload_read size⟩

lemma asUsize_eq (count : I16) : (asUsize count : ℤ) = if count.toInt < 0 then count.toInt + 2 ^ 64 else count.toInt := by
  have hsame : (count.signExtend 64).toInt = count.toInt := BitVec.toInt_signExtend_of_le (by decide)
  rw [BitVec.toInt_eq_toNat_cond] at hsame
  have := (count.signExtend 64).isLt
  rw [asUsize]
  split_ifs at hsame ⊢ <;> omega

lemma safe_allocate_iff {size : ℕ} (n : ℕ) (count : I16) (rest : Bytes) (hpos : 1 ≤ size) (hsize : size ≤ 48) :
    Safe (payloadBound n) (allocate size (asUsize count) rest : Except (Fault NetError) _ × _) ↔
      0 ≤ count.toInt ∧ count.toInt ≤ n := by
  have hsame := asUsize_eq count
  have hlow := BitVec.le_toInt count
  have hhigh := BitVec.toInt_lt (x := count)
  have hsmall := Nat.mul_le_mul_right (asUsize count) hsize
  have hlarge := Nat.mul_le_mul_right (asUsize count) hpos
  constructor
  · rintro ⟨hevents, herror⟩
    have hcapacity : asUsize count ≤ n := hevents (.reserve (asUsize count) rest.length) mem_cons_self
    by_cases hfits : size * asUsize count < 2 ^ 63
    · split_ifs at hsame <;> omega
    · obtain ⟨e, he⟩ := herror .overflow (by simp only [allocate, if_neg hfits])
      cases he
  · rintro ⟨hnonneg, hle⟩
    rw [if_neg (not_lt.mpr hnonneg)] at hsame
    have hfits : size * asUsize count < 2 ^ 63 := by omega
    refine ⟨forall_mem_singleton.mpr ?_, by simp only [allocate, if_pos hfits]; exact nofun⟩
    change asUsize count ≤ n
    omega

lemma safe_counted_iff {size : ℕ} {text : String} {β : Type} {item : Dec α} {g : List α → β} {payload : Bytes}
    (hitem : Decoder.Contained (payloadBound payload.length) 0 item) (hpos : 1 ≤ size) (hsize : size ≤ 48) :
    Safe (payloadBound payload.length) ((do
      need 2 (truncated text)
      let fieldCount ← getI16
      allocate size (asUsize fieldCount)
      g <$> times (asUsize fieldCount) item : Dec β) payload) ↔
      (2 ≤ payload.length → 0 ≤ (declaredCount payload).toInt ∧ (declaredCount payload).toInt ≤ payload.length) := by
  rw [need_bind]
  split_ifs with hlen
  · exact iff_of_true (safe_error _) fun h => absurd hlen (not_lt.mpr h)
  have hread : (getI16 payload).1 = .ok (declaredCount payload, payload.drop 2) := by
    have hsplit : (splitTo 2 payload : Except (Fault NetError) _ × _).1 = .ok (payload.take 2, payload.drop 2) :=
      if_pos (not_lt.mp hlen)
    rw [getI16, bind_fst_of_ok hsplit]
    rfl
  have hcount := safe_allocate_iff payload.length (declaredCount payload) (payload.drop 2) hpos hsize
  rw [safe_bind_iff, and_iff_right (takes_getI16.contained _ payload (not_lt.mp hlen)), ← hcount]
  have hrest : Safe (payloadBound payload.length) ((allocate size (asUsize (declaredCount payload)) >>= fun _ =>
      g <$> times (asUsize (declaredCount payload)) item : Dec β) (payload.drop 2)) ↔
      Safe (payloadBound payload.length) (allocate size (asUsize (declaredCount payload)) (payload.drop 2) :
        Except (Fault NetError) _ × _) :=
    safe_bind_iff.trans (and_iff_left fun _ rest _ => (contained_map (hitem.times _) g).run rest)
  refine ⟨fun h _ => hrest.mp (h _ _ hread), fun h count rest hrun => ?_⟩
  obtain ⟨rfl, rfl⟩ : declaredCount payload = count ∧ payload.drop 2 = rest := by simpa [hread] using hrun
  exact hrest.mpr (h (not_lt.mp hlen))

theorem decode_safe_of_count (utf8Error : Bytes → String) (msgType : UInt8) (payload : Bytes) :
    Safe (payloadBound payload.length) (BackendMessage.decode utf8Error msgType payload) ↔
      (msgType = 0x54 ∨ msgType = 0x44 → 2 ≤ payload.length →
        0 ≤ (declaredCount payload).toInt ∧ (declaredCount payload).toInt ≤ payload.length) := by
  unfold BackendMessage.decode
  split
  case h_5 => simpa using safe_counted_iff contained_decodeField (by decide) (by decide)
  case h_6 => simpa using safe_counted_iff contained_decodeColumn (by decide) (by decide)
  case h_20 =>
    refine iff_of_true ((contained_fail _).run payload) ?_
    rintro (rfl | rfl) <;> contradiction
  all_goals refine iff_of_true (run ?_ payload) fun h => absurd h (by decide)
  case h_1 => exact contained_map contained_decodeAuthentication _
  case h_2 => exact need (takes_getI32.bind fun _ => takes_getI32.bind fun _ => contained_pure _) _
  case h_3 => exact contained_readCString.bind fun _ => contained_readCString.bind fun _ => contained_pure _
  case h_4 =>
    refine need (contained_getU8.bind fun status => contained_map ?_ _) _
    cases TransactionStatus.fromByte status with
    | error e => exact contained_fail e
    | ok status => exact contained_pure status
  case h_7 => exact contained_map contained_readCString _
  case h_8 | h_9 =>
    exact contained_map (contained_remaining fun _ _ => (contained_decodeDiagnosticFields _ _).run _) _
  case h_15 =>
    exact need (takes_getI32.bind fun _ => contained_readCString.bind fun _ =>
      contained_readCString.bind fun _ => contained_pure _) _
  case h_18 => exact contained_rest _
  all_goals exact contained_pure _

theorem decode_safe_dataRow :
    Safe (payloadBound 7) (BackendMessage.decode (fun _ => "") 0x44 [0, 1, 0, 0, 0, 1, 65]) :=
  (decode_safe_of_count (fun _ => "") 0x44 [0, 1, 0, 0, 0, 1, 65]).mpr fun _ _ => ⟨by decide, by decide⟩

theorem decode_negative_count : ¬ ∀ (utf8Error : Bytes → String) (msgType : UInt8) (payload : Bytes) (fault : Fault NetError),
    (BackendMessage.decode utf8Error msgType payload).1 = .error fault → ∃ e, fault = .error e := by
  intro h
  obtain ⟨e, he⟩ := h (fun _ => "") 0x54 [0xFF, 0xFF] .overflow rfl
  cases he

end Voyager.Postgres
