import Voyager.Redis.Connection
import Voyager.Redis.Encode

/-! What the parser makes of a part of a frame, and that the pieces in which a stream arrives do not matter. -/

namespace Voyager.Redis

open Lib Net Incremental RespValue List Buffer

section

variable {std : Std}

def readValues (std : Std) : ℕ → Buffer → Source → List RespValue
  | 0, _, _ => []
  | n + 1, buffer, source =>
    match readRespValue std buffer source with
    | (.ok v, buffer, source) => v :: readValues std n buffer source
    | _ => []

variable {buffer : Buffer} {frame : Bytes} {v : RespValue}

lemma look_of_frame {rest : Bytes}
    (h : parse std frame = .ok (some (v, frame.length))) (hbytes : buffer.bytes = frame ++ rest) :
    look std buffer = some (.ok v, buffer.advance frame.length) := by
  have hne : buffer.bytes ≠ [] := by
    intro hnil
    rw [hnil] at hbytes
    obtain ⟨rfl, -⟩ := List.append_eq_nil_iff.mp hbytes.symm
    cases h
  rw [look, if_neg hne, hbytes, (settled_parse std).stable.append h]

lemma look_of_piece (h : parse std frame = .ok (some (v, frame.length))) (hpiece : buffer.bytes <+: frame)
    (hne : buffer.bytes ≠ frame) :
    look std buffer =
      if buffer.bytes.length > maxRespFrameSize then some (.error (.error bufferExceeded), buffer) else none := by
  rw [look]
  by_cases hnil : buffer.bytes = []
  · rw [if_pos hnil]
  · rw [if_neg hnil, (settled_parse std).eq_none_of_frame h hpiece hne]

lemma readRespValue_of_look {buffer' : Buffer} {result : Except (Stop NetError) RespValue}
    (h : look std buffer = some (result, buffer')) (source : Source) :
    readRespValue std buffer source = (result, buffer', source) := by
  cases source with
  | nil => rw [readRespValue, h]
  | cons arrival source =>
    rw [readRespValue.eq_def]
    simp only [h]

lemma readRespValue_data (h : look std buffer = none) {piece : Bytes} (hpiece : piece ≠ []) (source : Source) :
    readRespValue std buffer (.data piece :: source) = readRespValue std (buffer.extend piece) source := by
  obtain ⟨b, bytes, rfl⟩ := exists_cons_of_ne_nil hpiece
  rw [readRespValue.eq_def]
  simp only [h]

variable {bytes : Bytes}

lemma readRespValue_frame {rest : Bytes} {source : Source}
    (h : parse std frame = .ok (some (v, frame.length))) (hsize : frame.length ≤ maxRespFrameSize + 1)
    (hsource : source.Delivers bytes) (hbytes : buffer.bytes ++ bytes = frame ++ rest) :
    ∃ buffer' source' bytes', readRespValue std buffer source = (.ok v, buffer', source') ∧
      source'.Delivers bytes' ∧ buffer'.bytes ++ bytes' = rest := by
  induction hsource generalizing buffer with
  | nil =>
    rw [append_nil] at hbytes
    refine ⟨buffer.advance frame.length, [], [], readRespValue_of_look (look_of_frame h hbytes) [], .nil, ?_⟩
    rw [append_nil, advance, hbytes, drop_left]
  | @cons piece more source hpiece hrest ih =>
    by_cases hwhole : frame <+: buffer.bytes
    · obtain ⟨back, hback⟩ := hwhole
      rw [← hback, append_assoc, append_cancel_left_eq] at hbytes
      refine ⟨buffer.advance frame.length, .data piece :: source, piece ++ more, ?_, .cons hpiece hrest, ?_⟩
      · exact readRespValue_of_look (look_of_frame h hback.symm) _
      · rw [advance, ← hback, drop_left, hbytes]
    · have hpart : buffer.bytes <+: frame :=
        (List.prefix_or_prefix_of_prefix ⟨_, hbytes⟩ ⟨rest, rfl⟩).resolve_right hwhole
      have hne : buffer.bytes ≠ frame := fun heq => hwhole (heq ▸ prefix_rfl)
      have hlook : look std buffer = none := by
        rw [look_of_piece h hpart hne, if_neg]
        have hle := hpart.length_le
        have hlt : buffer.bytes.length ≠ frame.length := fun heq => hne (hpart.eq_of_length heq)
        omega
      rw [readRespValue_data hlook hpiece]
      apply ih
      rw [← hbytes, extend, append_assoc]

structure Frame (std : Std) where
  bytes : Bytes
  value : RespValue
  parsed : RespValue.parse std bytes = .ok (some (value, bytes.length))

lemma readValues_frames {frames : List (Frame std)}
    (hsize : ∀ frame ∈ frames, frame.bytes.length ≤ maxRespFrameSize + 1) {source : Source}
    (hsource : source.Delivers bytes) (hbytes : buffer.bytes ++ bytes = (frames.map Frame.bytes).flatten) :
    readValues std frames.length buffer source = frames.map Frame.value := by
  induction frames generalizing buffer source bytes with
  | nil => rfl
  | cons frame frames ih =>
    obtain ⟨hframe, hframes⟩ := List.forall_mem_cons.mp hsize
    rw [map_cons, flatten_cons] at hbytes
    obtain ⟨buffer', source', bytes', hread, hsource', hbytes'⟩ :=
      readRespValue_frame frame.parsed hframe hsource hbytes
    rw [length_cons, readValues, hread, map_cons]
    simp only
    rw [ih hframes hsource' hbytes']

lemma parseBuffer_eq_none {src : Bytes} (h : parse std src = .ok none) : parseBuffer std src = (.ok none, src) := by
  rw [parseBuffer, h]

theorem parse_incremental (std : Std) :
    (∀ bytes more v n, RespValue.parse std bytes = .ok (some (v, n)) →
      RespValue.parse std (bytes ++ more) = .ok (some (v, n))) ∧
    (∀ bytes more e, RespValue.parse std bytes = .error e → ∃ e', RespValue.parse std (bytes ++ more) = .error e') ∧
    (∀ bytes v, RespValue.parse std bytes = .ok (some (v, bytes.length)) → ∀ piece, piece <+: bytes → piece ≠ bytes →
      RespValue.parseBuffer std piece = (.ok none, piece)) ∧
    (∀ frames : List (Frame std), (∀ frame ∈ frames, frame.bytes.length ≤ maxRespFrameSize + 1) →
      ∀ source : Source, source.Delivers (frames.map Frame.bytes).flatten →
        readValues std frames.length ⟨[], []⟩ source = frames.map Frame.value) := by
  refine ⟨?_, ?_, ?_, ?_⟩
  · exact fun bytes more v n h => (settled_parse std).stable.append h more
  · exact fun bytes more e h => (settled_parse std).final bytes more ⟨e, h⟩
  · intro bytes v h piece hpiece hne
    exact parseBuffer_eq_none ((settled_parse std).eq_none_of_frame h hpiece hne)
  · exact fun frames hsize source hsource => readValues_frames hsize hsource rfl

def sampleStd : Std := ⟨fun _ => "", fun _ => .error ""⟩

def sampleFrames : List (Frame sampleStd) :=
  [⟨[0x2B, 0x61, 13, 10], .simpleString "a", rfl⟩, ⟨[0x3A, 0x37, 13, 10], .integer 7, rfl⟩]

theorem parse_incremental_cut :
    RespValue.parseBuffer sampleStd [0x2B, 0x61, 13] = (.ok none, [0x2B, 0x61, 13]) ∧
      readValues sampleStd 2 ⟨[], []⟩ [.data [0x2B, 0x61, 13], .data [10, 0x3A], .data [0x37, 13, 10]] =
        [.simpleString "a", .integer 7] := by
  obtain ⟨-, -, hpiece, hread⟩ := parse_incremental sampleStd
  refine ⟨hpiece [0x2B, 0x61, 13, 10] (.simpleString "a") rfl _ ⟨[10], rfl⟩ (by decide), ?_⟩
  exact hread sampleFrames (by decide) _ (.cons (by decide) (.cons (by decide) (.cons (by decide) .nil)))

section

variable (h : parse std frame = .ok (some (v, frame.length)))

include h

lemma readRespValue_exceeds {k : ℕ} (hk : maxRespFrameSize < k) (hlt : k < frame.length) (source : Source) :
    (readRespValue std ⟨[], []⟩ (.data (frame.take k) :: source)).1 = .error (.error bufferExceeded) := by
  have hlength : (frame.take k).length = k := length_take_of_le hlt.le
  have hempty : look std ⟨[], []⟩ = none := rfl
  have hpiece : frame.take k ≠ [] := by
    intro hnil
    rw [hnil, length_nil] at hlength
    omega
  have hlook : look std (extend ⟨[], []⟩ (frame.take k)) =
      some (.error (.error bufferExceeded), extend ⟨[], []⟩ (frame.take k)) := by
    rw [look_of_piece h (List.take_prefix k frame), if_pos]
    · exact hk.trans_eq hlength.symm
    · intro heq
      have := congrArg List.length heq
      rw [extend, nil_append, hlength] at this
      omega
  rw [readRespValue_data hempty hpiece, readRespValue_of_look hlook]

lemma readValues_whole (hne : frame ≠ []) : readValues std 1 ⟨[], []⟩ [.data frame] = [v] := by
  have hempty : look std ⟨[], []⟩ = none := rfl
  have hlook : look std (extend ⟨[], []⟩ frame) = some (.ok v, (extend ⟨[], []⟩ frame).advance frame.length) :=
    look_of_frame h (append_nil frame).symm
  rw [readValues, readRespValue_data hempty hne, readRespValue_of_look hlook]
  rfl

lemma readValues_cut (hlarge : maxRespFrameSize + 1 < frame.length) : readValues std 1 ⟨[], []⟩
      [.data (frame.take (maxRespFrameSize + 1)), .data (frame.drop (maxRespFrameSize + 1))] = [] := by
  have hcut := readRespValue_exceeds h (Nat.lt_succ_self maxRespFrameSize) hlarge
    [.data (frame.drop (maxRespFrameSize + 1))]
  rw [readValues]
  split
  · rename_i heq
    rw [heq] at hcut
    cases hcut
  · rfl

end

lemma length_encode_bulkString (formatF64 : BitVec 64 → String) (bytes : Bytes) :
    ((bulkString (some bytes)).encode formatF64).length = (decimal bytes.length).length + bytes.length + 5 := by
  simp only [encode, length_cons, length_append, crlf, length_nil]
  omega

lemma parse_bulkString {formatF64 : BitVec 64 → String}
    (h : ((bulkString (some bytes)).encode formatF64).length < 2 ^ 63) :
    parse std ((bulkString (some bytes)).encode formatF64) =
      .ok (some (.bulkString (some bytes), ((bulkString (some bytes)).encode formatF64).length)) := by
  have hnested : ReadsNested std formatF64 (maxRespDepth + 1) := readsNested _
  have hparse := hnested (.bulkString (some bytes)) trivial (Nat.succ_pos _) h []
  rwa [append_nil] at hparse

theorem readValues_encoded (formatF64 : BitVec 64 → String) (vs : List RespValue)
    (h : ∀ v ∈ vs, v.Encodable ∧ v.depth ≤ maxRespDepth ∧ (v.encode formatF64).length ≤ maxRespFrameSize + 1)
    {source : Source} (hsource : source.Delivers bytes) (hbytes : buffer.bytes ++ bytes = vs.flatMap (encode formatF64)) :
    readValues std vs.length buffer source = vs := by
  induction vs generalizing buffer source bytes with
  | nil => rfl
  | cons v vs ih =>
    obtain ⟨⟨hv, hdepth, hsize⟩, hvs⟩ := List.forall_mem_cons.mp h
    have hnested : ReadsNested std formatF64 (maxRespDepth + 1) := readsNested _
    have hparse := hnested v hv (Nat.lt_succ_of_le hdepth) (hsize.trans_lt (by decide)) []
    rw [append_nil] at hparse
    obtain ⟨_, _, _, hread, hsource', hbytes'⟩ := readRespValue_frame hparse hsize hsource hbytes
    rw [length_cons, readValues, hread]
    simp only [ih hvs hsource' hbytes']

end

def sampleBytes : Bytes := [sampleValue, .integer 7].flatMap (encode fun _ => "")

/-- Two values, the first begun in the buffer and the second cut between its bytes. -/
theorem readValues_encoded_sample :
    readValues sampleStd 2 ⟨sampleBytes.take 9, [0x2B]⟩
      [.data ((sampleBytes.drop 9).take (sampleBytes.length - 11)), .data (sampleBytes.drop (sampleBytes.length - 2))] =
        [sampleValue, .integer 7] := by
  apply readValues_encoded (fun _ => "") [sampleValue, .integer 7] _ (.cons (by decide) (.cons (by decide) .nil)) (by decide)
  simp [sampleValue, RespValue.Encodable, EncodableItems, EncodablePairs, Line, maxRespCollectionLen]
  decide

/-- A string whose frame is larger than the buffer may be while a frame is not complete. -/
def largeString : RespValue := .bulkString (some (List.replicate maxRespFrameSize 0))

def largeFrame : Bytes := largeString.encode fun _ => ""

lemma largeFrame_length : largeFrame.length = maxRespFrameSize + 14 := by
  have hdecimal : (decimal maxRespFrameSize).length = 9 := by rfl
  rw [largeFrame, largeString, length_encode_bulkString, length_replicate, hdecimal]
  omega

theorem large_frame_depends_on_pieces :
    readValues sampleStd 1 ⟨[], []⟩ [.data largeFrame] = [largeString] ∧
      readValues sampleStd 1 ⟨[], []⟩
        [.data (largeFrame.take (maxRespFrameSize + 1)), .data (largeFrame.drop (maxRespFrameSize + 1))] = [] := by
  have hlength := largeFrame_length
  have hparse : parse sampleStd largeFrame = .ok (some (largeString, largeFrame.length)) := by
    apply parse_bulkString
    change largeFrame.length < 2 ^ 63
    rw [hlength]
    decide
  refine ⟨readValues_whole hparse ?_, readValues_cut hparse ?_⟩
  · intro hnil
    rw [hnil, length_nil] at hlength
    omega
  · rw [hlength]
    omega

end Voyager.Redis
