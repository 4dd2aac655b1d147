import Voyager.Lib.BigEndian
import Voyager.Lib.ByteStream
import Voyager.Net.Error

namespace Voyager.Bolt

open Lib Net List

def maxChunkSize : ℕ := 65535

def maxBoltMessageSize : ℕ := 128 * 1024 * 1024

namespace Framing

def encodeChunks (payload : List UInt8) : List UInt8 :=
  if payload = [] then toBytes 2 0
  else
    let chunkLen := min payload.length maxChunkSize
    toBytes 2 chunkLen ++ payload.take chunkLen ++ encodeChunks (payload.drop chunkLen)
termination_by payload.length
decreasing_by
  rename_i h
  have := length_pos_of_ne_nil h
  simp only [length_drop, maxChunkSize]
  omega

def headerFailed (e : String) : NetError := .connectionFailed s!"Failed to read chunk header: {e}"

def payloadFailed (e : String) : NetError := .connectionFailed s!"Failed to read chunk payload: {e}"

def headerClosed : NetError := .connectionFailed "Connection closed by peer while waiting for chunk header"

def payloadClosed : NetError := .connectionFailed "Connection closed by peer mid-chunk payload"

def earlyEof : String := "early eof"

def tooLarge : NetError :=
  .protocolError s!"Bolt message frame exceeded maximum allowed size of {maxBoltMessageSize} bytes"

def readChunksBuffered (message buf : List UInt8) (source : Source) :
    Except (Stop NetError) (List UInt8) × List UInt8 × Source :=
  match _hheader : Source.fill 2 headerFailed headerClosed buf source with
  | (.error e, buf, source) => (.error e, buf, source)
  | (.ok (), buf, source) =>
    let chunkSize := ofBytes (buf.take 2)
    if chunkSize = 0 then (.ok message, buf.drop 2, source)
    else if message.length + chunkSize > maxBoltMessageSize then (.error (.error tooLarge), buf.drop 2, source)
    else
      match _hpayload : Source.fill chunkSize payloadFailed payloadClosed (buf.drop 2) source with
      | (.error e, buf, source) => (.error e, buf, source)
      | (.ok (), buf, source) =>
        readChunksBuffered (message ++ buf.take chunkSize) (buf.drop chunkSize) source
termination_by buf.length + source.size
decreasing_by
  have hsize := Source.fill_size _hheader
  have hsize' := Source.fill_size _hpayload
  simp only [length_drop] at hsize' ⊢
  omega

def readMessageFrameBuffered (state : List UInt8 × Source) :
    Except (Stop NetError) (List UInt8) × List UInt8 × Source :=
  readChunksBuffered [] state.1 state.2

def readChunks (message : List UInt8) (source : Source) : Except (Stop NetError) (List UInt8) × Source :=
  match _hheader : Source.readExact 2 headerFailed (headerFailed earlyEof) source with
  | (.error e, source) => (.error e, source)
  | (.ok header, source) =>
    let chunkSize := ofBytes header
    if chunkSize = 0 then (.ok message, source)
    else if message.length + chunkSize > maxBoltMessageSize then (.error (.error tooLarge), source)
    else
      match _hpayload : Source.readExact chunkSize payloadFailed (payloadFailed earlyEof) source with
      | (.error e, source) => (.error e, source)
      | (.ok payload, source) =>
        readChunks (message ++ payload) source
termination_by source.size
decreasing_by
  have hsize := Source.readExact_size _hheader
  have hsize' := Source.readExact_size _hpayload
  omega

def readMessageFrame (source : Source) : Except (Stop NetError) (List UInt8) × Source := readChunks [] source

def calls {α σ : Type} (call : σ → α × σ) : ℕ → σ → List α × σ
  | 0, state => ([], state)
  | n + 1, state =>
    let (a, state) := call state
    let (as, state) := calls call n state
    (a :: as, state)

lemma ofBytes_header {len : ℕ} (h : len ≤ maxChunkSize) : ofBytes (toBytes 2 len) = len :=
  ofBytes_toBytes_of_lt (Nat.lt_succ_of_le h)

lemma take_header (len : ℕ) (rest : List UInt8) : (toBytes 2 len ++ rest).take 2 = toBytes 2 len :=
  take_left' (length_toBytes 2 len)

lemma drop_header (len : ℕ) (rest : List UInt8) : (toBytes 2 len ++ rest).drop 2 = rest :=
  drop_left' (length_toBytes 2 len)

variable {payload : List UInt8}

lemma encodeChunks_chunk (h : payload ≠ []) :
    ∃ chunk more, payload = chunk ++ more ∧ chunk ≠ [] ∧ chunk.length ≤ maxChunkSize ∧
      encodeChunks payload = toBytes 2 chunk.length ++ (chunk ++ encodeChunks more) := by
  have hpos := length_pos_of_ne_nil h
  have hlen : (payload.take (min payload.length maxChunkSize)).length = min payload.length maxChunkSize := by
    rw [length_take, Nat.min_eq_left (Nat.min_le_left _ _)]
  refine ⟨payload.take (min payload.length maxChunkSize), payload.drop (min payload.length maxChunkSize),
    (take_append_drop _ _).symm, ?_, ?_, ?_⟩
  · apply ne_nil_of_length_pos
    rw [hlen]
    simp only [maxChunkSize]
    omega
  · rw [hlen]
    exact Nat.min_le_right _ _
  · rw [encodeChunks, if_neg h, hlen, append_assoc]

/-- Readers of a state that still holds some bytes, by what they do with an end mark and with a chunk. -/
structure Unframes {σ : Type} (read : List UInt8 → σ → Except (Stop NetError) (List UInt8) × σ)
    (holds : σ → List UInt8 → Prop) : Prop where
  last : ∀ {s rest message}, holds s (toBytes 2 0 ++ rest) → ∃ s', read message s = (.ok message, s') ∧ holds s' rest
  chunk : ∀ {s rest message chunk}, holds s (toBytes 2 chunk.length ++ (chunk ++ rest)) → chunk.length ≠ 0 →
    chunk.length ≤ maxChunkSize → ¬ message.length + chunk.length > maxBoltMessageSize →
    ∃ s', read message s = read (message ++ chunk) s' ∧ holds s' rest

namespace Unframes

variable {σ : Type} {read : List UInt8 → σ → Except (Stop NetError) (List UInt8) × σ} {holds : σ → List UInt8 → Prop}
  {s : σ} (h : Unframes read holds)
include h

lemma encoded (message) {rest : List UInt8} (hholds : holds s (encodeChunks payload ++ rest))
    (hsize : message.length + payload.length ≤ maxBoltMessageSize) :
    ∃ s', read message s = (.ok (message ++ payload), s') ∧ holds s' rest := by
  -- the message is read chunk by chunk, as it was written
  induction hn : payload.length using Nat.strong_induction_on generalizing s message payload with
  | h n ih =>
    by_cases hne : payload = []
    · subst hne
      rw [encodeChunks, if_pos rfl] at hholds
      rw [append_nil]
      exact h.last hholds
    · obtain ⟨chunk, more, rfl, hchunk, hlen, hencoded⟩ := encodeChunks_chunk hne
      have hpos := length_pos_of_ne_nil hchunk
      rw [length_append] at hsize hn
      rw [hencoded, append_assoc, append_assoc] at hholds
      have hfits : ¬ message.length + chunk.length > maxBoltMessageSize := by omega
      obtain ⟨s₁, hread, hholds₁⟩ := h.chunk hholds hpos.ne' hlen hfits
      obtain ⟨s', hread', hholds'⟩ :=
        ih more.length (by omega) (message ++ chunk) hholds₁ (by rw [length_append]; omega) rfl
      exact ⟨s', by rw [hread, hread', append_assoc], hholds'⟩

lemma calls {payloads : List (List UInt8)} (hsize : ∀ payload ∈ payloads, payload.length ≤ maxBoltMessageSize)
    (hholds : holds s (payloads.flatMap encodeChunks)) :
    ∃ s', calls (read []) payloads.length s = (payloads.map .ok, s') ∧ holds s' [] := by
  induction payloads generalizing s with
  | nil => exact ⟨s, rfl, hholds⟩
  | cons payload payloads ih =>
    obtain ⟨hfirst, hmore⟩ := List.forall_mem_cons.mp hsize
    rw [flatMap_cons] at hholds
    obtain ⟨s₁, hread, hholds₁⟩ := h.encoded [] hholds (by simpa using hfirst)
    obtain ⟨s', hcalls, hholds'⟩ := ih hmore hholds₁
    refine ⟨s', ?_, hholds'⟩
    rw [length_cons, Framing.calls, hread]
    simp only [hcalls, nil_append, map_cons]

end Unframes

lemma unframes_buffered : Unframes (fun message state => readChunksBuffered message state.1 state.2)
    fun state bytes => ∃ more, Source.Delivers state.2 more ∧ state.1 ++ more = bytes := by
  constructor
  · rintro ⟨buf, source⟩ rest message ⟨more, hsource, hbytes⟩
    obtain ⟨tail, source', more', hheader, hsource', heq⟩ := hsource.fill_front hbytes headerFailed headerClosed
    rw [length_toBytes] at hheader
    refine ⟨(tail, source'), ?_, more', hsource', heq⟩
    simp only
    rw [readChunksBuffered]
    split
    · rename_i heq
      cases hheader.symm.trans heq
    · rename_i heq
      cases hheader.symm.trans heq
      simp only [take_header, drop_header, ofBytes_header (Nat.zero_le _), if_pos]
  · rintro ⟨buf, source⟩ rest message chunk ⟨more, hsource, hbytes⟩ hpos hlen hsize
    obtain ⟨tail, source₁, more₁, hheader, hsource₁, heq₁⟩ := hsource.fill_front hbytes headerFailed headerClosed
    obtain ⟨tail', source', more', hpayload, hsource', heq'⟩ := hsource₁.fill_front heq₁ payloadFailed payloadClosed
    rw [length_toBytes] at hheader
    refine ⟨(tail', source'), ?_, more', hsource', heq'⟩
    simp only
    rw [readChunksBuffered]
    split
    · rename_i heq
      cases hheader.symm.trans heq
    · rename_i heq
      cases hheader.symm.trans heq
      simp only [take_header, drop_header, ofBytes_header hlen, if_neg hpos, if_neg hsize]
      split
      all_goals
        rename_i heq
        rw [take_header, drop_header, ofBytes_header hlen, hpayload] at heq
        cases heq
      rw [take_left, drop_left]

lemma unframes_exact : Unframes readChunks Source.Delivers := by
  constructor
  · intro source rest message hsource
    obtain ⟨source', hheader, hsource'⟩ := hsource.readExact rfl headerFailed (headerFailed earlyEof)
    rw [length_toBytes] at hheader
    refine ⟨source', ?_, hsource'⟩
    rw [readChunks]
    split
    · rename_i heq
      cases hheader.symm.trans heq
    · rename_i heq
      cases hheader.symm.trans heq
      simp only [ofBytes_header (Nat.zero_le _), if_pos]
  · intro source rest message chunk hsource hpos hlen hsize
    obtain ⟨source₁, hheader, hsource₁⟩ := hsource.readExact rfl headerFailed (headerFailed earlyEof)
    obtain ⟨source', hpayload, hsource'⟩ := hsource₁.readExact rfl payloadFailed (payloadFailed earlyEof)
    rw [length_toBytes] at hheader
    refine ⟨source', ?_, hsource'⟩
    rw [readChunks]
    split
    · rename_i heq
      cases hheader.symm.trans heq
    · rename_i heq
      cases hheader.symm.trans heq
      simp only [ofBytes_header hlen, if_neg hpos, if_neg hsize]
      split
      all_goals
        rename_i heq
        rw [ofBytes_header hlen, hpayload] at heq
        cases heq
      rfl

theorem calls_encoded (payloads : List (List UInt8)) (hsize : ∀ payload ∈ payloads, payload.length ≤ maxBoltMessageSize)
    (pieces : List (List UInt8)) (hpieces : ∀ piece ∈ pieces, piece ≠ [])
    (hcut : pieces.flatten = payloads.flatMap encodeChunks) :
    calls readMessageFrameBuffered payloads.length ([], pieces.map .data) = (payloads.map .ok, [], []) ∧
      calls readMessageFrame payloads.length (pieces.map .data) = (payloads.map .ok, []) := by
  have hsource := Source.delivers_pieces hpieces
  rw [hcut] at hsource
  constructor
  · obtain ⟨⟨buf, source⟩, hcalls, more, hdelivers, hempty⟩ :=
      unframes_buffered.calls (s := ([], pieces.map .data)) hsize ⟨_, hsource, rfl⟩
    obtain ⟨rfl, rfl⟩ := List.append_eq_nil_iff.mp hempty
    cases hdelivers.eq_nil
    exact hcalls
  · obtain ⟨source, hcalls, hdelivers⟩ := unframes_exact.calls hsize hsource
    cases hdelivers.eq_nil
    exact hcalls

theorem calls_encoded_twoMessages :
    calls readMessageFrameBuffered 2 ([], [.data [0], .data [2, 7], .data [8, 0, 0, 0], .data [1, 9, 0], .data [0]]) =
      ([.ok [7, 8], .ok [9]], [], []) := by
  have hfirst : encodeChunks [7, 8] = [0, 2, 7, 8, 0, 0] := by
    simp [encodeChunks, maxChunkSize, toBytes]
  have hsecond : encodeChunks [9] = [0, 1, 9, 0, 0] := by
    simp [encodeChunks, maxChunkSize, toBytes]
  exact (calls_encoded [[7, 8], [9]] (by simp [maxBoltMessageSize]) [[0], [2, 7], [8, 0, 0, 0], [1, 9, 0], [0]]
    (by simp) (by simp [hfirst, hsecond])).1

end Framing

end Voyager.Bolt
