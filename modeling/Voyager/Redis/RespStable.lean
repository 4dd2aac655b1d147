import Voyager.Redis.Resp

/-! What the parser found, a value or an error, stays whatever follows its bytes. -/

namespace Voyager.Redis

open Lib Net Incremental List Option

lemma findCrlf_split {src : Bytes} {i : ℕ} (h : findCrlf src = some i) :
    ∃ line back, src = line ++ ([13, 10] ++ back) ∧ line.length = i ∧
      ∀ other, findCrlf (line ++ ([13, 10] ++ other)) = some i := by
  induction src using findCrlf.induct generalizing i with
  | case1 a b rest heq =>
    obtain ⟨rfl, rfl⟩ := heq
    obtain rfl : 0 = i := by simpa [findCrlf] using h
    exact ⟨[], rest, rfl, rfl, fun other => by simp [findCrlf]⟩
  | case2 a b rest hne ih =>
    rw [findCrlf, if_neg hne, map_eq_some_iff] at h
    obtain ⟨j, hj, rfl⟩ := h
    obtain ⟨line, back, hsrc, hlen, hsame⟩ := ih hj
    refine ⟨a :: line, back, by rw [hsrc]; rfl, by simp [hlen], fun other => ?_⟩
    -- the byte behind `a` is the first of the line, or of the line end
    obtain ⟨c, cs, hcs⟩ : ∃ c cs, line ++ ([13, 10] ++ other) = c :: cs := by
      cases line <;> exact ⟨_, _, rfl⟩
    have hb : c = b := by
      cases line with
      | nil =>
        rw [nil_append, cons_append, List.cons.injEq] at hcs hsrc
        rw [← hcs.1, hsrc.1]
      | cons d line =>
        rw [cons_append, List.cons.injEq] at hcs hsrc
        rw [← hcs.1, hsrc.1]
    have := hsame other
    rw [hcs] at this
    rw [cons_append, hcs, findCrlf, hb, if_neg hne, ← hb, this]
    rfl
  | case3 src hshort =>
    rw [findCrlf] at h
    · cases h
    · exact hshort

variable {n : ℕ}

lemma parseLine_split {src line : Bytes} (h : parseLine src = some (line, n)) :
    n = line.length + 2 ∧ (∃ back, src = line ++ [13, 10] ++ back) ∧
      ∀ other, parseLine (line ++ [13, 10] ++ other) = some (line, n) := by
  rw [parseLine, map_eq_some_iff] at h
  obtain ⟨i, hi, heq⟩ := h
  obtain ⟨front, back, rfl, rfl, hsame⟩ := findCrlf_split hi
  rw [take_left, Prod.mk.injEq] at heq
  obtain ⟨rfl, rfl⟩ := heq
  refine ⟨rfl, ⟨back, by rw [append_assoc]⟩, fun other => ?_⟩
  rw [parseLine, append_assoc, hsame, map_some, take_left]

def StableAfter {α : Type} (start : Bytes) (p : Incremental NetError α) : Prop :=
  ∀ more a n, p (start ++ more) = .ok (some (a, n)) → ∃ front back, more = front ++ back ∧
    start.length + front.length = n ∧ ∀ other, p (start ++ (front ++ other)) = .ok (some (a, n))

def FinalAfter {α : Type} (start : Bytes) (p : Incremental NetError α) : Prop :=
  ∀ bytes more, Fails (p (start ++ bytes)) → Fails (p (start ++ (bytes ++ more)))

structure SettledAfter {α : Type} (start : Bytes) (p : Incremental NetError α) : Prop where
  stable : StableAfter start p
  final : FinalAfter start p

section

variable {α β : Type} {start : Bytes}

lemma settledAfter_const (v : α) (h : n = start.length) : SettledAfter start fun _ => .ok (some (v, n)) := by
  refine ⟨?_, fun _ _ hfails => hfails⟩
  rintro more a m heq
  obtain ⟨rfl, rfl⟩ : v = a ∧ n = m := by simpa using heq
  exact ⟨[], more, rfl, by simp [h], fun _ => rfl⟩

lemma settledAfter_error (e : NetError) : SettledAfter start fun _ => (.error e : Except NetError (Option (α × ℕ))) :=
  ⟨nofun, fun _ _ hfails => hfails⟩

lemma settledAfter_bind {γ : Type} {e : Except NetError γ} {p : γ → Incremental NetError α}
    (h : ∀ c, SettledAfter start (p c)) : SettledAfter start fun rest => e >>= fun c => p c rest := by
  cases e with
  | error e => exact settledAfter_error e
  | ok c => exact h c

lemma not_fails_ok {result : Option (α × ℕ)} : ¬ Fails (.ok result : Except NetError (Option (α × ℕ))) := nofun

def shift (offset : ℕ) : Except NetError (Option (α × ℕ)) → Except NetError (Option (α × ℕ))
  | .ok (some (a, n)) => .ok (some (a, offset + n))
  | result => result

lemma settledAfter_shift {p r : Incremental NetError α} (hp : Settled p)
    (hr : ∀ more, r (start ++ more) = shift start.length (p more)) : SettledAfter start r := by
  constructor
  · intro more a n hparse
    rw [hr] at hparse
    rcases hmore : p more with e | _ | ⟨b, m⟩
    all_goals rw [hmore] at hparse
    · cases hparse
    · cases hparse
    · obtain ⟨front, back, rfl, rfl, hsame⟩ := hp.stable more b m hmore
      cases hparse
      refine ⟨front, back, rfl, rfl, fun other => ?_⟩
      rw [hr, hsame]
      rfl
  · intro bytes more hfails
    rw [hr] at hfails ⊢
    rcases hbytes : p bytes with e | _ | ⟨b, m⟩
    all_goals rw [hbytes] at hfails
    · obtain ⟨e', he'⟩ := hp.final bytes more ⟨e, hbytes⟩
      rw [he']
      exact ⟨e', rfl⟩
    · exact absurd hfails not_fails_ok
    · exact absurd hfails not_fails_ok

lemma SettledAfter.next {p : Incremental NetError β} {q : β → ℕ → Incremental NetError α} {r : Incremental NetError α}
    (hp : SettledAfter start p) (hq : ∀ front b, SettledAfter (start ++ front) (q b (start ++ front).length))
    (hr : ∀ more, r (start ++ more) =
      match p (start ++ more) with
      | .error e => .error e
      | .ok none => .ok none
      | .ok (some (b, n)) => q b n (start ++ more)) : SettledAfter start r := by
  constructor
  · intro more a n hparse
    rw [hr] at hparse
    rcases hmore : p (start ++ more) with e | _ | ⟨b, m⟩
    all_goals rw [hmore] at hparse
    · cases hparse
    · cases hparse
    · obtain ⟨frame, rest, rfl, rfl, hframe⟩ := hp.stable more b m hmore
      simp only [← append_assoc, ← length_append] at hparse
      obtain ⟨front, back, rfl, hlen, hsame⟩ := (hq frame b).stable rest a n hparse
      refine ⟨frame ++ front, back, (append_assoc ..).symm, ?_, fun other => ?_⟩
      · rw [← hlen, length_append, length_append, Nat.add_assoc]
      · rw [hr, append_assoc, hframe, ← hsame other]
        simp only [append_assoc, length_append]
  · intro bytes more hfails
    rw [hr] at hfails ⊢
    rcases hbytes : p (start ++ bytes) with e | _ | ⟨b, m⟩
    all_goals rw [hbytes] at hfails
    · obtain ⟨e', he'⟩ := hp.final bytes more ⟨e, hbytes⟩
      rw [he']
      exact ⟨e', rfl⟩
    · exact absurd hfails not_fails_ok
    · obtain ⟨frame, rest, rfl, rfl, hframe⟩ := hp.stable bytes b m hbytes
      rw [append_assoc frame, hframe]
      simp only [← append_assoc start, ← length_append] at hfails ⊢
      exact (hq frame b).final rest more hfails

lemma settled_afterLine {f : Bytes → ℕ → Incremental NetError α}
    (h : ∀ line start, SettledAfter start (f line start.length)) : Settled (afterLine f) := by
  have hline : SettledAfter [] fun src => (.ok (parseLine src) : Except NetError (Option (Bytes × ℕ))) := by
    refine ⟨fun src line n hparse => ?_, fun _ _ hfails => absurd hfails not_fails_ok⟩
    obtain ⟨rfl, ⟨back, rfl⟩, hsame⟩ := parseLine_split (Except.ok.inj hparse)
    exact ⟨line ++ [13, 10], back, rfl, by simp, fun other => congrArg Except.ok (hsame other)⟩
  have hafter : SettledAfter [] (afterLine f) := by
    refine hline.next (fun _ line => h line _) fun more => ?_
    rw [afterLine]
    rcases parseLine ([] ++ more) with _ | ⟨line, n⟩ <;> rfl
  refine ⟨fun src a n hparse => ?_, hafter.final⟩
  obtain ⟨front, back, hsrc, hlen, hsame⟩ := hafter.stable src a n hparse
  exact ⟨front, back, hsrc, by simpa using hlen, hsame⟩

lemma SettledAfter.checkValue {p : Incremental NetError α} (h : SettledAfter start p) (f : α → Except NetError β) :
    SettledAfter start fun rest => checkValue f (p rest) := by
  refine h.next (q := fun a n _ => f a >>= fun b => .ok (some (b, n)))
    (fun _ _ => settledAfter_bind fun b => settledAfter_const b rfl) fun more => ?_
  rcases p (start ++ more) with e | _ | ⟨a, n⟩ <;> rfl

variable {len : ℕ}

lemma split_of_getElem? {more : Bytes} {a b : UInt8} (ha : more[len]? = some a) (hb : more[len + 1]? = some b) :
    ∃ bytes back, more = bytes ++ ([a, b] ++ back) ∧ bytes.length = len := by
  induction len generalizing more with
  | zero =>
    match more with
    | c :: d :: back =>
      obtain rfl : c = a := by simpa using ha
      obtain rfl : d = b := by simpa using hb
      exact ⟨[], back, rfl, rfl⟩
    | [_] => simp at hb
    | [] => simp at ha
  | succ len ih =>
    match more with
    | c :: more =>
      obtain ⟨bytes, back, rfl, hlen⟩ := ih (by simpa using ha) (by simpa using hb)
      exact ⟨c :: bytes, back, rfl, by simp [hlen]⟩
    | [] => simp at ha

lemma parsePayload_eq_some {missing incomplete : String} {more bytes : Bytes} :
    parsePayload missing incomplete start.length len (start ++ more) = .ok (some (bytes, n)) ↔
      start.length + len + 2 < 2 ^ 64 ∧ start.length + len + 2 = n ∧ bytes.length = len ∧
        ∃ back, more = bytes ++ ([13, 10] ++ back) := by
  have hindex : ∀ k, (start ++ more)[start.length + k]? = more[k]? := fun k => by
    rw [getElem?_append_right (Nat.le_add_right _ _), Nat.add_sub_cancel_left]
  simp only [parsePayload, length_append, Nat.add_assoc, hindex, drop_left]
  constructor
  · intro h
    split_ifs at h with hsmall hlen hend
    · cases h
    · push Not at hend
      obtain ⟨bytes', back, rfl, rfl⟩ := split_of_getElem? hend.1 hend.2
      obtain ⟨rfl, rfl⟩ : bytes' = bytes ∧ start.length + (bytes'.length + 2) = n := by simpa using h
      exact ⟨hsmall, rfl, rfl, back, rfl⟩
    · cases h
  · rintro ⟨hsmall, rfl, rfl, back, rfl⟩
    rw [if_pos hsmall, if_neg (by simp), if_neg (by simp)]
    simp

variable (missing incomplete : String)

lemma stableAfter_parsePayload (len : ℕ) : StableAfter start (parsePayload missing incomplete start.length len) := by
  intro more bytes n hparse
  obtain ⟨hsmall, hn, hlen, back, rfl⟩ := parsePayload_eq_some.mp hparse
  refine ⟨bytes ++ [13, 10], back, by simp, ?_, fun other => parsePayload_eq_some.mpr ⟨hsmall, hn, hlen, other, ?_⟩⟩
  · rw [length_append, ← hn, hlen]
    rfl
  · rw [append_assoc]

lemma parsePayload_fails {missing incomplete : String} {payloadStart : ℕ} {rest : Bytes} :
    Fails (parsePayload missing incomplete payloadStart len rest) ↔
      if payloadStart + len + 2 < 2 ^ 64 then
        payloadStart + len + 2 ≤ rest.length ∧
          (rest[payloadStart + len]? ≠ some 13 ∨ rest[payloadStart + len + 1]? ≠ some 10)
      else ((payloadStart + len) % 2 ^ 64 + 2) % 2 ^ 64 ≤ rest.length := by
  simp only [parsePayload]
  split_ifs with hsmall hlen hend hlen hend
  · exact ⟨fun h => absurd h not_fails_ok, fun h => absurd hlen (not_lt.mpr h.1)⟩
  · exact ⟨fun _ => ⟨not_lt.mp hlen, hend⟩, fun _ => ⟨_, rfl⟩⟩
  · exact ⟨fun h => absurd h not_fails_ok, fun h => absurd h.2 hend⟩
  · exact ⟨fun h => absurd h not_fails_ok, fun h => absurd hlen (not_lt.mpr h)⟩
  · exact ⟨fun _ => not_lt.mp hlen, fun _ => ⟨_, rfl⟩⟩
  · exact ⟨fun _ => not_lt.mp hlen, fun _ => ⟨_, rfl⟩⟩

lemma finalAfter_parsePayload (payloadStart len : ℕ) :
    FinalAfter start (parsePayload missing incomplete payloadStart len) := by
  intro bytes more hfails
  rw [parsePayload_fails] at hfails ⊢
  rw [← append_assoc]
  generalize start ++ bytes = front at hfails ⊢
  have hle : front.length ≤ (front ++ more).length := by
    rw [length_append]
    exact Nat.le_add_right _ _
  split_ifs at hfails ⊢ with hsmall
  · obtain ⟨hlen, hend⟩ := hfails
    rw [getElem?_append_left (by omega), getElem?_append_left (by omega)]
    exact ⟨hlen.trans hle, hend⟩
  · exact hfails.trans hle

lemma settledAfter_parsePayload (len : ℕ) : SettledAfter start (parsePayload missing incomplete start.length len) :=
  ⟨stableAfter_parsePayload missing incomplete len, finalAfter_parsePayload missing incomplete _ len⟩

end

section

variable {item : Incremental NetError RespValue} {start : Bytes}

lemma parseItems_succ (more : Bytes) (count : ℕ) (items : List RespValue) :
    parseItems item (start ++ more) (count + 1) start.length items =
      match item more with
      | .error e => .error e
      | .ok none => .ok none
      | .ok (some (v, consumed)) => parseItems item (start ++ more) count (start.length + consumed) (items ++ [v]) := by
  rcases hitem : item more with e | _ | ⟨v, consumed⟩
  all_goals simp [parseItems, hitem]

lemma parseItems_frame {frame : Bytes} {v : RespValue} (rest : Bytes)
    (h : item (frame ++ rest) = .ok (some (v, frame.length))) (count : ℕ) (items : List RespValue) :
    parseItems item (start ++ (frame ++ rest)) (count + 1) start.length items =
      parseItems item (start ++ frame ++ rest) count (start ++ frame).length (items ++ [v]) := by
  rw [parseItems_succ, h, append_assoc, length_append]

lemma settledAfter_parseItems (hitem : Settled item) (count : ℕ) (items : List RespValue) :
    SettledAfter start fun rest => parseItems item rest count start.length items := by
  induction count generalizing start items with
  | zero => exact settledAfter_const items rfl
  | succ count ih =>
    have hfirst : SettledAfter start fun rest => shift start.length (item (rest.drop start.length)) :=
      settledAfter_shift hitem fun more => by rw [drop_left]
    refine hfirst.next (q := fun v offset rest => parseItems item rest count offset (items ++ [v]))
      (fun _ v => ih (items ++ [v])) fun more => ?_
    rw [parseItems_succ, drop_left]
    rcases item more with e | _ | ⟨v, consumed⟩ <;> rfl

lemma settledAfter_parsePairs (hitem : Settled item) (count : ℕ) (pairs : List (RespValue × RespValue)) :
    SettledAfter start fun rest => parsePairs item rest count start.length pairs := by
  induction count generalizing start pairs with
  | zero => exact settledAfter_const pairs rfl
  | succ count ih =>
    refine (settledAfter_parseItems hitem 2 []).next (q := fun items offset rest =>
      if h : items.length = 2 then parsePairs item rest count offset (pairs ++ [(items[0], items[1])])
      else .ok none) (fun _ items => ?_) fun more => ?_
    · split_ifs
      · exact ih _
      · exact ⟨fun _ _ _ hnone => (by cases hnone), fun _ _ hfails => hfails⟩
    · rw [parsePairs]
      rcases parseItems item (start ++ more) 2 start.length [] with e | _ | ⟨items, offset⟩
      · rfl
      · rfl
      · rcases items with _ | ⟨key, _ | ⟨value, _ | _⟩⟩ <;> rfl

end

section

variable (std : Std) {item : Incremental NetError RespValue}

lemma settled_parseText (what : String) (f : String → Except NetError RespValue) : Settled (parseText std what f) :=
  settled_afterLine fun _ _ => settledAfter_bind fun _ => settledAfter_bind fun v => settledAfter_const v rfl

lemma settled_parseBulkString : Settled (parseBulkString std) := by
  refine settled_afterLine fun line start => settledAfter_bind fun len => ?_
  split_ifs
  · exact settledAfter_error _
  · exact settledAfter_const _ rfl
  · exact (settledAfter_parsePayload _ _ _).checkValue _

lemma settled_parseBlobError : Settled (parseBlobError std) := by
  refine settled_afterLine fun line start => settledAfter_bind fun len => ?_
  exact (settledAfter_parsePayload _ _ _).checkValue _

lemma settled_parseVerbatimString : Settled (parseVerbatimString std) := by
  refine settled_afterLine fun line start => settledAfter_bind fun len => ?_
  split_ifs
  · exact settledAfter_error _
  · exact (settledAfter_parsePayload _ _ _).checkValue _

lemma settled_parseNull : Settled parseNull := by
  refine .of_fixed (fun bytes hlt => if_pos hlt) (fun bytes other hlen => ?_) fun bytes v n hparse => ?_
  · match bytes with
    | [a, b] => simp [parseNull]
  · unfold parseNull at hparse
    split_ifs at hparse <;> simp_all

lemma settled_parseBoolean : Settled parseBoolean := by
  refine .of_fixed (fun bytes hlt => if_pos hlt) (fun bytes other hlen => ?_) fun bytes v n hparse => ?_
  · match bytes with
    | [a, b, c] => simp [parseBoolean]
  · unfold parseBoolean at hparse
    split_ifs at hparse
    · cases hparse
    · split at hparse <;> simp_all

section

variable (h : Settled item)
include h

lemma settled_parseArray : Settled (parseArray std item) := by
  refine settled_afterLine fun line start => settledAfter_bind fun len => ?_
  split_ifs
  · exact settledAfter_error _
  · exact settledAfter_const _ rfl
  · exact settledAfter_error _
  · exact (settledAfter_parseItems h _ _).checkValue _

lemma settled_parseCollection (what name : String) (make : List RespValue → RespValue) :
    Settled (parseCollection std item what name make) := by
  refine settled_afterLine fun line start => settledAfter_bind fun len => ?_
  split_ifs
  · exact settledAfter_error _
  · exact (settledAfter_parseItems h _ _).checkValue _

lemma settled_parseMap : Settled (parseMap std item) := by
  refine settled_afterLine fun line start => settledAfter_bind fun len => ?_
  split_ifs
  · exact settledAfter_error _
  · exact (settledAfter_parsePairs h _ _).checkValue _

lemma settled_parseBody (typeMarker : UInt8) : Settled (parseBody std item typeMarker) := by
  unfold parseBody
  split
  case h_1 | h_2 | h_3 | h_7 | h_11 => exact settled_parseText std _ _
  case h_4 => exact settled_parseBulkString std
  case h_5 => exact settled_parseArray std h
  case h_6 => exact settled_parseNull
  case h_8 => exact settled_parseBoolean
  case h_9 => exact settled_parseBlobError std
  case h_10 => exact settled_parseVerbatimString std
  case h_12 => exact settled_parseMap std h
  case h_13 | h_14 => exact settled_parseCollection std h _ _ _
  case h_15 => exact ⟨nofun, fun _ _ hfails => hfails⟩

end

lemma settled_parseRespSlice (levels : ℕ) : Settled (parseRespSlice std levels) := by
  induction levels with
  | zero => exact ⟨nofun, fun _ _ hfails => hfails⟩
  | succ levels ih =>
    have hbody : ∀ c, SettledAfter [c] (parseRespSlice std (levels + 1)) := fun c =>
      settledAfter_shift (settled_parseBody std ih c) fun more => by
        rw [singleton_append, parseRespSlice]
        rcases parseBody std (parseRespSlice std levels) c more with e | _ | ⟨v, n⟩
        · rfl
        · rfl
        · rw [shift, Nat.add_comm]
          rfl
    constructor
    · intro bytes v n hparse
      cases bytes with
      | nil => cases hparse
      | cons c rest =>
        obtain ⟨front, back, rfl, hlen, hsame⟩ := (hbody c).stable rest v n hparse
        exact ⟨c :: front, back, rfl, by rw [← hlen, length_cons, Nat.add_comm]; rfl, hsame⟩
    · intro bytes more hfails
      cases bytes with
      | nil => exact absurd hfails not_fails_ok
      | cons c rest => exact (hbody c).final rest more hfails

lemma settled_parse : Settled (RespValue.parse std) := settled_parseRespSlice std _

end

end Voyager.Redis
