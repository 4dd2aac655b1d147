import Voyager.Redis.Connection
import Voyager.Redis.RespStable

namespace Voyager.Redis

open Lib Net Incremental RespValue Call List

inductive Op (Params : Type) where
  | executeRaw (args : List String)
  | graphQuery (graph query : String) (params : Params)
  | ping
  | reset

structure Use (Params : Type) where
  op : Op Params
  writes : List Written
  arrivals : Source

def Session.begin {Params : Type} (s : Session) (u : Use Params) : Session :=
  { s with writes := u.writes, incoming := s.incoming ++ u.arrivals }

open Session

variable {result : Except (Stop NetError) RespValue}

section

variable (std : Std)

def Pairs (taken : Bytes) (received : List RespValue) (commands : ℕ) : Prop :=
  ∃ vs, Frames (RespValue.parse std) taken vs ∧ vs.filter (fun v => !v.isPush) = received ∧ received.length = commands

def Session.Paired (s : Session) : Prop := Pairs std s.connection.buffer.taken s.received s.sent.length

def OnlyPushes (bytes : Bytes) : Prop := ∃ vs, Frames (RespValue.parse std) bytes vs ∧ ∀ v ∈ vs, v.isPush = true

inductive Replies (accept : Bytes → Prop) : Bytes → Source → Prop where
  | found {bytes : Bytes} {source : Source} {v : RespValue} {n : ℕ}
      (hparse : RespValue.parse std bytes = .ok (some (v, n))) (hpush : v.isPush = false)
      (haccept : accept (bytes.drop n)) : Replies accept bytes source
  | waiting {bytes : Bytes} (hparse : RespValue.parse std bytes = .ok none) (hsize : bytes.length ≤ maxRespFrameSize) :
      Replies accept bytes []
  | more {bytes piece : Bytes} {source : Source} (hparse : RespValue.parse std bytes = .ok none)
      (hsize : bytes.length ≤ maxRespFrameSize) (hpiece : piece ≠ []) (hrest : Replies accept (bytes ++ piece) source) :
      Replies accept bytes (.data piece :: source)

def Settles (accept : Bytes → Prop) : List Written → Bytes → Source → Prop
  | .done :: _, bytes, incoming => Replies std accept bytes incoming
  | .failed _ sent :: _, bytes, _ => sent = false ∧ accept bytes
  | _, _, _ => True

/-- What a call needs of the state that it starts from. A reset drops the buffer, so nothing but pushes may be in it. -/
def Op.Settled {Params : Type} (op : Op Params) (s : Session) : Prop :=
  match op with
  | .reset =>
    if s.connection.inTransaction then
      Settles std (OnlyPushes std) s.writes s.connection.buffer.bytes s.incoming
    else OnlyPushes std s.connection.buffer.bytes
  | _ => Settles std (fun _ => True) s.writes s.connection.buffer.bytes s.incoming

def Settled {Params : Type} (s : Session) (u : Use Params) : Prop :=
  s.connection.isValid = true → u.op.Settled std (s.begin u)

variable {std}

variable {v : RespValue}

section

variable {taken : Bytes} {received : List RespValue} {commands : ℕ}

lemma frames_unique {bytes : Bytes} {vs ws : List RespValue} (h : Frames (parse std) bytes vs)
    (h' : Frames (parse std) bytes ws) : ws = vs := by
  rw [← append_nil bytes] at h'
  obtain ⟨bs, rfl, hbs⟩ := h.of_append (settled_parse std).stable h'
  generalize hnil : ([] : Bytes) = bytes at hbs
  cases hbs with
  | nil => rw [append_nil]
  | cons hne _ _ => exact absurd (List.append_eq_nil_iff.mp hnil.symm).1 hne

lemma frames_single {frame : Bytes} (h : parse std frame = .ok (some (v, frame.length))) :
    Frames (parse std) frame [v] := by
  have hne : frame ≠ [] := by
    rintro rfl
    cases h
  have := Frames.cons hne h .nil
  rwa [append_nil] at this

lemma pairs_append (hs : Pairs std taken received commands) {bytes : Bytes} {vs : List RespValue}
    (hbytes : Frames (parse std) bytes vs) {received' : List RespValue} {commands' : ℕ} :
    Pairs std (taken ++ bytes) received' commands' ↔
      received ++ vs.filter (fun v => !v.isPush) = received' ∧ received'.length = commands' := by
  obtain ⟨us, hus, hreceived, hcount⟩ := hs
  have hall := hus.append hbytes
  constructor
  · rintro ⟨ws, hws, hfilter, hcount'⟩
    obtain rfl := frames_unique hall hws
    rw [filter_append, hreceived] at hfilter
    exact ⟨hfilter, hcount'⟩
  · rintro ⟨hreceived', hcount'⟩
    exact ⟨us ++ vs, hall, by rw [filter_append, hreceived, hreceived'], hcount'⟩

lemma pairs_reply (hs : Pairs std taken received commands) {frame : Bytes}
    (h : parse std frame = .ok (some (v, frame.length))) :
    Pairs std (taken ++ frame) (received ++ [v]) (commands + 1) ↔ v.isPush = false := by
  have hlen : (received ++ [v]).length = commands + 1 := by
    rw [length_append, hs.choose_spec.2.2]
    rfl
  rw [pairs_append hs (frames_single h)]
  cases hpush : v.isPush <;> simp [hpush, hs.choose_spec.2.2]

lemma not_pairs_of_push (hmem : v ∈ received) (hv : v.isPush = true) : ¬ Pairs std taken received commands := by
  rintro ⟨vs, -, hfilter, -⟩
  rw [← hfilter] at hmem
  simp [hv] at hmem

lemma pairs_drop (hs : Pairs std taken received commands) {bytes : Bytes} :
    Pairs std (taken ++ bytes) received commands ↔ OnlyPushes std bytes := by
  constructor
  · rintro ⟨ws, hws, hfilter, hcount⟩
    obtain ⟨us, hus, hreceived, -⟩ := hs
    obtain ⟨vs, rfl, hvs⟩ := hus.of_append (settled_parse std).stable hws
    rw [filter_append, hreceived, append_right_eq_self, filter_eq_nil_iff] at hfilter
    exact ⟨vs, hvs, fun v hv => by simpa using hfilter v hv⟩
  · rintro ⟨vs, hvs, hpush⟩
    rw [pairs_append hs hvs]
    refine ⟨?_, hs.choose_spec.2.2⟩
    rw [append_right_eq_self, filter_eq_nil_iff]
    exact fun v hv => by simp [hpush v hv]

end

section

variable {accept : Bytes → Prop} {bytes : Bytes} {source : Source}

lemma replies_iff_of_parsed {n : ℕ} (h : parse std bytes = .ok (some (v, n))) :
    Replies std accept bytes source ↔ v.isPush = false ∧ accept (bytes.drop n) := by
  constructor
  · rintro (⟨h', hpush, haccept⟩ | ⟨h', -⟩ | ⟨h', -, -, -⟩)
    · cases h.symm.trans h'
      exact ⟨hpush, haccept⟩
    all_goals cases h.symm.trans h'
  · rintro ⟨hpush, haccept⟩
    exact .found h hpush haccept

lemma not_replies_of_error {e : NetError} (h : parse std bytes = .error e) : ¬ Replies std accept bytes source := by
  rintro (⟨h', -, -⟩ | ⟨h', -⟩ | ⟨h', -, -, -⟩)
  all_goals cases h.symm.trans h'

lemma not_replies_of_exceeded (h : parse std bytes = .ok none) (hsize : maxRespFrameSize < bytes.length) :
    ¬ Replies std accept bytes source := by
  rintro (⟨h', -, -⟩ | ⟨-, hsize'⟩ | ⟨-, hsize', -, -⟩)
  · cases h.symm.trans h'
  all_goals exact absurd hsize (Nat.not_lt.mpr hsize')

lemma replies_cons_iff {arrival : Arrival} (h : parse std bytes = .ok none)
    (hsize : bytes.length ≤ maxRespFrameSize) :
    Replies std accept bytes (arrival :: source) ↔
      ∃ piece, arrival = .data piece ∧ piece ≠ [] ∧ Replies std accept (bytes ++ piece) source := by
  constructor
  · rintro (⟨h', -, -⟩ | - | ⟨-, -, hpiece, hrest⟩)
    · cases h.symm.trans h'
    · exact ⟨_, rfl, hpiece, hrest⟩
  · rintro ⟨piece, rfl, hpiece, hrest⟩
    exact .more h hsize hpiece hrest

end

inductive ReadEnds (std : Std) (buffer : Buffer) (source : Source) :
    Except (Stop NetError) RespValue × Buffer × Source → Prop where
  | value {v : RespValue} {frame : Bytes} {buffer' : Buffer} {source' : Source}
      (hparse : RespValue.parse std frame = .ok (some (v, frame.length))) (htaken : buffer'.taken = buffer.taken ++ frame)
      (h : ∀ accept, Replies std accept buffer.bytes source ↔ v.isPush = false ∧ accept buffer'.bytes) :
      ReadEnds std buffer source (.ok v, buffer', source')
  | pending {buffer' : Buffer} {source' : Source} (h : ∀ accept, Replies std accept buffer.bytes source) :
      ReadEnds std buffer source (.error .pending, buffer', source')
  | failed {e : NetError} {buffer' : Buffer} {source' : Source} (h : ∀ accept, ¬ Replies std accept buffer.bytes source) :
      ReadEnds std buffer source (.error (.error e), buffer', source')

lemma look_eq (buffer : Buffer) : look std buffer =
      match parse std buffer.bytes with
      | .error e => some (.error (.error e), buffer)
      | .ok (some (val, consumed)) => some (.ok val, buffer.advance consumed)
      | .ok none =>
        if buffer.bytes.length > maxRespFrameSize then some (.error (.error bufferExceeded), buffer) else none := by
  rw [look]
  by_cases hnil : buffer.bytes = []
  · rw [if_pos hnil, hnil]
    rfl
  · rcases parse std buffer.bytes with e | _ | ⟨val, consumed⟩
    all_goals simp [hnil]

variable {buffer buffer' : Buffer}

lemma look_ends {source source' : Source}
    (h : look std buffer = some (result, buffer')) : ReadEnds std buffer source (result, buffer', source') := by
  rw [look_eq] at h
  split at h
  · rename_i e hparse
    cases h
    exact .failed fun _ => not_replies_of_error hparse
  · rename_i val consumed hparse
    cases h
    obtain ⟨front, back, hbytes, hlen, hfront⟩ := (settled_parse std).stable _ _ _ hparse
    have hframe : parse std front = .ok (some (val, front.length)) := by
      have := hfront []
      rwa [append_nil, ← hlen] at this
    refine .value hframe ?_ fun _ => replies_iff_of_parsed hparse
    rw [Buffer.advance, hbytes, ← hlen, take_left]
  · rename_i hparse
    split_ifs at h with hsize
    cases h
    exact .failed fun _ => not_replies_of_exceeded hparse hsize

lemma parse_of_look_none (h : look std buffer = none) :
    parse std buffer.bytes = .ok none ∧ buffer.bytes.length ≤ maxRespFrameSize := by
  rw [look_eq] at h
  split at h
  · cases h
  · cases h
  · rename_i hparse
    split_ifs at h with hsize
    exact ⟨hparse, Nat.not_lt.mp hsize⟩

lemma ReadEnds.of_extended {source source' : Source}
    {result : Except (Stop NetError) RespValue × Buffer × Source} (h : ReadEnds std buffer' source' result)
    (htaken : buffer'.taken = buffer.taken)
    (hstep : ∀ accept, Replies std accept buffer.bytes source ↔ Replies std accept buffer'.bytes source') :
    ReadEnds std buffer source result := by
  cases h with
  | value hparse htaken' h =>
    rw [htaken] at htaken'
    exact .value hparse htaken' fun accept => (hstep accept).trans (h accept)
  | pending h => exact .pending fun accept => (hstep accept).mpr (h accept)
  | failed h => exact .failed fun accept h' => h accept ((hstep accept).mp h')

lemma readRespValue_ends (buffer : Buffer) (source : Source) :
    ReadEnds std buffer source (readRespValue std buffer source) := by
  induction source generalizing buffer with
  | nil =>
    rw [readRespValue]
    split
    · rename_i hlook
      exact look_ends hlook
    · rename_i hlook
      obtain ⟨hparse, hsize⟩ := parse_of_look_none hlook
      exact .pending fun _ => .waiting hparse hsize
  | cons arrival source ih =>
    rw [readRespValue.eq_def]
    dsimp only
    split
    · rename_i hlook
      exact look_ends hlook
    · rename_i hlook
      obtain ⟨hparse, hsize⟩ := parse_of_look_none hlook
      have hiff : ∀ accept, Replies std accept buffer.bytes (arrival :: source) ↔ _ :=
        fun _ => replies_cons_iff hparse hsize
      match arrival with
      | .failed _ | .data [] => exact .failed fun accept => by simp [hiff]
      | .data (b :: piece) =>
        refine (ih (buffer.extend (b :: piece))).of_extended rfl fun accept => ?_
        simp [hiff, Buffer.extend]

end

section

variable {Params Result : Type} (lib : Library Params Result)

def perform : Op Params → Call Session NetError Unit
  | .executeRaw args => do
    let _ ← executeRaw lib args
  | .graphQuery graph query params => do
    let _ ← graphQuery lib graph query params
  | .ping => ping lib
  | .reset => reset lib

def use (s : Session) (u : Use Params) : Option Session := (perform lib u.op).returned (s.begin u)

/-- The connection is given up, or every command has had its reply and no byte of these replies is left. -/
def Session.Trusted (s : Session) : Prop := s.connection.isValid = false ∨ s.Paired lib.std

variable {lib}

inductive CommandEnds (std : Std) (settles : (Bytes → Prop) → Prop) (t : Session) : Prop where
  | expired (hvalid : t.connection.isValid = false) (h : ∀ accept, settles accept)
  | paired (hvalid : t.connection.isValid = true) (ht : t.Paired std)
      (h : ∀ accept, settles accept ↔ accept t.connection.buffer.bytes)
  | unpaired (hvalid : t.connection.isValid = true) (ht : ∀ taken, ¬ Pairs std taken t.received t.sent.length)
      (h : ∀ accept, ¬ settles accept)

section

variable {s : Session}

lemma not_pairs_of_outstanding (hs : s.Paired lib.std) (taken : Bytes) (args : List String) :
    ¬ Pairs lib.std taken s.received (s.sent ++ [args]).length := by
  rintro ⟨-, -, -, hcount⟩
  obtain ⟨-, -, -, hcount'⟩ := hs
  rw [hcount', length_append] at hcount
  simp at hcount

variable {t : Session}

variable {args : List String}

section

variable (hs : s.Paired lib.std) (hvalid : s.connection.isValid = true)

include hs hvalid

lemma readReply_ends {writes : List Written}
    (h : readReply lib { s with writes, sent := s.sent ++ [args] } = (result, t)) :
    (result = .error .pending ∧ ∀ accept, Replies lib.std accept s.connection.buffer.bytes s.incoming) ∨
      (result ≠ .error .pending ∧
        CommandEnds lib.std (fun accept => Replies lib.std accept s.connection.buffer.bytes s.incoming) t) := by
  have hends := @readRespValue_ends lib.std s.connection.buffer s.incoming
  rw [readReply] at h
  dsimp only at h
  generalize readRespValue lib.std s.connection.buffer s.incoming = r at h hends
  cases hends with
  | pending hreplies =>
    cases h
    exact .inl ⟨rfl, hreplies⟩
  | failed hreplies =>
    cases h
    exact .inr ⟨nofun, .unpaired hvalid (fun taken => not_pairs_of_outstanding hs taken args) hreplies⟩
  | @value v frame buffer' source' hparse htaken hreplies =>
    cases h
    refine .inr ⟨nofun, ?_⟩
    cases hpush : v.isPush with
    | true =>
      exact .unpaired hvalid (fun _ => not_pairs_of_push (mem_append_right _ (mem_singleton_self v)) hpush)
        fun accept h => by simp [hreplies, hpush] at h
    | false =>
      refine .paired hvalid ?_ fun accept => by simp [hreplies, hpush]
      rw [Session.Paired, htaken]
      simpa using (pairs_reply hs hparse).mpr hpush

lemma executeRawInner_ends (h : executeRawInner lib args s = (result, t)) : (result = .error .pending ∧
      ∀ accept, Settles lib.std accept s.writes s.connection.buffer.bytes s.incoming) ∨
      (result ≠ .error .pending ∧
        CommandEnds lib.std (fun accept => Settles lib.std accept s.writes s.connection.buffer.bytes s.incoming) t) := by
  rw [executeRawInner, bind_apply, writeCommand] at h
  match hwrites : s.writes with
  | [] | .stalled _ :: _ =>
    rw [hwrites] at h
    cases h
    exact .inl ⟨rfl, fun _ => trivial⟩
  | .failed message false :: writes =>
    rw [hwrites] at h
    cases h
    exact .inr ⟨nofun, .paired hvalid hs fun accept => by simp [Settles]⟩
  | .failed message true :: writes =>
    rw [hwrites] at h
    cases h
    refine .inr ⟨nofun, .unpaired hvalid (fun taken => not_pairs_of_outstanding hs taken args) fun accept => ?_⟩
    simp [Settles]
  | .done :: writes =>
    rw [hwrites] at h
    exact readReply_ends hs hvalid h

lemma executeRaw_ends (h : (executeRaw lib args).returned s = some t) :
    CommandEnds lib.std (fun accept => Settles lib.std accept s.writes s.connection.buffer.bytes s.incoming) t := by
  obtain hreturned | ⟨t', hpending, rfl⟩ := returned_timeout (x := executeRawInner lib args) h
  · rw [returned] at hreturned
    cases hinner : executeRawInner lib args s with
    | mk result t' =>
      obtain ⟨rfl, -⟩ | ⟨-, hends⟩ := executeRawInner_ends hs hvalid hinner
      · rw [hinner] at hreturned
        cases hreturned
      · have ht : (executeRawInner lib args s).2 = t := snd_of_returned hreturned
        rw [hinner] at ht
        rwa [← ht]
  · obtain ⟨-, hsettles⟩ | ⟨hresult, -⟩ := executeRawInner_ends hs hvalid hpending
    · exact .expired rfl hsettles
    · exact absurd rfl hresult

end

variable {settles : (Bytes → Prop) → Prop}

lemma CommandEnds.trusted_iff (h : CommandEnds lib.std settles t) : t.Trusted lib ↔ settles fun _ => True := by
  cases h with
  | expired hvalid h => exact ⟨fun _ => h _, fun _ => .inl hvalid⟩
  | paired hvalid ht h => exact ⟨fun _ => (h _).mpr trivial, fun _ => .inr ht⟩
  | unpaired hvalid ht h =>
    refine ⟨fun h' => ?_, fun h' => absurd h' (h _)⟩
    obtain h' | h' := h'
    · simp [hvalid] at h'
    · exact absurd h' (ht _)

lemma trusted_clearBuffer (hs : s.Paired lib.std) (hvalid : s.connection.isValid = true) :
    s.clearBuffer.Trusted lib ↔ OnlyPushes lib.std s.connection.buffer.bytes := by
  have hclear : s.clearBuffer.Trusted lib ↔ s.clearBuffer.Paired lib.std := by
    simp [Session.Trusted, clearBuffer, hvalid]
  rw [hclear]
  exact pairs_drop hs

lemma CommandEnds.trusted_cleared_iff (h : CommandEnds lib.std settles t) :
    t.leaveTransaction.clearBuffer.Trusted lib ↔ settles (OnlyPushes lib.std) := by
  cases h with
  | expired hvalid h => exact ⟨fun _ => h _, fun _ => .inl hvalid⟩
  | paired hvalid ht h =>
    rw [h]
    exact trusted_clearBuffer (s := t.leaveTransaction) ht hvalid
  | unpaired hvalid ht h =>
    refine ⟨fun h' => ?_, fun h' => absurd h' (h _)⟩
    obtain h' | h' := h'
    · simp [clearBuffer, leaveTransaction, hvalid] at h'
    · exact absurd h' (ht _)

lemma executeRaw_invalid (args : List String) (h : s.connection.isValid = false) :
    (executeRaw lib args s).2.connection.isValid = false := by
  have hread : ∀ s : Session, (readReply lib s).2.connection.isValid = s.connection.isValid := by
    intro s
    rw [readReply]
    split <;> rfl
  have hinner : (executeRawInner lib args s).2.connection.isValid = false := by
    rw [executeRawInner, bind_apply, writeCommand]
    match s.writes with
    | [] | .stalled _ :: _ | .failed _ _ :: _ => exact h
    | .done :: writes => exact (hread _).trans h
  obtain hstate | hstate := snd_timeout s.connection.queryTimeout expired
    (fun duration => .timeout s!"Redis command timed out after {lib.durationText duration}") (executeRawInner lib args) s
  · exact (congrArg (fun t => t.connection.isValid) hstate).trans hinner
  · exact congrArg (fun t => t.connection.isValid) hstate

variable {op : Op Params}

lemma executeRaw_of_perform (hop : op ≠ .reset) (h : (perform lib op).returned s = some t) :
    ∃ args, (executeRaw lib args).returned s = some t := by
  cases op with
  | executeRaw args => exact ⟨args, returned_of_bind (fun _ _ => rfl) h⟩
  | graphQuery graph query params =>
    refine ⟨_, returned_of_bind (fun resp t => ?_) (returned_of_bind (fun _ _ => rfl) h)⟩
    cases lib.falkorParse resp <;> rfl
  | ping =>
    refine ⟨_, returned_of_bind (fun resp t => ?_) h⟩
    split <;> rfl
  | reset => exact absurd rfl hop

lemma reset_of_idle (h : s.connection.inTransaction = false) : reset lib s = (.ok (), s.clearBuffer) := by
  rw [reset, get_bind]
  simp [h]
  rfl

lemma reset_of_transaction (h : s.connection.inTransaction = true) (ht : (reset lib).returned s = some t) :
    ∃ t', (executeRaw lib ["DISCARD"]).returned s = some t' ∧ t'.leaveTransaction.clearBuffer = t := by
  have hreset : (reset lib).returned s =
      ((executeRaw lib ["DISCARD"]).attempt >>= fun _ => do
        modify leaveTransaction
        modify clearBuffer).returned s := by
    rw [returned, returned, reset, get_bind]
    simp only [h, if_true]
  rw [hreset] at ht
  obtain ⟨t', -, ht', hstate⟩ := returned_of_attempt_bind ht
  exact ⟨t', ht', hstate⟩

lemma perform_invalid (h : s.connection.isValid = false) (ht : (perform lib op).returned s = some t) :
    t.connection.isValid = false := by
  have hraw : ∀ {args : List String} {t : Session}, (executeRaw lib args).returned s = some t →
      t.connection.isValid = false := by
    intro args t ht
    rw [← snd_of_returned ht]
    exact executeRaw_invalid args h
  by_cases hop : op = .reset
  · subst hop
    cases htransaction : s.connection.inTransaction with
    | false =>
      rw [← snd_of_returned ht, perform, reset_of_idle htransaction]
      exact h
    | true =>
      obtain ⟨t', ht', rfl⟩ := reset_of_transaction htransaction ht
      have hvalid : t'.connection.isValid = false := hraw ht'
      exact hvalid
  · obtain ⟨args, ht'⟩ := executeRaw_of_perform hop ht
    exact hraw ht'

lemma trusted_perform (hs : s.Paired lib.std) (hvalid : s.connection.isValid = true)
    (ht : (perform lib op).returned s = some t) :
    t.Trusted lib ↔ op.Settled lib.std s := by
  by_cases hop : op = .reset
  · subst hop
    cases htransaction : s.connection.inTransaction with
    | false =>
      rw [← snd_of_returned ht, perform, reset_of_idle htransaction, Op.Settled]
      simp only [htransaction, Bool.false_eq_true, if_false]
      exact trusted_clearBuffer hs hvalid
    | true =>
      obtain ⟨t', ht', rfl⟩ := reset_of_transaction htransaction ht
      rw [Op.Settled]
      simp only [htransaction, if_true]
      exact (executeRaw_ends hs hvalid ht').trusted_cleared_iff
  · obtain ⟨args, ht'⟩ := executeRaw_of_perform hop ht
    rw [(executeRaw_ends hs hvalid ht').trusted_iff]
    cases op with
    | reset => exact absurd rfl hop
    | _ => rfl

lemma trusted_use {u : Use Params} {s' : Session} (hs : s.Trusted lib) (h : use lib s u = some s') :
    s'.Trusted lib ↔ Settled lib.std s u := by
  cases hvalid : s.connection.isValid with
  | false =>
    have hs' : s'.connection.isValid = false := perform_invalid (s := s.begin u) hvalid h
    exact ⟨fun _ h => absurd (hvalid.symm.trans h) nofun, fun _ => .inl hs'⟩
  | true =>
    have hpaired : s.Paired lib.std := hs.resolve_left fun h => absurd (hvalid.symm.trans h) nofun
    refine (trusted_perform (s := s.begin u) hpaired hvalid h).trans ?_
    exact ⟨fun h _ => h, fun h => h hvalid⟩

end

theorem use_replied (lib : Library Params Result) (s : Session) (us : List (Use Params)) (hs : s.Trusted lib) :
    Meets (use lib) (Settled lib.std) s us ↔ ∀ t ∈ after (use lib) s us, t.Trusted lib :=
  meets_iff_forall_after (fun _ _ _ hs h => trusted_use hs h) hs us

end

def sampleLibrary : Library Unit Unit :=
  ⟨⟨fun _ => "", fun _ => .ok 0⟩, fun _ => "", fun _ => "30s", fun query _ => query, fun _ => .ok ()⟩

def sampleSession : Session := ⟨⟨⟨[], []⟩, false, true, some 30⟩, [], [], [], []⟩

def pongFrame : Bytes := [0x2B, 0x50, 0x4F, 0x4E, 0x47, 13, 10]

/-- The second reply begins to arrive with the first. -/
def repliedUses : List (Use Unit) :=
  [⟨.ping, [.done], [.data (pongFrame ++ [0x2B])]⟩, ⟨.executeRaw ["GET", "a"], [.done], [.data [0x61, 13, 10]]⟩]

theorem use_replied_ping :
    (after (use sampleLibrary) sampleSession repliedUses).map (·.received) =
        [[.simpleString "PONG"], [.simpleString "PONG", .simpleString "a"]] ∧
      ∀ t ∈ after (use sampleLibrary) sampleSession repliedUses, t.Trusted sampleLibrary := by
  refine ⟨rfl, ?_⟩
  apply (use_replied sampleLibrary sampleSession repliedUses (.inr ⟨[], .nil, rfl, rfl⟩)).mp
  have hpong : parse sampleLibrary.std (pongFrame ++ [0x2B]) = .ok (some (.simpleString "PONG", 7)) := rfl
  have hreply : parse sampleLibrary.std [0x2B, 0x61, 13, 10] = .ok (some (.simpleString "a", 4)) := rfl
  rintro _ ⟨⟩
  refine ⟨fun _ => .more rfl (Nat.zero_le _) nofun (.found hpong rfl trivial), ?_⟩
  rintro _ ⟨⟩
  exact ⟨fun _ => .more rfl (by decide) nofun (.found hreply rfl trivial), trivial⟩

def pushFrame : Bytes := [0x3E, 0x31, 13, 10, 0x2B, 0x78, 13, 10]

def replyA : Bytes := [0x2B, 0x61, 13, 10]

def replyB : Bytes := [0x2B, 0x62, 13, 10]

def pushedUses : List (Use Unit) :=
  [⟨.executeRaw ["GET", "a"], [.done], [.data (pushFrame ++ replyA)]⟩,
    ⟨.executeRaw ["GET", "b"], [.done], [.data replyB]⟩]

def pushedValue : RespValue := .push [.simpleString "x"]

theorem push_shifts_replies :
    (after (use sampleLibrary) sampleSession pushedUses).map
        (fun t => (t.connection.isValid, t.sent, t.received, t.connection.buffer.bytes, t.incoming)) =
      [(true, [["GET", "a"]], [pushedValue], replyA, []),
        (true, [["GET", "a"], ["GET", "b"]], [pushedValue, .simpleString "a"], [], [.data replyB])] ∧
      ∀ t ∈ after (use sampleLibrary) sampleSession pushedUses, ¬ t.Trusted sampleLibrary := by
  have hafter : after (use sampleLibrary) sampleSession pushedUses =
      [⟨⟨⟨replyA, pushFrame⟩, false, true, some 30⟩, [], [], [["GET", "a"]], [pushedValue]⟩,
        ⟨⟨⟨[], pushFrame ++ replyA⟩, false, true, some 30⟩, [.data replyB], [], [["GET", "a"], ["GET", "b"]],
          [pushedValue, .simpleString "a"]⟩] := by
    rfl
  rw [hafter]
  refine ⟨rfl, ?_⟩
  simp only [forall_mem_cons, not_mem_nil, false_implies, implies_true, and_true]
  refine ⟨?_, ?_⟩
  all_goals
    rintro (hvalid | hpaired)
    · cases hvalid
    · exact not_pairs_of_push (mem_cons_self ..) rfl hpaired

end Voyager.Redis
