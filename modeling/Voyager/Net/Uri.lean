import Voyager.Lib.PrefixFree
import Voyager.Postgres.Handshake
import Voyager.Builder.Labels

/-! Connection URIs and the credentials in them. -/

namespace Voyager.Net

open Lib List

inductive DatabaseProtocol
  | bolt | postgres | redis | duckDb

def DatabaseProtocol.defaultPort : DatabaseProtocol → Option ℕ
  | bolt => some 7687
  | postgres => some 5432
  | redis => some 6379
  | duckDb => none

inductive TlsMode
  | disabled | required | selfSigned

structure ParsedUri where
  protocol : DatabaseProtocol
  host : String
  port : Option ℕ
  auth : Postgres.Auth
  database : Option String
  tls : TlsMode
  params : List (String × String)
  backendHint : Option String
  raw : String

/-- What the `url` crate makes of a text. -/
structure Url where
  scheme : String
  hostStr : Option String
  port : Option ℕ
  username : String
  password : Option String
  path : String
  queryPairs : List (String × String)

def schemes : List (List String × DatabaseProtocol × TlsMode) :=
  [(["bolt", "neo4j", "memgraph"], .bolt, .disabled), (["bolt+s", "neo4j+s", "memgraph+s"], .bolt, .required),
    (["bolt+ssc", "neo4j+ssc", "memgraph+ssc"], .bolt, .selfSigned),
    (["postgresql", "postgres", "age"], .postgres, .disabled),
    (["postgresql+s", "postgres+s", "age+s"], .postgres, .required),
    (["redis", "falkordb", "valkey"], .redis, .disabled), (["rediss", "falkordbs", "valkeys"], .redis, .required),
    (["duckdb"], .duckDb, .disabled)]

def backends : List (String × Option String) :=
  [("voyager+native", some "native"), ("voyager+bridge", some "bridge"), ("voyager", none), ("vn", some "native"),
    ("voyager-net", some "native")]

def strip (start text : String) : Option String :=
  if start.toList.isPrefixOf text.toList then some (.ofList (text.toList.drop start.length)) else none

section

variable (unicode : Unicode) (urlParse : String → Except String Url)

def resolveTls (default : TlsMode) (get : String → Option String) : TlsMode :=
  match get "ssl" <|> get "tls", get "sslmode" with
  | some ssl, _ =>
    match unicode.toLowercase ssl with
    | "true" | "1" | "require" | "required" => .required
    | "self-signed" | "ssc" | "allow_invalid" | "insecure" => .selfSigned
    | "false" | "0" | "disable" | "disabled" => .disabled
    | _ => default
  | none, some sslmode =>
    match unicode.toLowercase sslmode with
    | "require" | "verify-ca" | "verify-full" | "prefer" | "allow" => .required
    | "disable" => .disabled
    | _ => default
  | none, none => default

def fromUrl (raw : String) (backendHint : Option String) (parsed : Url) : Except NetError ParsedUri :=
  let scheme := unicode.toLowercase parsed.scheme
  match schemes.find? fun row => scheme ∈ row.1 with
  | none => .error (.invalidUri (s!"Unsupported database URI scheme '{scheme}'. Supported schemes: bolt://, neo4j://, " ++
      "memgraph://, postgresql://, age://, redis://, falkordb://, valkey://, duckdb://"))
  | some (_, protocol, defaultTls) =>
    let get key := parsed.queryPairs.reverse.lookup key
    let path := parsed.path.toList.dropWhile (· = '/')
    .ok {
      protocol
      host := parsed.hostStr.getD "localhost"
      port := parsed.port <|> protocol.defaultPort
      auth := if parsed.username ≠ "" ∨ parsed.password.isSome then
        .basic parsed.username (parsed.password.getD "") none else .none
      database := ((get "database" <|> get "graph").filter (· ≠ "")) <|>
        if path = [] then none else some (.ofList path)
      tls := resolveTls unicode defaultTls get
      params := parsed.queryPairs
      backendHint
      raw }

def ParsedUri.parse (rawUri : String) : Except NetError ParsedUri :=
  let raw := unicode.trim rawUri
  if raw = "" then .error (.invalidUri "Connection URI cannot be empty")
  else
    let hinted := backends.findSome? fun b => (strip (b.1 ++ ":") raw).map fun rest => (b.2, unicode.trim rest)
    let backendHint := hinted.bind Prod.fst
    let trimmed := (hinted.map Prod.snd).getD raw
    if trimmed = "duckdb" ∨ (strip "duckdb://" trimmed).isSome then
      let path := (strip "duckdb://" trimmed).getD ""
      .ok ⟨.duckDb, "localhost", none, .none, if path = "" ∨ path = ":memory:" then none else some path, .disabled, [],
        backendHint, raw⟩
    else
      match urlParse trimmed with
      | .error e => .error (.invalidUri s!"Malformed URI '{trimmed}': {e}")
      | .ok parsed => fromUrl unicode raw backendHint parsed

end

def isUnreserved (c : Char) : Bool := c.isAlphanum || c ∈ ['-', '.', '_', '~']

def percentEncode (s : String) : String :=
  .ofList (s.toList.flatMap fun c => if isUnreserved c then [c] else (String.utf8EncodeChar c).flatMap fun b =>
    ['%', (b.toNat / 16).digitChar.toUpper, (b.toNat % 16).digitChar.toUpper])

lemma head_percentEncode {s : String} (h : s ≠ "") : ∃ c cs, (percentEncode s).toList = c :: cs ∧ c ≠ '/' := by
  obtain ⟨c, cs, hs⟩ := exists_cons_of_ne_nil fun hnil => h (String.toList_eq_nil_iff.mp hnil)
  rw [percentEncode, String.toList_ofList, hs, flatMap_cons]
  split_ifs with hc
  · exact ⟨c, _, rfl, by rintro rfl; cases hc⟩
  · have hbytes : 0 < (String.utf8EncodeChar c).length := by
      rw [String.length_utf8EncodeChar]
      exact c.utf8Size_pos
    obtain ⟨b, bs, hb⟩ := exists_cons_of_length_pos hbytes
    exact ⟨'%', _, by rw [hb]; rfl, by decide⟩

def credentialUri (scheme host u w d : String) : String :=
  scheme ++ "://" ++ percentEncode u ++ ":" ++ percentEncode w ++ "@" ++ host ++ "/" ++ percentEncode d

def credentialUrl (scheme host u w d : String) : Url :=
  ⟨scheme, some host, none, percentEncode u, some (percentEncode w), "/" ++ percentEncode d, []⟩

lemma trim_eq {unicode : Unicode} {s : String} (h : ∀ c ∈ s.toList, unicode.isWhitespace c = false) :
    unicode.trim s = s := by
  have hkeep : ∀ l : List Char, (∀ c ∈ l, unicode.isWhitespace c = false) → l.dropWhile unicode.isWhitespace = l := by
    intro l hl
    cases l with
    | nil => rfl
    | cons c l => rw [dropWhile_cons_of_neg (by simp [hl c])]
  rw [Unicode.trim, hkeep _ h, hkeep _ fun c hc => h c (mem_reverse.mp hc), reverse_reverse, String.ofList_toList]

lemma strip_eq_none {scheme text : String} {rest : List Char} (htext : text.toList = scheme.toList ++ ':' :: rest)
    (hscheme : ':' ∉ scheme.toList) (name tail : String) (hname : ':' ∉ name.toList) (hne : name ≠ scheme) :
    strip (name ++ ":" ++ tail) text = none := by
  refine if_neg fun h => hne ?_
  obtain ⟨t, ht⟩ := isPrefixOf_iff_prefix.mp h
  rw [htext, String.toList_append, String.toList_append, append_assoc, append_assoc] at ht
  have hstops : ∀ rest, Stops (· != ':') (':' :: rest) := stops_cons rfl
  have hchars : ∀ {s : String}, ':' ∉ s.toList → ∀ c ∈ s.toList, (c != ':') = true := by
    intro s hs c hc
    exact bne_iff_ne.mpr (ne_of_mem_of_not_mem hc hs)
  exact String.toList_inj.mp (append_inj_of_stops (hchars hname) (hchars hscheme) (hstops _) (hstops _) ht).1

theorem parse_credentials (unicode : Unicode) (urlParse : String → Except String Url) (scheme host u w d : String)
    (hspace : ∀ c ∈ (credentialUri scheme host u w d).toList, unicode.isWhitespace c = false)
    (hlower : unicode.toLowercase scheme = scheme) (hscheme : scheme ∈ schemes.flatMap Prod.fst)
    (hduck : scheme ≠ "duckdb") (hd : d ≠ "")
    (hurl : urlParse (credentialUri scheme host u w d) = .ok (credentialUrl scheme host u w d)) :
    ∃ uri, ParsedUri.parse unicode urlParse (credentialUri scheme host u w d) = .ok uri ∧
      (uri.auth = .basic u w none ∧ uri.database = some d ↔
        percentEncode u = u ∧ percentEncode w = w ∧ percentEncode d = d) := by
  have hknown : (schemes.flatMap Prod.fst).all (fun s => !s.toList.contains ':' &&
      backends.all fun b => !b.1.toList.contains ':' && b.1 != s) = true := by decide
  simp only [all_eq_true, Bool.and_eq_true, Bool.not_eq_true', contains_eq_mem, decide_eq_false_iff_not, bne_iff_ne]
    at hknown
  obtain ⟨hcolon, hbackends⟩ := hknown scheme hscheme
  obtain ⟨rest, htext⟩ : ∃ rest, (credentialUri scheme host u w d).toList = scheme.toList ++ ':' :: rest := by
    simp [credentialUri]
  have hstrip := strip_eq_none htext hcolon
  have hnone : (backends.findSome? fun b => (strip (b.1 ++ ":") (credentialUri scheme host u w d)).map fun rest =>
      (b.2, unicode.trim rest)) = none := by
    refine findSome?_eq_none_iff.mpr fun b hb => ?_
    have hb := hstrip b.1 "" (hbackends b hb).1 (hbackends b hb).2
    rw [String.append_empty] at hb
    rw [hb]
    rfl
  have hduckdb : strip "duckdb://" (credentialUri scheme host u w d) = none := hstrip "duckdb" "//" (by decide) hduck.symm
  have hne : ∀ text : String, ':' ∉ text.toList → credentialUri scheme host u w d ≠ text := by
    rintro _ htext' rfl
    simp [htext] at htext'
  obtain ⟨c, cs, hencoded, hslash⟩ := head_percentEncode hd
  obtain ⟨row, hrow⟩ : ∃ row, (schemes.find? fun row => scheme ∈ row.1) = some row := by
    rw [← Option.isSome_iff_exists, find?_isSome]
    simpa using hscheme
  have hjoin : String.ofList (c :: cs) = percentEncode d := by rw [← hencoded, String.ofList_toList]
  have hfrom : ParsedUri.parse unicode urlParse (credentialUri scheme host u w d) =
      fromUrl unicode (credentialUri scheme host u w d) none (credentialUrl scheme host u w d) := by
    simp [ParsedUri.parse, trim_eq hspace, hnone, hduckdb, hurl, hne "" (by decide), hne "duckdb" (by decide)]
  rw [hfrom]
  refine ⟨_, by simp only [fromUrl, credentialUrl, hlower, hrow]; rfl, ?_⟩
  simp [hslash, and_assoc, ← hjoin]

def lowerCase : Unicode := { Unicode.ascii with toLowercase := id }

theorem parse_credentials_plain : ∃ uri,
    ParsedUri.parse lowerCase (fun _ => .ok (credentialUrl "bolt" "db" "ann" "pw" "g")) "bolt://ann:pw@db/g" = .ok uri ∧
      uri.auth = .basic "ann" "pw" none ∧ uri.database = some "g" := by
  have hspace : "bolt://ann:pw@db/g".toList.all (fun c => !lowerCase.isWhitespace c) = true := by decide
  obtain ⟨uri, hparse, hiff⟩ := parse_credentials lowerCase (fun _ => .ok (credentialUrl "bolt" "db" "ann" "pw" "g"))
    "bolt" "db" "ann" "pw" "g" (fun c hc => by simpa using all_eq_true.mp hspace c hc) rfl (by decide) (by decide)
    (by decide) rfl
  exact ⟨uri, hparse, hiff.mpr (by decide)⟩

theorem parse_credentials_encoded :
    (ParsedUri.parse lowerCase (fun _ => .ok (credentialUrl "bolt" "db" "ann" "p@ss" "g")) "bolt://ann:p%40ss@db/g").map
      ParsedUri.auth = .ok (.basic "ann" "p%40ss" none) := by
  rfl

end Voyager.Net
