import CallReplay.Http.Exchange
import CallReplay.Proofs.ArtifactId
import CallReplay.Proofs.Lists
import CallReplay.Proofs.Text.Split

/-!
# Requests that name a session or an artifact

The ids of sessions and artifacts are written without any character that means something in a
target. So the server reads them back from a path, and a request for what has an id is
answered with that.
-/

namespace CallReplay

open Text (idChars)

namespace SessionId

variable {id other : SessionId}

/-- Groups of digits put together are the digits, as far as the groups take them. -/
lemma flatten_groups (ns : List Nat) (digits : List Char) :
    (groups ns digits).flatten = digits.take ns.sum := by
  induction ns generalizing digits with
  | nil => rfl
  | cons n ns ih => rw [groups, List.flatten_cons, ih, List.sum_cons, List.take_add]

/-- Groups are as long as they are meant to be if there are enough digits. -/
lemma length_groups {ns : List Nat} {digits : List Char} (h : ns.sum ≤ digits.length) :
    (groups ns digits).map List.length = ns := by
  induction ns generalizing digits with
  | nil => rfl
  | cons n ns ih =>
    rw [List.sum_cons] at h
    have rest : ns.sum ≤ (digits.drop n).length := by
      rw [List.length_drop]
      omega
    rw [groups, List.map_cons, ih rest, List.length_take, Nat.min_eq_left (by omega)]

/-- The groups of digits that an id is written with. -/
def digitGroups (id : SessionId) : List (List Char) :=
  groups groupLengths (Text.hexOfNat 32 id.value.toNat).toList

/-- The groups of an id put together are its digits. -/
lemma flatten_digitGroups (id : SessionId) :
    id.digitGroups.flatten = (Text.hexOfNat 32 id.value.toNat).toList := by
  rw [digitGroups, flatten_groups]
  exact List.take_of_length_le (Text.length_hexOfNat _ _).le

/-- An id is written as its groups with hyphens between them. -/
lemma toList_text (id : SessionId) : id.text.toList = ['-'].intercalate id.digitGroups := by
  have chars : (String.toList ∘ String.ofList) = fun cs => cs := by
    funext cs
    exact String.toList_ofList
  rw [text, String.toList_intercalate, List.map_map, chars, List.map_id']
  rfl

/-- The groups of an id have hexadecimal digits only. -/
lemma hexDigit_of_mem_digitGroups {g : List Char} {c : Char} (hg : g ∈ id.digitGroups)
    (hc : c ∈ g) :
    ∃ d < 16, Text.hexDigit d = c := by
  apply Text.hexDigit_of_mem_hexOfNat
  rw [← flatten_digitGroups]
  exact List.mem_flatten_of_mem hg hc

/-- An id is written with characters that ids are written with. -/
lemma mem_idChars_of_text {c : Char} (h : c ∈ id.text.toList) : c ∈ idChars := by
  rw [toList_text] at h
  rcases mem_of_mem_intercalate h with rfl | ⟨g, hg, hc⟩
  · decide
  · obtain ⟨d, hd, rfl⟩ := hexDigit_of_mem_digitGroups hg hc
    exact Text.hexDigit_mem_idChars hd

/-- An id is written with 36 characters. -/
lemma length_text (id : SessionId) : id.text.toList.length = 36 := by
  rw [toList_text, digitGroups]
  simp [groups, groupLengths, List.intercalate]

/-- An id is read back from its text. -/
theorem parse?_text (id : SessionId) : parse? id.text = some id := by
  have groups : Text.parts '-' id.text.toList = id.digitGroups := by
    rw [toList_text]
    refine Text.parts_intercalate (List.cons_ne_nil _ _) fun g hg hyphen => ?_
    obtain ⟨d, hd, h⟩ := hexDigit_of_mem_digitGroups hg hyphen
    exact Text.hexDigit_ne_hyphen hd h
  have lengths : id.digitGroups.map List.length = groupLengths :=
    length_groups (Text.length_hexOfNat _ _).ge
  have lower : id.text.toList.map Char.toLower = id.text.toList := by
    have same : ∀ c ∈ idChars, c.toLower = c := by simp [idChars, Char.toLower]
    rw [List.map_congr_left fun c hc => same c (mem_idChars_of_text hc), List.map_id']
  have digits : ofDigits? (Text.hexOfNat 32 id.value.toNat).toList = some id := by
    rw [ofDigits?, if_pos (Text.length_hexOfNat _ _), Text.natOfHex?_hexOfNat]
    have small : id.value.toNat < 16 ^ 32 := id.value.isLt
    rw [Nat.mod_eq_of_lt small, Option.map_some, BitVec.ofNat_toNat, BitVec.setWidth_eq]
  have hyphenated : ofHyphenated? id.text.toList = some id := by
    rw [ofHyphenated?, groups, if_pos lengths, flatten_digitGroups, digits]
  have bare : ofDigits? id.text.toList = none := by
    rw [ofDigits?, length_text, if_neg (by decide)]
  rw [parse?, lower, bare, hyphenated]
  rfl

/-- Different sessions have different written ids. -/
lemma text_injective : Function.Injective text := by
  intro a b h
  have ha := parse?_text a
  rw [h, parse?_text b] at ha
  exact (Option.some.inj ha).symm

end SessionId

namespace Text.Percent

/-- Bytes without a percent sign stand for themselves. -/
lemma decode_of_notMem : ∀ {bytes : List UInt8}, sign ∉ bytes → decode bytes = bytes
  | [], _ | [_], _ | [_, _], _ => rfl
  | b :: high :: low :: rest, h => by
    rw [List.mem_cons, not_or] at h
    rw [decode, if_neg (Ne.symm h.1), decode_of_notMem h.2]

/-- A part of a path that is the text of an id stands for itself. -/
lemma text?_of_idChars {part : List Char} (h : ∀ c ∈ part, c ∈ idChars) :
    text? part = some (String.ofList part) := by
  have plain : sign ∉ Utf8.encode (String.ofList part) := by
    have bytes : ∀ c ∈ idChars, sign ∉ String.utf8EncodeChar c := by
      simp [idChars, String.utf8EncodeChar, sign]
    rw [Utf8.encode, String.toList_ofList, List.mem_flatMap]
    rintro ⟨c, hc, hsign⟩
    exact bytes c (h c hc) hsign
  rw [text?, decode_of_notMem plain, Utf8.decode_encode]
  rfl

end Text.Percent

namespace Http

variable {r : Request} {id : SessionId} {part : List Char}

/-- A target that begins with a slash and has neither a query nor a fragment is a path. -/
lemma pathAndQuery_of_path {path : List Char} (htarget : r.target.toList = '/' :: path)
    (hplain : ∀ c ∈ path, c ≠ '#' ∧ c ≠ '?') : r.pathAndQuery = ('/' :: path, []) := by
  have authority : afterAuthority ('/' :: path) = '/' :: path := rfl
  have whole : ('/' :: path).takeWhile (· ≠ '#') = '/' :: path := by
    rw [List.takeWhile_eq_self_iff, List.forall_mem_cons]
    exact ⟨by decide, fun c hc => decide_eq_true (hplain c hc).1⟩
  have cut : ∀ c ∈ '/' :: path, decide (c ≠ '?') = true := by
    rw [List.forall_mem_cons]
    exact ⟨by decide, fun c hc => decide_eq_true (hplain c hc).2⟩
  rw [Request.pathAndQuery, htarget, authority, whole, List.span_eq_takeWhile_dropWhile,
    List.takeWhile_eq_self_iff.mpr cut, List.dropWhile_eq_nil_iff.mpr cut]
  rfl

/-- A part of a path that is written like an id has none of the characters that end one. -/
lemma plain_of_idChars (h : ∀ c ∈ part, c ∈ idChars) : ∀ c ∈ part, c ≠ '#' ∧ c ≠ '?' ∧ c ≠ '/' := by
  have plain : ∀ c ∈ idChars, c ≠ '#' ∧ c ≠ '?' ∧ c ≠ '/' := by simp [idChars]
  exact fun c hc => plain c (h c hc)

/-- The id of a session is read from a path. -/
lemma readSessionId_text (id : SessionId) : readSessionId id.text.toList = .ok id := by
  rw [readSessionId, Text.Percent.text?_of_idChars fun c => SessionId.mem_idChars_of_text]
  simp [SessionId.parse?_text]

/-- The request for an artifact. -/
def Request.artifact (id : ArtifactId) : Request := ⟨"GET", "/artifacts/" ++ id.text, none, []⟩

/-- The request for an open session. -/
def Request.session (id : SessionId) : Request := ⟨"GET", "/sessions/" ++ id.text, none, []⟩

/-- The request for the open sessions. -/
def Request.sessions : Request := ⟨"GET", "/sessions", none, []⟩

/-- The request that posts a record to a session. -/
def Request.record (id : SessionId) (body : List UInt8) : Request :=
  ⟨"POST", "/sessions/" ++ id.text ++ "/records", none, body⟩

/-- A path that ends in the text of an id is cut before it. -/
lemma pathAndQuery_of_id {name : List Char}
    (htarget : r.target.toList = '/' :: (name ++ '/' :: part))
    (hname : ∀ c ∈ name, c ≠ '#' ∧ c ≠ '?' ∧ c ≠ '/') (hpart : ∀ c ∈ part, c ∈ idChars) :
    r.pathAndQuery = ('/' :: (name ++ '/' :: part), []) ∧
      Text.parts '/' ('/' :: (name ++ '/' :: part)) = [[], name, part] := by
  have hplain := plain_of_idChars hpart
  constructor
  · refine pathAndQuery_of_path htarget fun c hc => ?_
    rw [List.mem_append, List.mem_cons] at hc
    rcases hc with hc | rfl | hc
    · exact ⟨(hname c hc).1, (hname c hc).2.1⟩
    · decide
    · exact ⟨(hplain c hc).1, (hplain c hc).2.1⟩
  · have first : Text.parts '/' ([] ++ '/' :: (name ++ '/' :: part)) =
        [] :: Text.parts '/' (name ++ '/' :: part) :=
      Text.parts_append List.not_mem_nil _
    have second := Text.parts_append (fun h => (hname _ h).2.2 rfl) part
    have third := Text.parts_of_notMem fun h => (hplain _ h).2.2 rfl
    rw [second, third] at first
    exact first

/-- What a request asks for with a method. -/
def Request.operation? (r : Request) (method : String) : Option Operation :=
  (Resource.ofPath? r.pathAndQuery.1).bind fun resource => resource.operation? method

/-- The server and the response after an operation, which leaves the server as it is if
it is refused. -/
def settle (s : Server) : Except Status (Server × Response) → Server × Response
  | .ok answer => answer
  | .error status => (s, .bare status)

/-- A request with an operation is answered by it. -/
lemma respondTo_of_some {method : String} {operation : Operation}
    (h : r.operation? method = some operation) (s : Server) (fresh : SessionId) :
    respondTo s fresh method r = settle s (perform s fresh r.pathAndQuery.2 r operation) := by
  obtain ⟨resource, hresource, hoperation⟩ := Option.bind_eq_some_iff.mp h
  rw [respondTo]
  simp only [hresource, hoperation]
  rfl

/-- A `GET` with an operation is answered by it. -/
lemma respond_of_get {operation : Operation} (hmethod : r.method = "GET")
    (h : r.operation? "GET" = some operation) (s : Server) (fresh : SessionId) :
    respond s fresh r = settle s (perform s fresh r.pathAndQuery.2 r operation) := by
  have notOptions : ¬r.method = "OPTIONS" := by simp [hmethod]
  have notHead : ¬r.method = "HEAD" := by simp [hmethod]
  rw [respond, if_neg notOptions, if_neg notHead, hmethod, respondTo_of_some h]

/-- The path of an artifact shows the artifact. -/
theorem respond_artifact (s : Server) (fresh : SessionId) {id : ArtifactId}
    (hne : id.text.toList ≠ []) (hid : ∀ c ∈ id.text.toList, c ∈ idChars) :
    respond s fresh (.artifact id) = (s, .ofResult Json.ofStoredArtifact (s.artifact id)) := by
  have hname : ∀ c ∈ "artifacts".toList, c ≠ '#' ∧ c ≠ '?' ∧ c ≠ '/' := by simp
  have target : (Request.artifact id).target.toList =
      '/' :: ("artifacts".toList ++ '/' :: id.text.toList) :=
    String.toList_append ..
  obtain ⟨htarget, hparts⟩ := pathAndQuery_of_id target hname hid
  have operation : (Request.artifact id).operation? "GET" =
      some (.showArtifact id.text.toList) := by
    have other : ¬"artifacts".toList = "sessions".toList := by simp
    rw [Request.operation?, htarget, Resource.ofPath?, hparts]
    simp only [List.isEmpty_eq_false_iff.mpr hne, Bool.false_eq_true, if_false, if_neg other,
      if_true]
    rfl
  have read : readArtifactId id.text.toList = .ok id := by
    rw [readArtifactId, Text.Percent.text?_of_idChars hid, String.ofList_toList]
  rw [respond_of_get rfl operation, perform, read]
  rfl

/-- The path of a session shows the session. -/
theorem respond_session (s : Server) (fresh id : SessionId) :
    respond s fresh (.session id) = (s, .ofResult Json.ofSession (s.session id)) := by
  have hname : ∀ c ∈ "sessions".toList, c ≠ '#' ∧ c ≠ '?' ∧ c ≠ '/' := by simp
  have target : (Request.session id).target.toList =
      '/' :: ("sessions".toList ++ '/' :: id.text.toList) :=
    String.toList_append ..
  obtain ⟨htarget, hparts⟩ := pathAndQuery_of_id target hname fun c => SessionId.mem_idChars_of_text
  have hne : id.text.toList ≠ [] := by
    rw [← List.length_pos_iff, SessionId.length_text]
    decide
  have operation : (Request.session id).operation? "GET" = some (.showSession id.text.toList) := by
    rw [Request.operation?, htarget, Resource.ofPath?, hparts]
    simp only [List.isEmpty_eq_false_iff.mpr hne, Bool.false_eq_true, if_false, if_true]
    rfl
  rw [respond_of_get rfl operation, perform, readSessionId_text]
  rfl

/-- The path of all sessions lists them. -/
theorem respond_sessions (s : Server) (fresh : SessionId) :
    respond s fresh .sessions = (s, .json (Json.ofSessions s.registry.sessions)) := by
  have operation : Request.sessions.operation? "GET" = some .listSessions := by decide
  rw [respond_of_get rfl operation, perform]
  rfl

end Http

end CallReplay
