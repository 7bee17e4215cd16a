import MatrixGoose.Matrix.HttpClient.RequestName

/-!
# Report names of the scenario endpoints

The requests that the load scripts send, as URLs over a common prefix, and the
names they get in the report.  Path arguments are percent-encoded, so that an
identifier or a transaction id has neither a slash nor a question mark; the
sigils themselves may stand anywhere in it.
-/

namespace MatrixGoose
namespace HttpClient

open Foundation

structure Identifier (sigil : Char) where
  rest : List Char
  noSlash : '/' ∉ rest
  noQuery : '?' ∉ rest

def Identifier.text {sigil : Char} (id : Identifier sigil) : List Char :=
  sigil :: id.rest

structure TransactionId where
  text : List Char
  noSlash : '/' ∉ text
  noQuery : '?' ∉ text

/-- The part of a URL in front of the endpoint.  The last two fields keep the
slash behind the prefix from completing one of the two blocks. -/
structure UrlPrefix where
  text : List Char
  noQuery : '?' ∉ text
  noRoomSigil : '!' ∉ text
  noUserSigil : '@' ∉ text
  noEventSigil : '$' ∉ text
  noRoomMessage : ¬ roomMessageCore ++ ['/'] <:+: text
  noReaction : ¬ reactionCore ++ ['/'] <:+: text
  notRoomMessageEnd : ¬ roomMessageCore <:+ text
  notReactionEnd : ¬ reactionCore <:+ text

/-- The requests of the load scripts whose names the report groups. -/
inductive ScenarioRequest
  | typing (room : Identifier '!') (user : Identifier '@')
  | readReceipt (room : Identifier '!') (event : Identifier '$')
  | sendMessage (room : Identifier '!') (txn : TransactionId)
  | sendReaction (room : Identifier '!') (txn : TransactionId)
  | messages (room : Identifier '!')
  | join (room : Identifier '!')
  | displayname (user : Identifier '@')
  | sync

namespace ScenarioRequest

def segments : ScenarioRequest -> List (List Char)
  | typing r u => ["rooms".toList, r.text, "typing".toList, u.text]
  | readReceipt r e =>
      ["rooms".toList, r.text, "receipt".toList, "m.read".toList, e.text]
  | sendMessage r t => ["rooms".toList, r.text, "send".toList, roomMessageCore, t.text]
  | sendReaction r t => ["rooms".toList, r.text, "send".toList, reactionCore, t.text]
  | messages r => ["rooms".toList, r.text, "messages".toList]
  | join r => ["rooms".toList, r.text, "join".toList]
  | displayname u => ["profile".toList, u.text, "displayname".toList]
  | sync => ["sync".toList]

def url (pre : List Char) (request : ScenarioRequest)
    (query : Option (List Char)) : List Char :=
  pre ++ '/' :: ['/'].intercalate request.segments ++
    match query with
    | some q => '?' :: q
    | none => []

def reported : ScenarioRequest -> List Char
  | typing _ _ => "/rooms/_/typing/_".toList
  | readReceipt _ _ => "/rooms/_/receipt/m.read/_".toList
  | sendMessage _ _ => "/rooms/_/send/m.room.message/_".toList
  | sendReaction _ _ => "/rooms/_/send/m.reaction/_".toList
  | messages _ => "/rooms/_/messages".toList
  | join _ => "/rooms/_/join".toList
  | displayname _ => "/profile/_/displayname".toList
  | sync => "/sync".toList

end ScenarioRequest

/-!
# Segments in front of the endpoint

A prefix without sigils and without a segment that ends in one of the cores is
left alone by every rewrite.
-/

theorem maskFirst_append {sigil : Char} {pre : List (List Char)}
    (tail : List (List Char)) (h : forall seg, seg ∈ pre -> sigil ∉ seg) :
    maskFirst sigil (pre ++ tail) = pre ++ maskFirst sigil tail := by
  induction pre with
  | nil => rfl
  | cons seg rest ih =>
      rw [List.cons_append, maskFirst,
        if_neg (h seg (List.mem_cons_self ..)),
        ih (fun other hother => h other (List.mem_cons_of_mem seg hother))]
      rfl

theorem cutAfter_append {core : List Char} {pre tail : List (List Char)}
    (htail : tail ≠ []) (h : forall seg, seg ∈ pre -> ¬ core <:+ seg) :
    cutAfter core (pre ++ tail) = pre ++ cutAfter core tail := by
  induction pre with
  | nil => rfl
  | cons seg rest ih =>
      have hseg : ¬ core <:+ seg := h seg (List.mem_cons_self ..)
      have hrest := ih (fun other hother =>
        h other (List.mem_cons_of_mem seg hother))
      cases hEq : rest ++ tail with
      | nil => exact absurd (List.append_eq_nil_iff.mp hEq).2 htail
      | cons next others =>
          rw [List.cons_append, hEq, cutAfter, if_neg hseg, ← hEq, hrest]
          rfl

namespace UrlPrefix

variable (P : UrlPrefix)

theorem notMem_segment {c : Char} {seg : List Char} (hc : c ∉ P.text)
    (hseg : seg ∈ P.text.splitOn '/') : c ∉ seg := by
  intro hmem
  have hblock : seg <:+: ['/'].intercalate (P.text.splitOn '/') :=
    Segments.infix_of_mem hseg
  rw [List.intercalate_splitOn] at hblock
  exact hc (hblock.mem hmem)

theorem notSuffix_segment {core seg : List Char}
    (hblock : ¬ core ++ ['/'] <:+: P.text) (hend : ¬ core <:+ P.text)
    (hseg : seg ∈ P.text.splitOn '/') : ¬ core <:+ seg := by
  intro hsuffix
  have hcases := Segments.suffix_or_infix_of_mem '/' hseg hsuffix
  rw [List.intercalate_splitOn] at hcases
  rcases hcases with h | h
  · exact hend h
  · exact hblock h

theorem nameSegments_append {tail : List (List Char)} (htail : tail ≠ []) :
    nameSegments (P.text.splitOn '/' ++ tail) =
      P.text.splitOn '/' ++ nameSegments tail := by
  have hbang := maskFirst_ne_nil '!' htail
  have hat := maskFirst_ne_nil '@' hbang
  have hdollar := maskFirst_ne_nil '$' hat
  unfold nameSegments
  rw [maskFirst_append _ (fun _ => P.notMem_segment P.noRoomSigil),
    maskFirst_append _ (fun _ => P.notMem_segment P.noUserSigil),
    maskFirst_append _ (fun _ => P.notMem_segment P.noEventSigil),
    cutAfter_append hdollar (fun _ =>
      P.notSuffix_segment P.noRoomMessage P.notRoomMessageEnd),
    cutAfter_append (cutAfter_ne_nil hdollar) (fun _ =>
      P.notSuffix_segment P.noReaction P.notReactionEnd)]

theorem requestName_over {tail : List (List Char)} {url : List Char}
    (htail : tail ≠ []) (hslash : forall seg, seg ∈ tail -> '/' ∉ seg)
    (hurl : truncateQuery url = P.text ++ '/' :: ['/'].intercalate tail) :
    requestName url =
      P.text ++ '/' :: ['/'].intercalate (nameSegments tail) := by
  have hname : nameSegments tail ≠ [] := nameSegments_ne_nil htail
  have hsplit : P.text.splitOn '/' ≠ [] := List.splitOn_ne_nil '/' P.text
  have hurl' : truncateQuery url =
      ['/'].intercalate (P.text.splitOn '/' ++ tail) := by
    rw [hurl, Segments.intercalate_append hsplit htail, List.intercalate_splitOn]
  have hsegs : forall seg, seg ∈ P.text.splitOn '/' ++ tail -> '/' ∉ seg := by
    intro seg hseg
    rcases List.mem_append.mp hseg with hpre | htail'
    · exact Segments.sep_notMem_of_mem_splitOn hpre
    · exact hslash seg htail'
  rw [requestName_intercalate hurl' hsegs, P.nameSegments_append htail,
    Segments.intercalate_append hsplit hname, List.intercalate_splitOn]

end UrlPrefix

/-!
# The endpoints
-/

theorem maskFirst_cons_of_notMem {sigil : Char} {seg : List Char}
    (rest : List (List Char)) (h : sigil ∉ seg) :
    maskFirst sigil (seg :: rest) = seg :: maskFirst sigil rest := by
  rw [maskFirst, if_neg h]

@[simp] theorem maskFirst_nil (sigil : Char) : maskFirst sigil [] = [] := rfl

theorem cutAfter_singleton (core seg : List Char) :
    cutAfter core [seg] = [seg] := rfl

theorem cutAfter_cons_of_notSuffix {core seg : List Char} (next : List Char)
    (rest : List (List Char)) (h : ¬ core <:+ seg) :
    cutAfter core (seg :: next :: rest) =
      seg :: cutAfter core (next :: rest) := by
  rw [cutAfter, if_neg h]

theorem cutAfter_core (core next : List Char) (rest : List (List Char)) :
    cutAfter core (core :: next :: rest) = [core, ['_']] := by
  rw [cutAfter, if_pos List.suffix_rfl]

theorem maskFirst_own (sigil : Char) (tail : List Char)
    (rest : List (List Char)) :
    maskFirst sigil ((sigil :: tail) :: rest) = ['_'] :: rest := by
  simp [maskFirst]

theorem maskFirst_identifier {sigil : Char} (id : Identifier sigil)
    (rest : List (List Char)) :
    maskFirst sigil (id.text :: rest) = ['_'] :: rest :=
  maskFirst_own sigil id.rest rest

/-- Masking another sigil leaves an identifier or cuts it behind its own, and
in both cases its own sigil still starts the segment. -/
theorem maskFirst_otherIdentifier (sigil : Char) {own : Char} (id : Identifier own)
    (rest : List (List Char)) (h : sigil ≠ own) :
    exists tail others, maskFirst sigil (id.text :: rest) =
        (own :: tail) :: others ∧
      (others = rest ∨ others = maskFirst sigil rest) := by
  by_cases hmem : sigil ∈ id.text
  · refine ⟨id.rest.takeWhile (· ≠ sigil) ++ ['_'], rest, ?_, Or.inl rfl⟩
    rw [maskFirst, if_pos hmem]
    simp [Identifier.text, Ne.symm h]
  · refine ⟨id.rest, maskFirst sigil rest, ?_, Or.inr rfl⟩
    rw [maskFirst, if_neg hmem]
    rfl

theorem maskFirst_singleton (sigil : Char) (seg : List Char) :
    exists seg', maskFirst sigil [seg] = [seg'] := by
  rw [maskFirst]
  split
  · exact ⟨_, rfl⟩
  · exact ⟨seg, rfl⟩

theorem Identifier.delimiters_notMem {sigil : Char} (id : Identifier sigil)
    (h : sigil ≠ '/' ∧ sigil ≠ '?') : '/' ∉ id.text ∧ '?' ∉ id.text := by
  constructor
  · simp [Identifier.text, id.noSlash, Ne.symm h.1]
  · simp [Identifier.text, id.noQuery, Ne.symm h.2]

namespace ScenarioRequest

theorem segments_ne_nil (request : ScenarioRequest) :
    request.segments ≠ [] := by
  cases request <;> simp [segments]

theorem delimiters_notMem_segments (request : ScenarioRequest) :
    forall seg, seg ∈ request.segments -> '/' ∉ seg ∧ '?' ∉ seg := by
  have hroom : '!' ≠ '/' ∧ '!' ≠ '?' := by decide
  have huser : '@' ≠ '/' ∧ '@' ≠ '?' := by decide
  have hevent : '$' ≠ '/' ∧ '$' ≠ '?' := by decide
  cases request <;> simp only [segments, List.forall_mem_cons]
  case typing r u =>
    exact ⟨by simp, r.delimiters_notMem hroom, by simp,
      u.delimiters_notMem huser, by simp⟩
  case readReceipt r e =>
    exact ⟨by simp, r.delimiters_notMem hroom, by simp, by simp,
      e.delimiters_notMem hevent, by simp⟩
  case sendMessage r t =>
    exact ⟨by simp, r.delimiters_notMem hroom, by simp, by decide,
      ⟨t.noSlash, t.noQuery⟩, by simp⟩
  case sendReaction r t =>
    exact ⟨by simp, r.delimiters_notMem hroom, by simp, by decide,
      ⟨t.noSlash, t.noQuery⟩, by simp⟩
  case messages r =>
    exact ⟨by simp, r.delimiters_notMem hroom, by simp, by simp⟩
  case join r =>
    exact ⟨by simp, r.delimiters_notMem hroom, by simp, by simp⟩
  case displayname u =>
    exact ⟨by simp, u.delimiters_notMem huser, by simp, by simp⟩
  case sync =>
    exact ⟨by simp, by simp⟩

theorem truncateQuery_url (P : UrlPrefix) (request : ScenarioRequest)
    (query : Option (List Char)) :
    truncateQuery (request.url P.text query) =
      P.text ++ '/' :: ['/'].intercalate request.segments := by
  have hnot : '?' ∉ P.text ++ '/' :: ['/'].intercalate request.segments := by
    intro hmem
    rcases List.mem_append.mp hmem with hpre | hpath
    · exact P.noQuery hpre
    · rcases List.mem_cons.mp hpath with hslash | hjoin
      · exact absurd hslash (by decide)
      · exact Segments.notMem_intercalate (by decide)
          (fun seg hseg => (request.delimiters_notMem_segments seg hseg).2) hjoin
  cases query with
  | none => simpa [url] using truncateQuery_of_notMem hnot
  | some q => exact truncateQuery_append q hnot

/-- What the six rewrites leave of the segments of a request. -/
theorem intercalate_nameSegments (request : ScenarioRequest) :
    '/' :: ['/'].intercalate (nameSegments request.segments) =
      request.reported := by
  cases request <;> simp only [nameSegments, segments]
  case typing r u =>
    simp (disch := decide) only [maskFirst_cons_of_notMem, maskFirst_identifier,
      maskFirst_nil, cutAfter_cons_of_notSuffix, cutAfter_singleton]
    rfl
  case readReceipt r e =>
    rcases maskFirst_otherIdentifier '@' e [] (by decide) with
      ⟨tail, others, hmask, hothers⟩
    have hnil : others = [] := by
      rcases hothers with h | h <;> exact h
    simp (disch := decide) only [maskFirst_cons_of_notMem, maskFirst_identifier,
      hmask, hnil, maskFirst_own, cutAfter_cons_of_notSuffix, cutAfter_singleton]
    rfl
  case sendMessage r t =>
    rcases maskFirst_singleton '@' t.text with ⟨seg, hseg⟩
    rcases maskFirst_singleton '$' seg with ⟨seg', hseg'⟩
    simp (disch := decide) only [maskFirst_cons_of_notMem, maskFirst_identifier,
      hseg, hseg', cutAfter_cons_of_notSuffix, cutAfter_core, cutAfter_singleton]
    rfl
  case sendReaction r t =>
    rcases maskFirst_singleton '@' t.text with ⟨seg, hseg⟩
    rcases maskFirst_singleton '$' seg with ⟨seg', hseg'⟩
    simp (disch := decide) only [maskFirst_cons_of_notMem, maskFirst_identifier,
      hseg, hseg', cutAfter_cons_of_notSuffix, cutAfter_core, cutAfter_singleton]
    rfl
  case messages r =>
    simp (disch := decide) only [maskFirst_cons_of_notMem, maskFirst_identifier,
      maskFirst_nil, cutAfter_cons_of_notSuffix, cutAfter_singleton]
    rfl
  case join r =>
    simp (disch := decide) only [maskFirst_cons_of_notMem, maskFirst_identifier,
      maskFirst_nil, cutAfter_cons_of_notSuffix, cutAfter_singleton]
    rfl
  case displayname u =>
    rcases maskFirst_otherIdentifier '!' u ["displayname".toList]
      (by decide) with ⟨tail, others, hmask, hothers⟩
    have hrest : others = ["displayname".toList] := by
      rcases hothers with h | h
      · exact h
      · rw [h, maskFirst_cons_of_notMem _ (by decide)]
        rfl
    simp (disch := decide) only [maskFirst_cons_of_notMem, hmask, hrest,
      maskFirst_own, maskFirst_nil, cutAfter_cons_of_notSuffix,
      cutAfter_singleton]
    rfl
  case sync =>
    rfl

/-- The report name of a scenario request is the prefix followed by a text that
depends on the endpoint alone. -/
theorem requestName_url (P : UrlPrefix) (request : ScenarioRequest)
    (query : Option (List Char)) :
    requestName (request.url P.text query) = P.text ++ request.reported := by
  have hslash : forall seg, seg ∈ request.segments -> '/' ∉ seg :=
    fun seg hseg => (request.delimiters_notMem_segments seg hseg).1
  rw [P.requestName_over request.segments_ne_nil hslash
    (request.truncateQuery_url P query), request.intercalate_nameSegments]

def clientPrefix : UrlPrefix where
  text := "https://h/_matrix/client/r0".toList
  noQuery := by decide
  noRoomSigil := by decide
  noUserSigil := by decide
  noEventSigil := by decide
  noRoomMessage := by decide +kernel
  noReaction := by decide +kernel
  notRoomMessageEnd := by decide +kernel
  notReactionEnd := by decide +kernel

theorem requestName_url_read_receipt :
    let room : Identifier '!' := ⟨"r@x:h".toList, by decide, by decide⟩
    let event : Identifier '$' := ⟨"e!f".toList, by decide, by decide⟩
    requestName ((readReceipt room event).url clientPrefix.text (some "a=!b".toList)) =
      "https://h/_matrix/client/r0/rooms/_/receipt/m.read/_".toList := by
  intro room event
  rw [requestName_url clientPrefix (readReceipt room event)]
  decide +kernel

/-- A prefix that only ends in the text of a core completes the block together
with the slash behind it, and the name loses the whole endpoint. -/
theorem requestName_url_of_prefix_ending_in_core :
    let pre := "https://h/m.room.message".toList
    let room : Identifier '!' := ⟨"r:h".toList, by decide, by decide⟩
    let user : Identifier '@' := ⟨"u:h".toList, by decide, by decide⟩
    ('?' ∉ pre ∧ '!' ∉ pre ∧ '@' ∉ pre ∧ '$' ∉ pre ∧
      ¬ roomMessageCore ++ ['/'] <:+: pre ∧ ¬ reactionCore ++ ['/'] <:+: pre) ∧
    requestName ((typing room user).url pre none) ≠
      pre ++ (typing room user).reported := by
  decide +kernel

end ScenarioRequest

end HttpClient
end MatrixGoose
