import Mathlib.Data.Finset.Card
import MatrixGoose.Matrix.HttpClient.EndpointNames
import MatrixGoose.Matrix.HttpClient.NamePositions

/-!
# Report names of requests with a transaction id

`Joined::send_raw` and `Joined::redact` put a fresh transaction id behind the
rest of the path.  The report keeps one entry for all of them exactly if a
rewrite cuts the name in front of the id, which the code provides for two event
types only.
-/

namespace MatrixGoose
namespace HttpClient

open Foundation

structure PlainTransactionId extends TransactionId where
  noRoomSigil : '!' ∉ text
  noUserSigil : '@' ∉ text
  noEventSigil : '$' ∉ text

structure EventTypeText where
  text : List Char
  noSlash : '/' ∉ text
  noQuery : '?' ∉ text

inductive TransactionRequest
  | send (room : Identifier '!') (eventType : EventTypeText)
  | redact (room : Identifier '!') (event : Identifier '$')

namespace TransactionRequest

def segments : TransactionRequest -> List (List Char)
  | send r t => ["rooms".toList, r.text, "send".toList, t.text]
  | redact r e => ["rooms".toList, r.text, "redact".toList, e.text]

def url (pre : List Char) (request : TransactionRequest)
    (txn : PlainTransactionId) : List Char :=
  pre ++ '/' :: ['/'].intercalate (request.segments ++ [txn.text])

def leading (pre : List Char) (request : TransactionRequest) :
    List (List Char) :=
  pre.splitOn '/' ++ request.segments

/-- Two requests that differ only in the transaction id share a report entry. -/
def SharesEntry (pre : List Char) (request : TransactionRequest) : Prop :=
  forall t1 t2 : PlainTransactionId,
    requestName (request.url pre t1) = requestName (request.url pre t2)

end TransactionRequest

def maskIdentifiers (segs : List (List Char)) : List (List Char) :=
  maskFirst '$' (maskFirst '@' (maskFirst '!' segs))

/-- The name ends before the last segment of the URL: at a question mark of the
prefix, or behind a segment that ends in a core and is not an identifier. -/
def CutsLastSegment (pre : List Char) (request : TransactionRequest) : Prop :=
  '?' ∈ pre ∨
    exists seg, seg ∈ maskIdentifiers (request.leading pre) ∧ EndsInCore seg

/-!
# A last segment without sigils

Masking never reaches it, and a cut either drops it or leaves it as it is.
-/

theorem maskFirst_append_last {sigil : Char} {last : List Char}
    (segs : List (List Char)) (h : sigil ∉ last) :
    maskFirst sigil (segs ++ [last]) = maskFirst sigil segs ++ [last] := by
  induction segs with
  | nil => simp [maskFirst, h]
  | cons seg rest ih =>
      rw [List.cons_append, maskFirst, maskFirst]
      by_cases hseg : sigil ∈ seg
      · rw [if_pos hseg, if_pos hseg, List.cons_append]
      · rw [if_neg hseg, if_neg hseg, ih, List.cons_append]

theorem cutAfter_append_last_of_mem {core seg : List Char}
    {segs : List (List Char)} (hmem : seg ∈ segs) (hcore : core <:+ seg)
    (last last' : List Char) :
    cutAfter core (segs ++ [last]) = cutAfter core (segs ++ [last']) := by
  induction segs with
  | nil => cases hmem
  | cons first rest ih =>
      by_cases hfirst : core <:+ first
      · cases rest with
        | nil => simp [cutAfter, hfirst]
        | cons next tail => simp [cutAfter, hfirst]
      · have hrest : seg ∈ rest := by
          rcases List.mem_cons.mp hmem with hEq | hrest
          · exact absurd (hEq ▸ hcore) hfirst
          · exact hrest
        cases rest with
        | nil => cases hrest
        | cons next tail =>
            have htail := ih hrest
            simp only [List.cons_append] at htail ⊢
            rw [cutAfter, cutAfter, if_neg hfirst, if_neg hfirst, htail]

theorem cutAfter_append_last_of_none {core : List Char}
    {segs : List (List Char)} (h : forall seg, seg ∈ segs -> ¬ core <:+ seg)
    (last : List Char) : cutAfter core (segs ++ [last]) = segs ++ [last] := by
  rw [cutAfter_append (by simp) h, cutAfter_singleton]

theorem nameSegments_append_last {last : List Char} (segs : List (List Char))
    (hroom : '!' ∉ last) (huser : '@' ∉ last) (hevent : '$' ∉ last) :
    nameSegments (segs ++ [last]) =
      cutAfter reactionCore
        (cutAfter roomMessageCore (maskIdentifiers segs ++ [last])) := by
  rw [nameSegments, maskFirst_append_last segs hroom,
    maskFirst_append_last _ huser, maskFirst_append_last _ hevent,
    maskIdentifiers]

theorem maskIdentifiers_ne_nil {segs : List (List Char)} (h : segs ≠ []) :
    maskIdentifiers segs ≠ [] :=
  maskFirst_ne_nil '$' (maskFirst_ne_nil '@' (maskFirst_ne_nil '!' h))

/-!
# Names of two requests
-/

namespace TransactionRequest

variable (pre : List Char) (request : TransactionRequest)

theorem delimiters_notMem_segments :
    forall seg, seg ∈ request.segments -> '/' ∉ seg ∧ '?' ∉ seg := by
  have hroom : '!' ≠ '/' ∧ '!' ≠ '?' := by simp
  have hevent : '$' ≠ '/' ∧ '$' ≠ '?' := by simp
  cases request with
  | send r t =>
      simp only [segments, List.forall_mem_cons]
      exact ⟨by simp, r.delimiters_notMem hroom, by simp,
        ⟨t.noSlash, t.noQuery⟩, by simp⟩
  | redact r e =>
      simp only [segments, List.forall_mem_cons]
      exact ⟨by simp, r.delimiters_notMem hroom, by simp,
        e.delimiters_notMem hevent, by simp⟩

theorem leading_ne_nil : request.leading pre ≠ [] := by
  intro h
  exact List.splitOn_ne_nil '/' pre (List.append_eq_nil_iff.mp h).1

theorem slash_notMem_leading (txn : PlainTransactionId) :
    forall seg, seg ∈ request.leading pre ++ [txn.text] -> '/' ∉ seg := by
  intro seg hseg
  rcases List.mem_append.mp hseg with hleading | hlast
  · rcases List.mem_append.mp hleading with hpre | hpath
    · exact Segments.sep_notMem_of_mem_splitOn hpre
    · exact (request.delimiters_notMem_segments seg hpath).1
  · rw [List.mem_singleton.mp hlast]
    exact txn.noSlash

theorem url_eq (txn : PlainTransactionId) :
    request.url pre txn =
      ['/'].intercalate (request.leading pre ++ [txn.text]) := by
  rw [leading, List.append_assoc, Segments.intercalate_append
    (List.splitOn_ne_nil '/' pre) (by simp), List.intercalate_splitOn, url]

theorem truncateQuery_url (hpre : '?' ∉ pre) (txn : PlainTransactionId) :
    truncateQuery (request.url pre txn) = request.url pre txn := by
  apply truncateQuery_of_notMem
  intro hmem
  rcases List.mem_append.mp hmem with hfront | hback
  · exact hpre hfront
  · rcases List.mem_cons.mp hback with hslash | hjoin
    · simp at hslash
    · apply Segments.notMem_intercalate (by simp) _ hjoin
      intro seg hseg
      rcases List.mem_append.mp hseg with hpath | hlast
      · exact (request.delimiters_notMem_segments seg hpath).2
      · rw [List.mem_singleton.mp hlast]
        exact txn.noQuery

theorem requestName_transaction (hpre : '?' ∉ pre) (txn : PlainTransactionId) :
    requestName (request.url pre txn) =
      ['/'].intercalate (nameSegments (request.leading pre ++ [txn.text])) := by
  apply requestName_intercalate
  · rw [request.truncateQuery_url pre hpre, url_eq]
  · exact request.slash_notMem_leading pre txn

theorem nameSegments_leading (txn : PlainTransactionId) :
    nameSegments (request.leading pre ++ [txn.text]) =
      cutAfter reactionCore (cutAfter roomMessageCore
        (maskIdentifiers (request.leading pre) ++ [txn.text])) :=
  nameSegments_append_last _ txn.noRoomSigil txn.noUserSigil txn.noEventSigil

theorem requestName_eq_of_cuts (h : CutsLastSegment pre request)
    (t1 t2 : PlainTransactionId) :
    requestName (request.url pre t1) = requestName (request.url pre t2) := by
  by_cases hquery : '?' ∈ pre
  · rcases FirstMatch.split_first '?' pre with hnone | ⟨before, after, hbefore, hpre⟩
    · exact absurd hquery hnone
    · have htruncate : forall txn, truncateQuery (request.url pre txn) = before := by
        intro txn
        rw [url, hpre, List.append_assoc, List.cons_append]
        exact truncateQuery_append _ hbefore
      rw [requestName, requestName, htruncate, htruncate]
  · rcases h with hmem | ⟨seg, hseg, hcore⟩
    · exact absurd hmem hquery
    · rw [request.requestName_transaction pre hquery, request.requestName_transaction pre hquery,
        nameSegments_leading, nameSegments_leading]
      rcases hcore with hmessage | hreaction
      · rw [cutAfter_append_last_of_mem hseg hmessage t1.text t2.text]
      · by_cases hmessage : exists other,
            other ∈ maskIdentifiers (request.leading pre) ∧ roomMessageCore <:+ other
        · rcases hmessage with ⟨other, hother, hends⟩
          rw [cutAfter_append_last_of_mem hother hends t1.text t2.text]
        · have hnone : forall other,
              other ∈ maskIdentifiers (request.leading pre) ->
                ¬ roomMessageCore <:+ other :=
            fun other hother hends => hmessage ⟨other, hother, hends⟩
          rw [cutAfter_append_last_of_none hnone, cutAfter_append_last_of_none hnone,
            cutAfter_append_last_of_mem hseg hreaction t1.text t2.text]

theorem requestName_of_not_cuts (h : ¬ CutsLastSegment pre request)
    (txn : PlainTransactionId) :
    requestName (request.url pre txn) =
      ['/'].intercalate (maskIdentifiers (request.leading pre)) ++
        '/' :: txn.text := by
  have hquery : '?' ∉ pre := fun hmem => h (Or.inl hmem)
  have hcore : forall seg, seg ∈ maskIdentifiers (request.leading pre) ->
      ¬ EndsInCore seg :=
    fun seg hseg hends => h (Or.inr ⟨seg, hseg, hends⟩)
  have hmessage : forall seg, seg ∈ maskIdentifiers (request.leading pre) ->
      ¬ roomMessageCore <:+ seg :=
    fun seg hseg hends => hcore seg hseg (Or.inl hends)
  have hreaction : forall seg, seg ∈ maskIdentifiers (request.leading pre) ->
      ¬ reactionCore <:+ seg :=
    fun seg hseg hends => hcore seg hseg (Or.inr hends)
  rw [request.requestName_transaction pre hquery, nameSegments_leading,
    cutAfter_append_last_of_none hmessage, cutAfter_append_last_of_none hreaction,
    Segments.intercalate_append
      (maskIdentifiers_ne_nil (request.leading_ne_nil pre)) (by simp)]
  simp

theorem requestName_eq_iff (t1 t2 : PlainTransactionId) :
    requestName (request.url pre t1) = requestName (request.url pre t2) <->
      CutsLastSegment pre request ∨ t1.text = t2.text := by
  constructor
  · intro hname
    by_cases hcut : CutsLastSegment pre request
    · exact Or.inl hcut
    · rw [request.requestName_of_not_cuts pre hcut,
        request.requestName_of_not_cuts pre hcut] at hname
      have htail := List.append_cancel_left hname
      exact Or.inr (List.cons.inj htail).2
  · intro h
    rcases h with hcut | htext
    · exact request.requestName_eq_of_cuts pre hcut t1 t2
    · rw [url, url, htext]

def entryCount (txns : List PlainTransactionId) : Nat :=
  (txns.map fun txn => requestName (request.url pre txn)).toFinset.card

theorem entryCount_le_one (h : CutsLastSegment pre request)
    (txns : List PlainTransactionId) : request.entryCount pre txns <= 1 := by
  rw [entryCount, Finset.card_le_one]
  intro name1 h1 name2 h2
  rcases List.mem_map.mp (List.mem_toFinset.mp h1) with ⟨t1, ht1, hname1⟩
  rcases List.mem_map.mp (List.mem_toFinset.mp h2) with ⟨t2, ht2, hname2⟩
  rw [← hname1, ← hname2]
  exact request.requestName_eq_of_cuts pre h t1 t2

theorem entryCount_of_not_cuts (h : ¬ CutsLastSegment pre request)
    (txns : List PlainTransactionId) :
    request.entryCount pre txns =
      (txns.map fun txn => txn.text).toFinset.card := by
  let front := ['/'].intercalate (maskIdentifiers (request.leading pre))
  have hinjective : Function.Injective fun text => front ++ '/' :: text := by
    intro text1 text2 hEq
    exact (List.cons.inj (List.append_cancel_left hEq)).2
  have hnames : (txns.map fun txn => requestName (request.url pre txn)) =
      (txns.map fun txn => txn.text).map fun text => front ++ '/' :: text := by
    rw [List.map_map]
    apply List.map_congr_left
    intro txn htxn
    exact request.requestName_of_not_cuts pre h txn
  have himage : ((txns.map fun txn => txn.text).map fun text =>
        front ++ '/' :: text).toFinset =
      (txns.map fun txn => txn.text).toFinset.image fun text =>
        front ++ '/' :: text := by
    ext name
    simp
  rw [entryCount, hnames, himage, Finset.card_image_of_injective _ hinjective]

end TransactionRequest

/-!
# Ordinary prefixes

Behind a prefix that the rewrites leave alone, the room and the event are the
identifiers that get masked, and only the event type can cut the name.
-/

theorem maskFirst_singleton_of_mem {sigil : Char} {seg : List Char}
    (h : sigil ∈ seg) :
    maskFirst sigil [seg] = [seg.takeWhile (· ≠ sigil) ++ ['_']] := by
  rw [maskFirst, if_pos h]

theorem maskFirst_singleton_of_notMem {sigil : Char} {seg : List Char}
    (h : sigil ∉ seg) : maskFirst sigil [seg] = [seg] := by
  rw [maskFirst, if_neg h, maskFirst_nil]

theorem endsInCore_maskFirst_singleton {sigil : Char} {seg : List Char} :
    (exists masked, masked ∈ maskFirst sigil [seg] ∧ EndsInCore masked) <->
      EndsInCore seg ∧ sigil ∉ seg := by
  by_cases hmem : sigil ∈ seg
  · rw [maskFirst_singleton_of_mem hmem]
    constructor
    · intro h
      rcases h with ⟨masked, hmasked, hcore⟩
      rw [List.mem_singleton.mp hmasked] at hcore
      exact absurd hcore (not_endsInCore_masked _)
    · intro h
      exact absurd hmem h.2
  · rw [maskFirst_singleton_of_notMem hmem]
    simp [hmem]

theorem UrlPrefix.maskIdentifiers_append (P : UrlPrefix)
    (tail : List (List Char)) :
    maskIdentifiers (P.text.splitOn '/' ++ tail) =
      P.text.splitOn '/' ++ maskIdentifiers tail := by
  rw [maskIdentifiers, maskFirst_append _ (fun _ => P.notMem_segment P.noRoomSigil),
    maskFirst_append _ (fun _ => P.notMem_segment P.noUserSigil),
    maskFirst_append _ (fun _ => P.notMem_segment P.noEventSigil), maskIdentifiers]

theorem UrlPrefix.not_endsInCore (P : UrlPrefix) {seg : List Char}
    (hseg : seg ∈ P.text.splitOn '/') : ¬ EndsInCore seg := by
  intro h
  rcases h with hmessage | hreaction
  · exact P.notSuffix_segment P.noRoomMessage P.notRoomMessageEnd hseg hmessage
  · exact P.notSuffix_segment P.noReaction P.notReactionEnd hseg hreaction

namespace TransactionRequest

/-- The requests whose transaction id the report leaves out. -/
def HasGroupedType : TransactionRequest -> Prop
  | send _ t => EndsInCore t.text ∧ '@' ∉ t.text ∧ '$' ∉ t.text
  | redact _ _ => False

theorem cutsLastSegment_over (P : UrlPrefix) (request : TransactionRequest) :
    CutsLastSegment P.text request <->
      exists seg, seg ∈ maskIdentifiers request.segments ∧ EndsInCore seg := by
  rw [CutsLastSegment, leading, P.maskIdentifiers_append]
  constructor
  · intro h
    rcases h with hquery | ⟨seg, hseg, hcore⟩
    · exact absurd hquery P.noQuery
    · rcases List.mem_append.mp hseg with hpre | hown
      · exact absurd hcore (P.not_endsInCore hpre)
      · exact ⟨seg, hown, hcore⟩
  · intro h
    rcases h with ⟨seg, hseg, hcore⟩
    exact Or.inr ⟨seg, List.mem_append_right _ hseg, hcore⟩

theorem maskIdentifiers_send (room : Identifier '!') (eventType : EventTypeText) :
    maskIdentifiers (send room eventType).segments =
      ["rooms".toList, ['_'], "send".toList] ++
        maskFirst '$' (maskFirst '@' [eventType.text]) := by
  simp (disch := decide) only [maskIdentifiers, segments,
    maskFirst_cons_of_notMem, maskFirst_identifier]
  rfl

theorem maskIdentifiers_redact (room : Identifier '!') (event : Identifier '$') :
    maskIdentifiers (redact room event).segments =
      ["rooms".toList, ['_'], "redact".toList, ['_']] := by
  rcases maskFirst_otherIdentifier '@' event [] (by simp) with
    ⟨tail, others, hmask, hothers⟩
  have hnil : others = [] := by
    rcases hothers with h | h <;> exact h
  simp (disch := decide) only [maskIdentifiers, segments,
    maskFirst_cons_of_notMem, maskFirst_identifier, hmask, hnil, maskFirst_own]

theorem cutsLastSegment_send (P : UrlPrefix) (room : Identifier '!')
    (eventType : EventTypeText) :
    CutsLastSegment P.text (send room eventType) <->
      EndsInCore eventType.text ∧ '@' ∉ eventType.text ∧ '$' ∉ eventType.text := by
  have hfront : forall seg, seg ∈ ["rooms".toList, ['_'], "send".toList] ->
      ¬ EndsInCore seg := by
    unfold EndsInCore
    decide
  have hlast : (exists seg, seg ∈ maskFirst '$' (maskFirst '@' [eventType.text]) ∧
      EndsInCore seg) <->
      EndsInCore eventType.text ∧ '@' ∉ eventType.text ∧ '$' ∉ eventType.text := by
    by_cases huser : '@' ∈ eventType.text
    · rw [maskFirst_singleton_of_mem huser, endsInCore_maskFirst_singleton]
      simp [huser, not_endsInCore_masked]
    · rw [maskFirst_singleton_of_notMem huser, endsInCore_maskFirst_singleton]
      simp [huser]
  rw [cutsLastSegment_over, maskIdentifiers_send, ← hlast]
  constructor
  · intro h
    rcases h with ⟨seg, hseg, hcore⟩
    rcases List.mem_append.mp hseg with hpath | htype
    · exact absurd hcore (hfront seg hpath)
    · exact ⟨seg, htype, hcore⟩
  · intro h
    rcases h with ⟨seg, hseg, hcore⟩
    exact ⟨seg, List.mem_append_right _ hseg, hcore⟩

theorem not_cutsLastSegment_redact (P : UrlPrefix) (room : Identifier '!')
    (event : Identifier '$') : ¬ CutsLastSegment P.text (redact room event) := by
  have hpath : forall seg,
      seg ∈ ["rooms".toList, ['_'], "redact".toList, ['_']] -> ¬ EndsInCore seg := by
    unfold EndsInCore
    decide
  rw [cutsLastSegment_over, maskIdentifiers_redact]
  intro h
  rcases h with ⟨seg, hseg, hcore⟩
  exact hpath seg hseg hcore

theorem cutsLastSegment_iff_hasGroupedType (P : UrlPrefix)
    (request : TransactionRequest) :
    CutsLastSegment P.text request <-> request.HasGroupedType := by
  cases request with
  | send r t => exact cutsLastSegment_send P r t
  | redact r e => exact iff_of_false (not_cutsLastSegment_redact P r e) id

def firstTransaction : PlainTransactionId where
  text := "t1".toList
  noSlash := by simp
  noQuery := by simp
  noRoomSigil := by simp
  noUserSigil := by simp
  noEventSigil := by simp

def secondTransaction : PlainTransactionId where
  text := "t2".toList
  noSlash := by simp
  noQuery := by simp
  noRoomSigil := by simp
  noUserSigil := by simp
  noEventSigil := by simp

theorem sharesEntry_iff_cuts (pre : List Char) (request : TransactionRequest) :
    request.SharesEntry pre <-> CutsLastSegment pre request := by
  constructor
  · intro h
    have hname := h firstTransaction secondTransaction
    rcases (request.requestName_eq_iff pre _ _).mp hname with hcut | htext
    · exact hcut
    · simp [firstTransaction, secondTransaction] at htext
  · intro h
    exact request.requestName_eq_of_cuts pre h

/-- Messages of a request share one report entry exactly if the rewrites cut
its name in front of the transaction id; otherwise every id gets an entry of its
own.  Behind an ordinary prefix only the event type of a send decides this. -/
theorem report_entries_of_transactions (request : TransactionRequest) :
    (forall pre : List Char,
      (request.SharesEntry pre <-> CutsLastSegment pre request) ∧
      ((forall txns, request.entryCount pre txns <= 1) <->
        CutsLastSegment pre request) ∧
      (¬ CutsLastSegment pre request -> forall txns,
        request.entryCount pre txns =
          (txns.map fun txn => txn.text).toFinset.card)) ∧
    (forall P : UrlPrefix,
      CutsLastSegment P.text request <-> request.HasGroupedType) := by
  constructor
  · intro pre
    constructor
    · exact request.sharesEntry_iff_cuts pre
    · constructor
      · constructor
        · intro h
          by_cases hcut : CutsLastSegment pre request
          · exact hcut
          · have hcount := request.entryCount_of_not_cuts pre hcut
              [firstTransaction, secondTransaction]
            have hle := h [firstTransaction, secondTransaction]
            rw [hcount] at hle
            simp [firstTransaction, secondTransaction] at hle
        · exact request.entryCount_le_one pre
      · exact request.entryCount_of_not_cuts pre
  · intro P
    exact request.cutsLastSegment_iff_hasGroupedType P

/-- Two redactions of one event, and two stickers, are reported under two names
each. -/
theorem transactions_split_the_report :
    let pre := "https://h/_matrix/client/r0".toList
    let room : Identifier '!' := ⟨"r:h".toList, by simp, by simp⟩
    let event : Identifier '$' := ⟨"e".toList, by simp, by simp⟩
    let sticker : EventTypeText := ⟨"m.sticker".toList, by simp, by simp⟩
    ¬ (redact room event).SharesEntry pre ∧
      ¬ (send room sticker).SharesEntry pre := by
  simp only [sharesEntry_iff_cuts, CutsLastSegment, EndsInCore]
  decide +kernel

end TransactionRequest

end HttpClient
end MatrixGoose
