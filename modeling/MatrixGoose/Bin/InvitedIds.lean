import MatrixGoose.Foundation.Segments
import MatrixGoose.Bin.CreateRoom

/-!
# The server name of an invited user

The server name of the invited ids is the host without the occurrences of `matrix.`,
wherever they stand.  The labels of the host say where that is.
-/

namespace MatrixGoose

open Foundation

namespace CreateRoom

open Setup

structure HostName where
  first : List Char
  rest : List (List Char)
  dotless : forall label, label ∈ first :: rest -> '.' ∉ label
  nonempty : forall label, label ∈ first :: rest -> label ≠ []

namespace HostName

def labels (h : HostName) : List (List Char) :=
  h.first :: h.rest

def text (h : HostName) : String :=
  String.ofList (['.'].intercalate h.labels)

end HostName

def matrixLabel : List Char := "matrix".toList

/-- The labels that are left: one that ends in `matrix` and has another one behind it
loses this end and the dot. -/
def dropMatrix : List Char -> List (List Char) -> List Char × List (List Char)
  | label, [] => (label, [])
  | label, next :: rest =>
      let left := dropMatrix next rest
      if matrixLabel <:+ label then
        (label.take (label.length - matrixLabel.length) ++ left.1, left.2)
      else (label, left.1 :: left.2)

/-!
# Dropping a block that ends in a separator
-/

section Blocks

variable {core : List Char} {sep : Char}

theorem dropOccurrences_skip {pattern : List Char} (inside after : List Char) :
    dropOccurrences pattern inside.length (inside ++ after) =
      dropOccurrences pattern 0 after := by
  induction inside with
  | nil => rfl
  | cons c rest ih => exact ih

theorem dropOccurrences_cons_of_not {pattern : List Char} {c : Char}
    {rest : List Char} (h : ¬ pattern <+: c :: rest) :
    dropOccurrences pattern 0 (c :: rest) = c :: dropOccurrences pattern 0 rest := by
  rw [dropOccurrences, if_neg]
  rw [List.isPrefixOf_iff_prefix]
  exact h

theorem dropOccurrences_cons_self {pattern : List Char} {c : Char}
    {rest : List Char} (h : pattern <+: c :: rest) :
    dropOccurrences pattern 0 (c :: rest) =
      dropOccurrences pattern (pattern.length - 1) rest := by
  rw [dropOccurrences, if_pos]
  rw [List.isPrefixOf_iff_prefix]
  exact h

theorem dropOccurrences_append_self (after : List Char) :
    dropOccurrences (core ++ [sep]) 0 (core ++ sep :: after) =
      dropOccurrences (core ++ [sep]) 0 after := by
  cases core with
  | nil => exact dropOccurrences_cons_self ⟨after, rfl⟩
  | cons c inside =>
      have hfront : c :: inside ++ [sep] <+: c :: (inside ++ sep :: after) :=
        ⟨after, by simp⟩
      have hskip := @dropOccurrences_skip (c :: inside ++ [sep]) (inside ++ [sep]) after
      rw [List.append_assoc, List.singleton_append] at hskip
      rw [← hskip]
      exact dropOccurrences_cons_self hfront

theorem dropOccurrences_of_sep_notMem {label : List Char} (hsep : sep ∉ label) :
    dropOccurrences (core ++ [sep]) 0 label = label := by
  induction label with
  | nil => rfl
  | cons c rest ih =>
      rw [dropOccurrences_cons_of_not, ih]
      · exact fun hmem => hsep (List.mem_cons_of_mem c hmem)
      · intro hfront
        exact hsep (hfront.subset (List.mem_append_right core (List.mem_singleton_self sep)))

/-- A segment that does not end in the core stays, with its separator. -/
theorem dropOccurrences_append_sep {label : List Char} (after : List Char)
    (hcore : sep ∉ core) (hlabel : sep ∉ label) (h : ¬ core <:+ label) :
    dropOccurrences (core ++ [sep]) 0 (label ++ sep :: after) =
      label ++ sep :: dropOccurrences (core ++ [sep]) 0 after := by
  induction label with
  | nil =>
      rw [List.nil_append, List.nil_append, dropOccurrences_cons_of_not]
      intro hfront
      have hshort : core ++ [sep] <+: [] ++ [sep] :=
        FirstMatch.prefix_of_prefix_append_sep hcore hfront
      have hlength := hshort.length_le
      rw [List.length_append] at hlength
      have hnil : core = [] := List.eq_nil_of_length_eq_zero (by simpa using hlength)
      exact h (by simp [hnil])
  | cons c rest ih =>
      rw [List.cons_append, List.cons_append, dropOccurrences_cons_of_not, ih]
      · exact fun hmem => hlabel (List.mem_cons_of_mem c hmem)
      · exact fun hsuffix => h (hsuffix.trans (List.suffix_cons c rest))
      · intro hfront
        have hshort : core ++ [sep] <+: (c :: rest) ++ [sep] :=
          FirstMatch.prefix_of_prefix_append_sep hcore hfront
        rcases FirstMatch.infix_append_sep_iff.mp hshort.isInfix with hsuffix | hinside
        · exact h hsuffix
        · exact hlabel (hinside.subset
            (List.mem_append_right core (List.mem_singleton_self sep)))

/-- A segment that ends in the core loses this end and its separator. -/
theorem dropOccurrences_append_core (before after : List Char)
    (hsep : sep ∉ before ++ core) :
    dropOccurrences (core ++ [sep]) 0 (before ++ core ++ sep :: after) =
      before ++ dropOccurrences (core ++ [sep]) 0 after := by
  induction before with
  | nil => exact dropOccurrences_append_self after
  | cons c rest ih =>
      have hrest : sep ∉ rest ++ core := fun hmem => hsep (List.mem_cons_of_mem c hmem)
      rw [List.cons_append, List.cons_append, dropOccurrences_cons_of_not, ih hrest]
      · rfl
      · intro hfront
        have hcore : sep ∉ core := fun hmem => hsep (List.mem_append_right (c :: rest) hmem)
        have hshort : core ++ [sep] <+: (c :: (rest ++ core)) ++ [sep] :=
          FirstMatch.prefix_of_prefix_append_sep hcore (by simpa using hfront)
        have hinside : core ++ [sep] <+: c :: (rest ++ core) :=
          List.prefix_of_prefix_length_le hshort (List.prefix_append _ [sep]) (by simp)
        exact hsep (hinside.subset
          (List.mem_append_right core (List.mem_singleton_self sep)))

end Blocks

/-!
# The labels of the server name
-/

theorem dropOccurrences_intercalate {first : List Char} {rest : List (List Char)}
    (hdotless : forall label, label ∈ first :: rest -> '.' ∉ label) :
    dropOccurrences "matrix.".toList 0 (['.'].intercalate (first :: rest)) =
      ['.'].intercalate ((dropMatrix first rest).1 :: (dropMatrix first rest).2) := by
  have hpattern : "matrix.".toList = matrixLabel ++ ['.'] := rfl
  have hmatrix : '.' ∉ matrixLabel := by decide
  rw [hpattern]
  induction rest generalizing first with
  | nil =>
      have hfirst := hdotless first List.mem_cons_self
      simpa [dropMatrix] using dropOccurrences_of_sep_notMem hfirst
  | cons next rest ih =>
      have hfirst := hdotless first List.mem_cons_self
      have htail := ih fun label hlabel => hdotless label (List.mem_cons_of_mem first hlabel)
      rw [List.intercalate_cons_cons, List.append_assoc, List.singleton_append, dropMatrix]
      by_cases hends : matrixLabel <:+ first
      · rcases hends with ⟨before, rfl⟩
        rw [dropOccurrences_append_core before _ hfirst, htail]
        simp only [List.suffix_append, if_true, List.length_append, Nat.add_sub_cancel,
          List.take_left]
        cases (dropMatrix next rest).2 with
        | nil => simp
        | cons other others => simp [List.intercalate_cons_cons]
      · rw [dropOccurrences_append_sep _ hmatrix hfirst hends, htail]
        simp [hends, List.intercalate_cons_cons]

theorem dropMatrix_eq_iff {first : List Char} {rest : List (List Char)} :
    dropMatrix first rest = (first, rest) <->
      forall label, label ∈ (first :: rest).dropLast -> ¬ matrixLabel <:+ label := by
  have hlength : forall (first : List Char) (rest : List (List Char)),
      (dropMatrix first rest).2.length <= rest.length := by
    intro first rest
    induction rest generalizing first with
    | nil => exact Nat.le_refl 0
    | cons next rest ih =>
        have htail := ih next
        simp only [dropMatrix]
        split
        · exact Nat.le_succ_of_le htail
        · exact Nat.succ_le_succ htail
  induction rest generalizing first with
  | nil => simp [dropMatrix]
  | cons next rest ih =>
      rw [List.dropLast_cons_cons, List.forall_mem_cons]
      refine Iff.trans ?_ (and_congr Iff.rfl ih)
      simp only [dropMatrix]
      by_cases hends : matrixLabel <:+ first
      · simp only [hends, if_true, not_true_eq_false, false_and, iff_false]
        intro hsame
        have htail := hlength next rest
        rw [(Prod.mk.inj hsame).2, List.length_cons] at htail
        omega
      · simp only [hends, if_false, not_false_eq_true, true_and, List.cons.injEq,
          Prod.ext_iff]

theorem dropMatrix_forall {P : List Char -> Prop}
    (happend : forall label left n, P label -> P left -> P (label.take n ++ left))
    {first : List Char} {rest : List (List Char)}
    (hall : forall label, label ∈ first :: rest -> P label) :
    forall label, label ∈ (dropMatrix first rest).1 :: (dropMatrix first rest).2 ->
      P label := by
  induction rest generalizing first with
  | nil => exact hall
  | cons next rest ih =>
      have hfirst := hall first List.mem_cons_self
      have htail := ih fun label hlabel => hall label (List.mem_cons_of_mem first hlabel)
      rw [List.forall_mem_cons] at htail
      simp only [dropMatrix]
      split
      · exact List.forall_mem_cons.mpr ⟨happend _ _ _ hfirst htail.1, htail.2⟩
      · exact List.forall_mem_cons.mpr ⟨hfirst, List.forall_mem_cons.mpr htail⟩

namespace HostName

def withoutMatrix (h : HostName) : HostName where
  first := (dropMatrix h.first h.rest).1
  rest := (dropMatrix h.first h.rest).2
  dotless := by
    apply dropMatrix_forall _ h.dotless
    intro label left n hlabel hleft hdot
    rcases List.mem_append.mp hdot with htake | hmem
    · exact hlabel (List.mem_of_mem_take htake)
    · exact hleft hmem
  nonempty := by
    apply dropMatrix_forall _ h.nonempty
    intro label left n _ hleft
    exact List.append_ne_nil_of_right_ne_nil _ hleft

theorem serverName_text (h : HostName) : serverName h.text = h.withoutMatrix.text := by
  have htext : h.text.toList = ['.'].intercalate (h.first :: h.rest) :=
    String.toList_ofList
  unfold serverName
  rw [htext, dropOccurrences_intercalate h.dotless]
  rfl

theorem eq_of_labels_eq {h other : HostName} (hlabels : h.labels = other.labels) :
    h = other := by
  cases h
  cases other
  cases hlabels
  rfl

theorem text_injective {h other : HostName} (htext : h.text = other.text) : h = other := by
  have hjoined : ['.'].intercalate h.labels = ['.'].intercalate other.labels :=
    String.ofList_injective htext
  have hsplit := List.splitOn_intercalate '.' h.dotless (List.cons_ne_nil _ _)
  have hother := List.splitOn_intercalate '.' other.dotless (List.cons_ne_nil _ _)
  apply eq_of_labels_eq
  calc
    h.labels = (['.'].intercalate h.labels).splitOn '.' := hsplit.symm
    _ = (['.'].intercalate other.labels).splitOn '.' := by rw [hjoined]
    _ = other.labels := hother

theorem withoutMatrix_eq_iff {h : HostName} :
    h.withoutMatrix = h <->
      forall label, label ∈ h.labels.dropLast -> ¬ matrixLabel <:+ label := by
  rw [labels, ← dropMatrix_eq_iff]
  constructor
  · intro hsame
    exact Prod.ext (congrArg first hsame) (congrArg rest hsame)
  · intro hsame
    apply eq_of_labels_eq
    show (dropMatrix h.first h.rest).1 :: (dropMatrix h.first h.rest).2 = h.first :: h.rest
    rw [hsame]

def underMatrix (d : HostName) : HostName where
  first := matrixLabel
  rest := d.labels
  dotless := List.forall_mem_cons.mpr ⟨by decide, d.dotless⟩
  nonempty := List.forall_mem_cons.mpr ⟨by decide, d.nonempty⟩

theorem text_underMatrix (d : HostName) : d.underMatrix.text = "matrix." ++ d.text := by
  apply String.toList_injective
  simp only [text, labels, underMatrix, String.toList_append, String.toList_ofList,
    List.intercalate_cons_cons]
  rfl

theorem withoutMatrix_underMatrix (d : HostName) :
    d.underMatrix.withoutMatrix = d.withoutMatrix := by
  apply eq_of_labels_eq
  simp [labels, withoutMatrix, underMatrix, dropMatrix]

end HostName

/-!
# The ids in the requests
-/

def InvitesTo (isUserId : String -> Bool) (host serverName : String) : Prop :=
  forall server creators username request,
    request ∈ (createRoom isUserId host server creators username).trace ->
    exists roomInfo, roomInfo ∈ ownedRooms creators username ∧
      request.invite = roomInfo.users.map fun name => "@" ++ name ++ ":" ++ serverName

/-- The invited ids name the server behind a host `matrix.<domain>`, or the host itself
if its first label is another one. -/
structure NamesServer (isUserId : String -> Bool) (h : HostName) : Prop where
  domain : forall d : HostName, h.text = "matrix." ++ d.text -> d.first ≠ matrixLabel ->
    InvitesTo isUserId h.text d.text
  host : h.first ≠ matrixLabel -> InvitesTo isUserId h.text h.text

theorem inviteList_of_ok {isUserId : String -> Bool} {host : String}
    {users invite : List String} (h : inviteList isUserId host users = .ok invite) :
    invite = users.map (fullName host) := by
  unfold inviteList at h
  induction users generalizing invite with
  | nil =>
      cases h
      rfl
  | cons name rest ih =>
      rw [List.mapM_cons] at h
      split at h
      · cases hrest : rest.mapM fun name =>
          if isUserId (fullName host name) then Except.ok (fullName host name)
          else Except.error Panic.userIdInvalid with
        | error e =>
            rw [hrest] at h
            cases h
        | ok others =>
            rw [hrest] at h
            cases h
            rw [ih hrest, List.map_cons]
      · cases h

theorem mem_trace_sendRequest {server : Server} {request sent : CreateRoomRequest}
    {retries : Nat} (h : sent ∈ (sendRequest server request retries).trace) :
    sent = request := by
  induction retries with
  | zero => cases h
  | succ retries ih =>
      rw [sendRequest, Traced.trace_bind_of_ok _ (Traced.result_emit _),
        Traced.trace_emit, List.mem_append, List.mem_singleton] at h
      rcases h with h | h
      · exact h
      · split at h
        · cases h
        · exact ih h

theorem mem_trace_createOwnRoom {isUserId : String -> Bool} {host : String}
    {server : Server} {roomInfo : RoomInfo} {request : CreateRoomRequest}
    (h : request ∈ (createOwnRoom isUserId host server roomInfo).trace) :
    request.invite = roomInfo.users.map (fullName host) := by
  unfold createOwnRoom at h
  cases hinvite : inviteList isUserId host roomInfo.users with
  | error e =>
      rw [hinvite] at h
      cases h
  | ok invite =>
      rw [hinvite, Traced.trace_bind_of_ok _ (a := invite) rfl] at h
      rw [mem_trace_sendRequest h]
      exact inviteList_of_ok hinvite

theorem invitesTo_serverName (isUserId : String -> Bool) (host : String) :
    InvitesTo isUserId host (serverName host) := by
  intro server creators username request hrequest
  unfold createRoom at hrequest
  split at hrequest
  · split at hrequest
    · rcases Traced.mem_trace_forEach hrequest with ⟨roomInfo, hroom, hmem⟩
      exact ⟨roomInfo, hroom, mem_trace_createOwnRoom hmem⟩
    · cases hrequest
  · cases hrequest

theorem invitesTo_iff {isUserId : String -> Bool} {host server : String}
    (hvalid : exists name, isUserId (fullName host name) = true) :
    InvitesTo isUserId host server <-> server = serverName host := by
  constructor
  · intro hinvites
    rcases hvalid with ⟨name, hname⟩
    have hrooms : forall room, room ∈ [("room", [name, name])] ->
        forall member, member ∈ room.2 -> isUserId (fullName host member) = true := by
      intro room hroom member hmember
      rw [List.mem_singleton] at hroom
      subst hroom
      have hmember : member = name := by simpa using hmember
      rw [hmember]
      exact hname
    have hrequest : CreateRoomRequest.mk (some "room") [fullName host name] ∈
        (createRoom isUserId host sampleServer ([("room", [name, name])].map infoOf)
          name).trace := by
      rw [createRoom_eq sampleServer_allSucceed hrooms]
      simp [Foundation.threadOf, creationOf]
    rcases hinvites _ _ _ _ hrequest with ⟨roomInfo, howned, hinvite⟩
    have hroomInfo : roomInfo = infoOf ("room", [name, name]) := by
      simpa [ownedRooms] using (List.mem_filter.mp howned).1
    subst hroomInfo
    have hid : fullName host name = "@" ++ name ++ ":" ++ server := by
      simpa [infoOf] using hinvite
    unfold fullName at hid
    exact ((String.append_right_inj _).mp hid).symm
  · intro hserver
    subst hserver
    exact invitesTo_serverName isUserId host

/-!
# Which hosts are named right
-/

def HostName.domainLabels (h : HostName) : List (List Char) :=
  if h.first = matrixLabel then h.rest else h.labels

/-- Behind a first label `matrix`, only the last label may end in `matrix`. -/
def HostName.MatrixInFront (h : HostName) : Prop :=
  forall label, label ∈ h.domainLabels.dropLast -> ¬ matrixLabel <:+ label

instance (h : HostName) : Decidable h.MatrixInFront :=
  inferInstanceAs (Decidable (forall label, label ∈ h.domainLabels.dropLast ->
    ¬ matrixLabel <:+ label))

theorem HostName.exists_underMatrix {h : HostName} (hfirst : h.first = matrixLabel)
    (hrest : h.rest ≠ []) : exists d : HostName, h = d.underMatrix := by
  rcases List.exists_cons_of_ne_nil hrest with ⟨next, rest, hcons⟩
  have hdotless := h.dotless
  have hnonempty := h.nonempty
  rw [hcons, List.forall_mem_cons] at hdotless hnonempty
  refine ⟨{ first := next, rest, dotless := hdotless.2, nonempty := hnonempty.2 }, ?_⟩
  apply eq_of_labels_eq
  exact congrArg₂ List.cons hfirst hcons

theorem HostName.matrixInFront_underMatrix {d : HostName} :
    d.underMatrix.MatrixInFront <-> d.withoutMatrix.text = d.text := by
  have hlabels : d.underMatrix.domainLabels = d.labels := if_pos rfl
  rw [MatrixInFront, hlabels, ← withoutMatrix_eq_iff]
  exact ⟨congrArg text, text_injective⟩

theorem HostName.matrixInFront_of_ne {h : HostName} (hfirst : h.first ≠ matrixLabel) :
    h.MatrixInFront <-> h.withoutMatrix.text = h.text := by
  rw [MatrixInFront, domainLabels, if_neg hfirst, ← withoutMatrix_eq_iff]
  exact ⟨congrArg text, text_injective⟩

theorem HostName.underMatrix_injective {d other : HostName}
    (h : d.underMatrix = other.underMatrix) : d = other :=
  eq_of_labels_eq (congrArg rest h)

theorem namesServer_underMatrix {isUserId : String -> Bool} {d : HostName} :
    NamesServer isUserId d.underMatrix <->
      (d.first ≠ matrixLabel -> InvitesTo isUserId d.underMatrix.text d.text) := by
  constructor
  · intro hnames hfirst
    exact hnames.domain d d.text_underMatrix hfirst
  · intro hdomain
    constructor
    · intro other htext hother
      rw [← HostName.text_underMatrix] at htext
      have hsame := HostName.underMatrix_injective (HostName.text_injective htext)
      subst hsame
      exact hdomain hother
    · intro hhost
      exact absurd rfl hhost

theorem namesServer_of_ne {isUserId : String -> Bool} {h : HostName}
    (hfirst : h.first ≠ matrixLabel) :
    NamesServer isUserId h <-> InvitesTo isUserId h.text h.text := by
  constructor
  · intro hnames
    exact hnames.host hfirst
  · intro hhost
    constructor
    · intro d htext _
      rw [← HostName.text_underMatrix] at htext
      rw [HostName.text_injective htext] at hfirst
      exact absurd rfl hfirst
    · intro _
      exact hhost

theorem namesServer_matrix {isUserId : String -> Bool} {h : HostName}
    (hfirst : h.first = matrixLabel) (hrest : h.rest = []) : NamesServer isUserId h := by
  constructor
  · intro d htext _
    rw [← HostName.text_underMatrix] at htext
    rw [HostName.text_injective htext] at hrest
    cases hrest
  · intro hhost
    exact absurd hfirst hhost

/-- The invited ids name the right server exactly if `matrix.` does not occur in the host
behind a first label `matrix`; of a host that starts with this label twice nothing is
said. -/
theorem namesServer_iff {isUserId : String -> Bool} {h : HostName}
    (hvalid : exists name, isUserId (fullName h.text name) = true) :
    NamesServer isUserId h <->
      h.MatrixInFront ∨ (h.first = matrixLabel ∧ h.rest.head? = some matrixLabel) := by
  have hinvites : forall server, InvitesTo isUserId h.text server <->
      server = h.withoutMatrix.text := by
    intro server
    rw [invitesTo_iff hvalid, HostName.serverName_text]
  by_cases hfirst : h.first = matrixLabel
  · by_cases hrest : h.rest = []
    · have hfront : h.MatrixInFront := by
        rw [HostName.MatrixInFront, HostName.domainLabels, if_pos hfirst, hrest]
        exact nofun
      exact iff_of_true (namesServer_matrix hfirst hrest) (Or.inl hfront)
    · rcases HostName.exists_underMatrix hfirst hrest with ⟨d, rfl⟩
      have htwice : (d.underMatrix.first = matrixLabel ∧
          d.underMatrix.rest.head? = some matrixLabel) <-> d.first = matrixLabel := by
        show matrixLabel = matrixLabel ∧ some d.first = some matrixLabel <-> _
        simp
      rw [htwice, HostName.matrixInFront_underMatrix, namesServer_underMatrix, hinvites,
        HostName.withoutMatrix_underMatrix, eq_comm (a := d.text), or_comm]
      exact imp_iff_not_or.trans (by rw [not_not])
  · rw [HostName.matrixInFront_of_ne hfirst, namesServer_of_ne hfirst, hinvites, eq_comm]
    constructor
    · exact Or.inl
    · intro hcondition
      cases hcondition with
      | inl hfront => exact hfront
      | inr htwice => exact absurd htwice.1 hfirst

def exampleHost : HostName where
  first := matrixLabel
  rest := ["example".toList, "org".toList]
  dotless := by decide
  nonempty := by decide

theorem namesServer_iff_example_host : NamesServer isSampleUserId exampleHost :=
  (namesServer_iff ⟨"bob", by decide⟩).mpr (Or.inl (by decide))

/-- The hosts `mymatrix.org` and `chat.matrix.org`. -/
def inLabel : HostName where
  first := "mymatrix".toList
  rest := ["org".toList]
  dotless := by decide
  nonempty := by decide

def laterLabel : HostName where
  first := "chat".toList
  rest := [matrixLabel, "org".toList]
  dotless := by decide
  nonempty := by decide

theorem other_hosts_lose_matrix :
    serverName "mymatrix.org" = "myorg" ∧ serverName "chat.matrix.org" = "chat.org" ∧
      ¬ NamesServer isSampleUserId inLabel ∧ ¬ NamesServer isSampleUserId laterLabel := by
  have hwrong : forall {h : HostName}, h.first ≠ matrixLabel ->
      isSampleUserId (fullName h.text "bob") = true -> h.text ≠ serverName h.text ->
      ¬ NamesServer isSampleUserId h :=
    fun hfirst hbob hne hnames => hne ((invitesTo_iff ⟨_, hbob⟩).mp (hnames.host hfirst))
  refine ⟨by decide, by decide, ?_, ?_⟩
  · exact hwrong (by decide) (by decide) (by decide)
  · exact hwrong (by decide) (by decide) (by decide)

end CreateRoom
end MatrixGoose
