import MatrixGoose.Matrix.HttpClient.RequestName

/-!
# Segments a request name keeps

Masking shortens a segment in its place and a cut drops only what stands behind
the segment it finds.  A segment without sigils and without a core in front of
it therefore stands in the name where it stood in the URL.
-/

namespace MatrixGoose
namespace HttpClient

open Foundation

/-- One of the two cores ends a segment. -/
def EndsInCore (seg : List Char) : Prop :=
  roomMessageCore <:+ seg ∨ reactionCore <:+ seg

def pathSegments (url : List Char) : List (List Char) :=
  (truncateQuery url).splitOn '/'

def reportSegments (url : List Char) : List (List Char) :=
  (requestName url).splitOn '/'

/-- A segment that none of the three maskings looks for. -/
def SigilFree (seg : List Char) : Prop :=
  '!' ∉ seg ∧ '@' ∉ seg ∧ '$' ∉ seg

def NoneBefore (P : List Char -> Prop) (k : Nat) (segs : List (List Char)) :
    Prop :=
  forall seg, seg ∈ segs.take k -> ¬ P seg

theorem noneBefore_iff {P : List Char -> Prop} {k : Nat}
    {segs : List (List Char)} :
    NoneBefore P k segs <->
      forall i seg, i < k -> segs[i]? = some seg -> ¬ P seg := by
  constructor
  · intro h i seg hi hseg
    apply h
    rw [List.mem_iff_getElem?]
    exact ⟨i, by rw [List.getElem?_take_of_lt hi, hseg]⟩
  · intro h seg hmem
    rcases List.mem_iff_getElem?.mp hmem with ⟨i, hseg⟩
    have hi : i < k := by
      have hlength : i < (segs.take k).length := (List.getElem?_eq_some_iff.mp hseg).1
      rw [List.length_take] at hlength
      omega
    rw [List.getElem?_take_of_lt hi] at hseg
    exact h i seg hi hseg

/-!
# Masking
-/

theorem not_endsInCore_masked (seg : List Char) :
    ¬ EndsInCore (seg ++ ['_']) := by
  have hnot : forall core : List Char, core.getLast? ≠ some '_' -> core ≠ [] ->
      ¬ core <:+ seg ++ ['_'] := by
    intro core hlast hne hsuffix
    rcases List.suffix_concat_iff.mp hsuffix with hnil | ⟨front, hcore, _⟩
    · exact hne hnil
    · exact hlast (by simp [hcore])
  intro h
  rcases h with hmessage | hreaction
  · exact hnot roomMessageCore (by decide) (by decide) hmessage
  · exact hnot reactionCore (by decide) (by decide) hreaction

theorem maskFirst_getElem?_of_notMem {sigil : Char} {segs : List (List Char)}
    {k : Nat} {seg : List Char} (hk : segs[k]? = some seg) (h : sigil ∉ seg) :
    (maskFirst sigil segs)[k]? = some seg := by
  induction segs generalizing k with
  | nil => simp at hk
  | cons first rest ih =>
      rw [maskFirst]
      cases k with
      | zero =>
          have hfirst : first = seg := by simpa using hk
          rw [if_neg (by rw [hfirst]; exact h), hfirst, List.getElem?_cons_zero]
      | succ k =>
          rw [List.getElem?_cons_succ] at hk
          split
          · rw [List.getElem?_cons_succ, hk]
          · rw [List.getElem?_cons_succ, ih hk]

theorem getElem?_maskFirst {sigil : Char} {segs : List (List Char)} {k : Nat}
    {seg : List Char} (hk : (maskFirst sigil segs)[k]? = some seg) :
    segs[k]? = some seg ∨ exists front, seg = front ++ ['_'] := by
  induction segs generalizing k with
  | nil => simp [maskFirst] at hk
  | cons first rest ih =>
      rw [maskFirst] at hk
      split at hk
      · cases k with
        | zero =>
            rw [List.getElem?_cons_zero] at hk
            exact Or.inr ⟨_, (Option.some.inj hk).symm⟩
        | succ k => exact Or.inl hk
      · cases k with
        | zero => exact Or.inl hk
        | succ k =>
            rw [List.getElem?_cons_succ] at hk ⊢
            exact ih hk

theorem noneBefore_maskFirst (sigil : Char) {k : Nat} {segs : List (List Char)}
    (h : NoneBefore EndsInCore k segs) :
    NoneBefore EndsInCore k (maskFirst sigil segs) := by
  rw [noneBefore_iff] at h ⊢
  intro i seg hi hseg
  rcases getElem?_maskFirst hseg with hold | ⟨front, hfront⟩
  · exact h i seg hi hold
  · rw [hfront]
    exact not_endsInCore_masked front

/-!
# Cutting
-/

theorem cutAfter_getElem? {core : List Char} {segs : List (List Char)} {k : Nat}
    {seg : List Char} (hk : segs[k]? = some seg)
    (h : NoneBefore (core <:+ ·) k segs) :
    (cutAfter core segs)[k]? = some seg := by
  induction segs generalizing k with
  | nil => simp at hk
  | cons first rest ih =>
      cases rest with
      | nil => exact hk
      | cons next tail =>
          rw [cutAfter]
          cases k with
          | zero =>
              rw [List.getElem?_cons_zero] at hk
              split
              · exact hk
              · exact hk
          | succ k =>
              have hfirst : ¬ core <:+ first := h first (by simp)
              have hrest : NoneBefore (core <:+ ·) k (next :: tail) := by
                intro other hother
                exact h other (List.mem_cons_of_mem first hother)
              rw [if_neg hfirst, List.getElem?_cons_succ]
              exact ih hk hrest

theorem noneBefore_cutAfter {core : List Char} {P : List Char -> Prop}
    {segs : List (List Char)} {k : Nat} {seg : List Char}
    (hk : segs[k]? = some seg) (hcore : NoneBefore (core <:+ ·) k segs)
    (h : NoneBefore P k segs) : NoneBefore P k (cutAfter core segs) := by
  rw [noneBefore_iff] at hcore h ⊢
  intro i other hi hother
  have hlength : k < segs.length := (List.getElem?_eq_some_iff.mp hk).1
  have hsome : segs[i]? = some (segs[i]) :=
    List.getElem?_eq_getElem (Nat.lt_trans hi hlength)
  have hkept : (cutAfter core segs)[i]? = some (segs[i]) := by
    apply cutAfter_getElem? hsome
    rw [noneBefore_iff]
    intro j before hj hbefore
    exact hcore j before (Nat.lt_trans hj hi) hbefore
  have hEq : other = segs[i] := by
    rw [hother] at hkept
    exact Option.some.inj hkept
  rw [hEq]
  exact h i (segs[i]) hi hsome

/-!
# The whole name
-/

theorem nameSegments_getElem? {segs : List (List Char)} {k : Nat}
    {seg : List Char} (hk : segs[k]? = some seg) (hsigil : SigilFree seg)
    (hcore : NoneBefore EndsInCore k segs) :
    (nameSegments segs)[k]? = some seg := by
  rcases hsigil with ⟨hroom, huser, hevent⟩
  let masked := maskFirst '$' (maskFirst '@' (maskFirst '!' segs))
  have hmasked : masked[k]? = some seg :=
    maskFirst_getElem?_of_notMem (maskFirst_getElem?_of_notMem
      (maskFirst_getElem?_of_notMem hk hroom) huser) hevent
  have hnone : NoneBefore EndsInCore k masked :=
    noneBefore_maskFirst '$' (noneBefore_maskFirst '@' (noneBefore_maskFirst '!' hcore))
  have hmessage : NoneBefore (roomMessageCore <:+ ·) k masked :=
    fun other hother hends => hnone other hother (Or.inl hends)
  have hreaction : NoneBefore (reactionCore <:+ ·) k masked :=
    fun other hother hends => hnone other hother (Or.inr hends)
  exact cutAfter_getElem? (cutAfter_getElem? hmasked hmessage)
    (noneBefore_cutAfter hmasked hmessage hreaction)

theorem reportSegments_eq (url : List Char) :
    reportSegments url = nameSegments (pathSegments url) := by
  have hslash : forall seg, seg ∈ pathSegments url -> '/' ∉ seg :=
    fun seg hseg => Segments.sep_notMem_of_mem_splitOn hseg
  have hname : forall seg, seg ∈ nameSegments (pathSegments url) -> '/' ∉ seg :=
    slash_notMem_cutAfter _ (slash_notMem_cutAfter _ (slash_notMem_maskFirst _
      (slash_notMem_maskFirst _ (slash_notMem_maskFirst _ hslash))))
  have hne : nameSegments (pathSegments url) ≠ [] :=
    nameSegments_ne_nil (List.splitOn_ne_nil '/' _)
  rw [reportSegments, requestName_eq]
  exact List.splitOn_intercalate '/' hname hne

/-- A segment without a sigil stands at its position in the name, unless a core
ends an earlier one. -/
theorem reportSegments_getElem? {url : List Char} {k : Nat} {seg : List Char}
    (hk : (pathSegments url)[k]? = some seg) (hsigil : SigilFree seg)
    (hcore : NoneBefore EndsInCore k (pathSegments url)) :
    (reportSegments url)[k]? = some seg := by
  rw [reportSegments_eq]
  exact nameSegments_getElem? hk hsigil hcore

/-- Two URLs that differ in such a segment at one position are reported under
two names. -/
theorem requestName_separates {url1 url2 seg1 seg2 : List Char} {k : Nat}
    (h1 : (pathSegments url1)[k]? = some seg1)
    (h2 : (pathSegments url2)[k]? = some seg2)
    (hsigil1 : SigilFree seg1) (hsigil2 : SigilFree seg2) (hne : seg1 ≠ seg2)
    (hcore1 : NoneBefore EndsInCore k (pathSegments url1))
    (hcore2 : NoneBefore EndsInCore k (pathSegments url2)) :
    (reportSegments url1)[k]? = some seg1 ∧
      (reportSegments url2)[k]? = some seg2 ∧
      requestName url1 ≠ requestName url2 := by
  have hname1 := reportSegments_getElem? h1 hsigil1 hcore1
  have hname2 := reportSegments_getElem? h2 hsigil2 hcore2
  constructor
  · exact hname1
  · constructor
    · exact hname2
    · intro hEq
      rw [reportSegments, hEq] at hname1
      rw [reportSegments, hname1] at hname2
      exact hne (Option.some.inj hname2)

theorem requestName_separates_typing_join :
    let typing := "https://h/_matrix/client/r0/rooms/!a:h/typing/@u:h".toList
    let join := "https://h/_matrix/client/r0/rooms/!b:h/join?via=h".toList
    (reportSegments typing)[8]? = some "typing".toList ∧
      (reportSegments join)[8]? = some "join".toList ∧
      requestName typing ≠ requestName join := by
  apply requestName_separates
  · decide +kernel
  · decide +kernel
  · simp [SigilFree]
  · simp [SigilFree]
  · simp
  · unfold NoneBefore EndsInCore
    decide +kernel
  · unfold NoneBefore EndsInCore
    decide +kernel

end HttpClient
end MatrixGoose
