import Mathlib.Data.List.TakeWhile
import MatrixGoose.Foundation.Segments

/-!
# Request names in the Goose report

`HttpSend::send_request` reports every request under a name derived from its
URL by six rewrites of one string, each applied to the first match only.  The
rewrites are stated here on lists of characters as the code makes them; the
second half of the module shows what they do to the segments between slashes.
-/

namespace MatrixGoose
namespace HttpClient

open Foundation

/-- The block the fifth rewrite looks for, without its closing slash. -/
def roomMessageCore : List Char := "m.room.message".toList

/-- The block the sixth rewrite looks for, without its closing slash. -/
def reactionCore : List Char := "m.reaction".toList

/-- `if let Some(index) = name.find('?') { name.truncate(index) }` -/
def truncateQuery (name : List Char) : List Char :=
  match FirstMatch.find '?' name with
  | some index => name.take index
  | none => name

/-- The rewrite made in turn for `!`, `@` and `$`: everything from the first
sigil up to the next slash, or to the end, becomes one underscore. -/
def maskSigil (sigil : Char) (name : List Char) : List Char :=
  match FirstMatch.find sigil name with
  | some index =>
      let first := name.take index
      let last := name.drop index
      match FirstMatch.find '/' last with
      | some index => first ++ '_' :: last.drop index
      | none => first ++ ['_']
  | none => name

/-- The rewrite made for `m.room.message/` and `m.reaction/`: everything behind
the first occurrence of the block becomes one underscore. -/
def truncateBlock (block name : List Char) : List Char :=
  match FirstMatch.findBlock block name with
  | some index => name.take (index + block.length) ++ ['_']
  | none => name

def requestName (url : List Char) : List Char :=
  let name := truncateQuery url
  let name := maskSigil '!' name
  let name := maskSigil '@' name
  let name := maskSigil '$' name
  let name := truncateBlock (roomMessageCore ++ ['/']) name
  truncateBlock (reactionCore ++ ['/']) name

/-!
# The rewrites on segments

Between slashes the same six rewrites are local: masking cuts one segment
short, and a block rewrite keeps the segments up to the one its core closes.
-/

def maskFirst (sigil : Char) : List (List Char) -> List (List Char)
  | [] => []
  | seg :: rest =>
      if sigil ∈ seg then (seg.takeWhile (· ≠ sigil) ++ ['_']) :: rest
      else seg :: maskFirst sigil rest

/-- Keep the segments up to the first one that ends in the core and is followed
by another, and put an underscore for the rest. -/
def cutAfter (core : List Char) : List (List Char) -> List (List Char)
  | [] => []
  | [seg] => [seg]
  | seg :: next :: rest =>
      if core <:+ seg then [seg, ['_']] else seg :: cutAfter core (next :: rest)

def nameSegments (segs : List (List Char)) : List (List Char) :=
  cutAfter reactionCore (cutAfter roomMessageCore
    (maskFirst '$' (maskFirst '@' (maskFirst '!' segs))))

theorem truncateQuery_of_notMem {name : List Char} (h : '?' ∉ name) :
    truncateQuery name = name := by
  rw [truncateQuery, FirstMatch.find_eq_none.mpr h]

theorem truncateQuery_append {path : List Char} (query : List Char)
    (h : '?' ∉ path) : truncateQuery (path ++ '?' :: query) = path := by
  rw [truncateQuery, FirstMatch.find_append_cons query h]
  simp

theorem maskSigil_of_notMem {sigil : Char} {name : List Char}
    (h : sigil ∉ name) : maskSigil sigil name = name := by
  rw [maskSigil, FirstMatch.find_eq_none.mpr h]

theorem maskSigil_append_cons {sigil : Char} {before : List Char}
    (after : List Char) (hslash : sigil ≠ '/') (h : sigil ∉ before) :
    maskSigil sigil (before ++ sigil :: after) =
      before ++ '_' :: after.dropWhile (· ≠ '/') := by
  rw [maskSigil, FirstMatch.find_append_cons after h]
  dsimp only
  rw [List.take_left, List.drop_left]
  rcases FirstMatch.split_first '/' after with hnone | ⟨seg, rest, hseg, hafter⟩
  · have hlast : FirstMatch.find '/' (sigil :: after) = none :=
      FirstMatch.find_eq_none.mpr (by simp [hnone, Ne.symm hslash])
    have hdrop : after.dropWhile (· ≠ '/') = [] := by
      rw [List.dropWhile_eq_nil_iff]
      intro c hc
      have hcSlash : c ≠ '/' := fun hEq => hnone (hEq ▸ hc)
      simpa using hcSlash
    rw [hlast, hdrop]
  · have hnot : '/' ∉ sigil :: seg := by
      simp [hseg, Ne.symm hslash]
    have hlast : FirstMatch.find '/' (sigil :: after) = some (seg.length + 1) := by
      rw [hafter, ← List.cons_append]
      simpa using FirstMatch.find_append_cons rest hnot
    have hdrop : after.dropWhile (· ≠ '/') = '/' :: rest := by
      rw [hafter, List.dropWhile_append_of_pos]
      · simp
      · intro c hc
        have hcSlash : c ≠ '/' := fun hEq => hseg (hEq ▸ hc)
        simpa using hcSlash
    rw [hlast, hdrop, hafter]
    simp

theorem maskSigil_append {sigil : Char} {before : List Char}
    (after : List Char) (hslash : sigil ≠ '/') (h : sigil ∉ before) :
    maskSigil sigil (before ++ after) = before ++ maskSigil sigil after := by
  rcases FirstMatch.split_first sigil after with hnone | ⟨front, back, hfront, hafter⟩
  · rw [maskSigil_of_notMem hnone, maskSigil_of_notMem (by simp [h, hnone])]
  · rw [hafter, ← List.append_assoc,
      maskSigil_append_cons back hslash (by simp [h, hfront]),
      maskSigil_append_cons back hslash hfront, List.append_assoc]

theorem takeWhile_append_cons {sigil : Char} {before : List Char}
    (after : List Char) (h : sigil ∉ before) :
    (before ++ sigil :: after).takeWhile (· ≠ sigil) = before := by
  rw [List.takeWhile_append_of_pos]
  · simp
  · intro c hc
    have hne : c ≠ sigil := fun hEq => h (hEq ▸ hc)
    simpa using hne

theorem maskSigil_intercalate {sigil : Char} {segs : List (List Char)}
    (hslash : sigil ≠ '/') (hsegs : forall seg, seg ∈ segs -> '/' ∉ seg) :
    maskSigil sigil (['/'].intercalate segs) =
      ['/'].intercalate (maskFirst sigil segs) := by
  induction segs with
  | nil => rfl
  | cons seg rest ih =>
      have hseg : '/' ∉ seg := hsegs seg (List.mem_cons_self ..)
      have hrest := ih (fun other hother =>
        hsegs other (List.mem_cons_of_mem seg hother))
      rcases FirstMatch.split_first sigil seg with hnone | ⟨front, back, hfront, hEq⟩
      · rw [maskFirst, if_neg hnone]
        cases rest with
        | nil =>
            simp only [List.intercalate_singleton, maskFirst]
            exact maskSigil_of_notMem hnone
        | cons next tail =>
            have hne : maskFirst sigil (next :: tail) ≠ [] := by
              rw [maskFirst]
              split <;> simp
            rw [List.intercalate_cons_cons,
              maskSigil_append _ hslash (by simp [hnone, hslash]), hrest,
              List.intercalate_cons_of_ne_nil hne]
      · have hmem : sigil ∈ seg := by simp [hEq]
        have hback : '/' ∉ back := by
          intro hmem'
          exact hseg (by simp [hEq, hmem'])
        have hdropAll : forall c, c ∈ back -> decide (c ≠ '/') = true := by
          intro c hc
          have hne : c ≠ '/' := fun hcEq => hback (hcEq ▸ hc)
          simpa using hne
        rw [maskFirst, if_pos hmem]
        cases rest with
        | nil =>
            rw [List.intercalate_singleton, List.intercalate_singleton, hEq,
              maskSigil_append_cons back hslash hfront,
              takeWhile_append_cons back hfront,
              List.dropWhile_eq_nil_iff.mpr hdropAll]
        | cons next tail =>
            rw [List.intercalate_cons_cons, List.intercalate_cons_cons, hEq,
              takeWhile_append_cons back hfront]
            rw [show front ++ sigil :: back ++ ['/'] ++ ['/'].intercalate (next :: tail) =
                front ++ sigil :: (back ++ '/' :: ['/'].intercalate (next :: tail)) by
              simp]
            rw [maskSigil_append_cons _ hslash hfront,
              List.dropWhile_append_of_pos hdropAll]
            simp

theorem maskFirst_ne_nil (sigil : Char) {segs : List (List Char)}
    (h : segs ≠ []) : maskFirst sigil segs ≠ [] := by
  cases segs with
  | nil => exact absurd rfl h
  | cons seg rest =>
      rw [maskFirst]
      split <;> simp

theorem cutAfter_ne_nil {core : List Char} {segs : List (List Char)}
    (h : segs ≠ []) : cutAfter core segs ≠ [] := by
  cases segs with
  | nil => exact absurd rfl h
  | cons seg rest =>
      cases rest with
      | nil => simp [cutAfter]
      | cons next tail =>
          rw [cutAfter]
          split <;> simp

theorem truncateBlock_intercalate {core : List Char} {segs : List (List Char)}
    (hcore : '/' ∉ core) (hsegs : forall seg, seg ∈ segs -> '/' ∉ seg) :
    truncateBlock (core ++ ['/']) (['/'].intercalate segs) =
      ['/'].intercalate (cutAfter core segs) := by
  induction segs with
  | nil => simp [truncateBlock, FirstMatch.findBlock, cutAfter]
  | cons seg rest ih =>
      have hseg : '/' ∉ seg := hsegs seg (List.mem_cons_self ..)
      have hrest := ih (fun other hother =>
        hsegs other (List.mem_cons_of_mem seg hother))
      cases rest with
      | nil =>
          have hnone : FirstMatch.findBlock (core ++ ['/']) seg = none := by
            apply FirstMatch.findBlock_eq_none.mpr
            intro hblock
            exact hseg (hblock.mem (by simp))
          simp [truncateBlock, cutAfter, hnone]
      | cons next tail =>
          rw [List.intercalate_cons_cons, cutAfter]
          by_cases hsuffix : core <:+ seg
          · rcases hsuffix with ⟨front, hfront⟩
            have hfind := FirstMatch.findBlock_append_core core front '/'
              (['/'].intercalate (next :: tail)) (by rw [hfront]; exact hseg)
            rw [if_pos ⟨front, hfront⟩, truncateBlock]
            rw [show seg ++ ['/'] ++ ['/'].intercalate (next :: tail) =
                front ++ core ++ '/' :: ['/'].intercalate (next :: tail) by
              rw [hfront]
              simp]
            rw [hfind]
            dsimp only
            rw [List.intercalate_cons_cons, List.intercalate_singleton, ← hfront]
            rw [show front ++ core ++ '/' :: ['/'].intercalate (next :: tail) =
                (front ++ (core ++ ['/'])) ++ ['/'].intercalate (next :: tail) by
              simp]
            rw [show front.length + (core ++ ['/']).length =
                (front ++ (core ++ ['/'])).length by simp]
            rw [List.take_left]
            simp
          · have hblock : ¬ core ++ ['/'] <:+: seg ++ ['/'] := by
              rw [FirstMatch.infix_append_sep_iff]
              intro h
              rcases h with h | h
              · exact hsuffix h
              · exact hseg (h.mem (by simp))
            have hfind := FirstMatch.findBlock_append_sep
              (['/'].intercalate (next :: tail)) hcore hblock
            rw [if_neg hsuffix, List.intercalate_cons_of_ne_nil
              (cutAfter_ne_nil (by simp)), ← hrest, truncateBlock, truncateBlock]
            rw [show seg ++ ['/'] ++ ['/'].intercalate (next :: tail) =
                seg ++ '/' :: ['/'].intercalate (next :: tail) by simp]
            rw [hfind]
            cases hnext : FirstMatch.findBlock (core ++ ['/'])
                (['/'].intercalate (next :: tail)) with
            | none => simp
            | some index =>
                dsimp only [Option.map_some]
                rw [show index + (seg.length + 1) + (core ++ ['/']).length =
                    (seg ++ ['/']).length + (index + (core ++ ['/']).length) by
                  simp
                  omega]
                rw [show seg ++ '/' :: ['/'].intercalate (next :: tail) =
                    (seg ++ ['/']) ++ ['/'].intercalate (next :: tail) by simp]
                rw [List.take_length_add_append]
                simp

theorem nameSegments_ne_nil {segs : List (List Char)} (h : segs ≠ []) :
    nameSegments segs ≠ [] := by
  unfold nameSegments
  exact cutAfter_ne_nil (cutAfter_ne_nil
    (maskFirst_ne_nil _ (maskFirst_ne_nil _ (maskFirst_ne_nil _ h))))

theorem slash_notMem_maskFirst (sigil : Char) {segs : List (List Char)}
    (hsegs : forall seg, seg ∈ segs -> '/' ∉ seg) :
    forall seg, seg ∈ maskFirst sigil segs -> '/' ∉ seg := by
  induction segs with
  | nil =>
      intro seg hseg
      cases hseg
  | cons first rest ih =>
      intro seg hseg
      rw [maskFirst] at hseg
      split at hseg
      · rcases List.mem_cons.mp hseg with hfirst | hrest
        · intro hslash
          rw [hfirst] at hslash
          rcases List.mem_append.mp hslash with htake | hunder
          · exact hsegs first (List.mem_cons_self ..)
              ((List.takeWhile_prefix _).mem htake)
          · simp at hunder
        · exact hsegs seg (List.mem_cons_of_mem first hrest)
      · rcases List.mem_cons.mp hseg with hfirst | hrest
        · rw [hfirst]
          exact hsegs first (List.mem_cons_self ..)
        · exact ih (fun other hother =>
            hsegs other (List.mem_cons_of_mem first hother)) seg hrest

theorem slash_notMem_cutAfter (core : List Char) {segs : List (List Char)}
    (hsegs : forall seg, seg ∈ segs -> '/' ∉ seg) :
    forall seg, seg ∈ cutAfter core segs -> '/' ∉ seg := by
  induction segs with
  | nil =>
      intro seg hseg
      cases hseg
  | cons first rest ih =>
      cases rest with
      | nil => simpa [cutAfter] using hsegs
      | cons next tail =>
          intro seg hseg
          rw [cutAfter] at hseg
          split at hseg
          · rcases List.mem_cons.mp hseg with hfirst | hunder
            · rw [hfirst]
              exact hsegs first (List.mem_cons_self ..)
            · simp [List.mem_singleton.mp hunder]
          · rcases List.mem_cons.mp hseg with hfirst | hrest
            · rw [hfirst]
              exact hsegs first (List.mem_cons_self ..)
            · exact ih (fun other hother =>
                hsegs other (List.mem_cons_of_mem first hother)) seg hrest

/-- The six string rewrites of a path and query act segment by segment. -/
theorem requestName_intercalate {segs : List (List Char)} {url : List Char}
    (hurl : truncateQuery url = ['/'].intercalate segs)
    (hsegs : forall seg, seg ∈ segs -> '/' ∉ seg) :
    requestName url = ['/'].intercalate (nameSegments segs) := by
  have hbang := slash_notMem_maskFirst '!' hsegs
  have hat := slash_notMem_maskFirst '@' hbang
  have hdollar := slash_notMem_maskFirst '$' hat
  have hmessage := slash_notMem_cutAfter roomMessageCore hdollar
  have hmessageCore : '/' ∉ roomMessageCore := by decide
  have hreactionCore : '/' ∉ reactionCore := by decide
  unfold requestName nameSegments
  dsimp only
  rw [hurl, maskSigil_intercalate (by decide) hsegs,
    maskSigil_intercalate (by decide) hbang,
    maskSigil_intercalate (by decide) hat,
    truncateBlock_intercalate hmessageCore hdollar,
    truncateBlock_intercalate hreactionCore hmessage]

theorem requestName_eq (url : List Char) :
    requestName url =
      ['/'].intercalate (nameSegments ((truncateQuery url).splitOn '/')) := by
  apply requestName_intercalate
  · exact (List.intercalate_splitOn '/').symm
  · intro seg hseg
    exact Segments.sep_notMem_of_mem_splitOn hseg

end HttpClient
end MatrixGoose
