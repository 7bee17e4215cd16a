import Mathlib.Data.List.Nodup
import Mathlib.Data.List.Range
import MatrixGoose.Foundation.Log

/-!
# Chains of pages

A server hands out a fixed chain of pages.  Every page but the last one ends with a
token, and a request that carries this token gets the page after it.  A client that
always goes on from the last token it was given walks the chain once and then stays at
its end.
-/

namespace Foundation

namespace PageChain

variable {Token : Type}

/-- The page a request gets; a token that ends no page gets none. -/
def pageAfter [DecidableEq Token] (tokens : List Token) : Option Token -> Option Nat
  | none => some 0
  | some token => if token ∈ tokens then some (tokens.idxOf token + 1) else none

/-- An answer of the server, as the token of the request and that of the page. -/
def Serves [DecidableEq Token] (tokens : List Token)
    (answer : Option Token × Option Token) : Prop :=
  exists page, pageAfter tokens answer.1 = some page ∧ answer.2 = tokens[page]?

def lastEnd (answers : List (Option Token × Option Token)) : Option Token :=
  (answers.filterMap Prod.snd).getLast?

def Continues (before : List (Option Token × Option Token))
    (answer : Option Token × Option Token) : Prop :=
  answer.1 = lastEnd before

theorem lastEnd_append_none (answers : List (Option Token × Option Token))
    (token : Option Token) : lastEnd (answers ++ [(token, none)]) = lastEnd answers := by
  rw [lastEnd, List.filterMap_append]
  simp [lastEnd]

theorem lastEnd_append_some (answers : List (Option Token × Option Token))
    (token : Option Token) (next : Token) :
    lastEnd (answers ++ [(token, some next)]) = some next := by
  rw [lastEnd, List.filterMap_append]
  simp

section Walk

variable [DecidableEq Token]

theorem pageAfter_getElem {tokens : List Token} (hnodup : tokens.Nodup) {page : Nat}
    (hlt : page < tokens.length) : pageAfter tokens (some tokens[page]) = some (page + 1) := by
  rw [pageAfter, if_pos (List.getElem_mem hlt), hnodup.idxOf_getElem page hlt]

/-- The client is at the page that follows as many pages as it got, or at the last
one. -/
theorem pageAfter_lastEnd {tokens : List Token} (hnodup : tokens.Nodup)
    {answers : List (Option Token × Option Token)} (hcontinues : EachEntry Continues answers)
    (hserves : forall answer, answer ∈ answers -> Serves tokens answer) :
    pageAfter tokens (lastEnd answers) = some (min answers.length tokens.length) := by
  induction answers using List.reverseRecOn with
  | nil =>
      rw [List.length_nil, Nat.zero_min]
      rfl
  | append_singleton answers answer ih =>
      rcases eachEntry_append_singleton.mp hcontinues with ⟨hbefore, hcontinue⟩
      have hpage := ih hbefore fun other hother => hserves other (by simp [hother])
      rcases hserves answer (by simp) with ⟨page, hpageAnswer, hend⟩
      rcases answer with ⟨token, next⟩
      simp only [Continues] at hcontinue
      simp only at hpageAnswer hend
      subst hcontinue
      rw [hpage] at hpageAnswer
      cases hpageAnswer
      rw [List.length_append, List.length_singleton]
      by_cases hlt : answers.length < tokens.length
      · have hmin : min answers.length tokens.length = answers.length := by omega
        rw [hmin, List.getElem?_eq_getElem hlt] at hend
        rw [hend, lastEnd_append_some, pageAfter_getElem hnodup hlt]
        congr 1
        omega
      · have hmin : min answers.length tokens.length = tokens.length := by omega
        rw [hmin, List.getElem?_eq_none (Nat.le_refl _)] at hend
        rw [hend, lastEnd_append_none, hpage, hmin]
        congr 1
        omega

/-- The pages are consecutive from the first one, and only the last one repeats. -/
theorem pages_eq {tokens : List Token} (hnodup : tokens.Nodup)
    {answers : List (Option Token × Option Token)} (hcontinues : EachEntry Continues answers)
    (hserves : forall answer, answer ∈ answers -> Serves tokens answer) :
    answers.map (fun answer => pageAfter tokens answer.1) =
      (List.range answers.length).map fun i => some (min i tokens.length) := by
  induction answers using List.reverseRecOn with
  | nil => rfl
  | append_singleton answers answer ih =>
      rcases eachEntry_append_singleton.mp hcontinues with ⟨hbefore, hcontinue⟩
      have hbeforeServes : forall other, other ∈ answers -> Serves tokens other :=
        fun other hother => hserves other (by simp [hother])
      have hpage := pageAfter_lastEnd hnodup hbefore hbeforeServes
      rw [← hcontinue] at hpage
      rw [List.map_append, ih hbefore hbeforeServes, List.length_append,
        List.length_singleton, List.range_succ, List.map_append, List.map_singleton, hpage]
      rfl

end Walk

end PageChain

end Foundation
