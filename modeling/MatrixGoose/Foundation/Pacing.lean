import Mathlib.Algebra.Order.Monoid.Defs
import Mathlib.Algebra.Order.Monoid.Unbundled.Basic
import Mathlib.Data.List.Basic

/-!
# Pacing

A loop that does some work in each round and then looks at the clock.  If the clock has
moved on by no more than a gap since it was last looked at, the loop waits for the gap.
What the clock showed is kept from before the wait, so that a round that does not wait may
follow directly on one that did, and only every other round is a gap apart.
-/

namespace Foundation

section Pacing

variable {Time : Type} [AddCommMonoid Time] [LinearOrder Time] {gap : Time}

/-- When a round is over at the earliest that looked at the clock at this time. -/
def resumeAt (gap : Time) (last : Option Time) (looked : Time) : Time :=
  match last with
  | some before => if looked <= before + gap then looked + gap else looked
  | none => looked

/-- The times at which the rounds from a time on completed their work, and those at which
they looked at the clock. -/
inductive Paced (gap : Time) : Option Time -> Time -> List Time -> List Time -> Prop
  | idle {last : Option Time} {t : Time} : Paced gap last t [] []
  | working {last : Option Time} {t completed : Time} (hcompleted : t <= completed) :
      Paced gap last t [completed] []
  | round {last : Option Time} {t completed looked : Time} {works looks : List Time}
      (hcompleted : t <= completed) (hlooked : completed <= looked)
      (hrest : Paced gap (some looked) (resumeAt gap last looked) works looks) :
      Paced gap last t (completed :: works) (looked :: looks)

theorem Paced.mono {last : Option Time} {t t' : Time} {works looks : List Time}
    (hle : t <= t') (hpaced : Paced gap last t' works looks) :
    Paced gap last t works looks := by
  cases hpaced with
  | idle => exact Paced.idle
  | working hcompleted => exact Paced.working (hle.trans hcompleted)
  | round hcompleted hlooked hrest =>
      exact Paced.round (hle.trans hcompleted) hlooked hrest

def ThirdsApart (gap : Time) (times : List Time) : Prop :=
  forall before a b c after, times = before ++ a :: b :: c :: after -> a + gap <= c

theorem thirdsApart_nil : ThirdsApart gap ([] : List Time) := by
  intro before a b c after hsplit
  cases before <;> cases hsplit

theorem ThirdsApart.cons {a : Time} {times : List Time}
    (hhead : forall b c after, times = b :: c :: after -> a + gap <= c)
    (htimes : ThirdsApart gap times) : ThirdsApart gap (a :: times) := by
  intro before x y z after hsplit
  cases before with
  | nil =>
      cases hsplit
      exact hhead y z after rfl
  | cons b before =>
      cases hsplit
      exact htimes before x y z after rfl

theorem ThirdsApart.tail {a : Time} {times : List Time}
    (hall : ThirdsApart gap (a :: times)) : ThirdsApart gap times := by
  intro before x y z after hsplit
  apply hall (a :: before) x y z after
  rw [hsplit]
  rfl

def countIn (times : List Time) (start length : Time) : Nat :=
  times.countP fun x => start <= x && x < start + length

theorem countIn_cons (x : Time) (times : List Time) (start length : Time) :
    countIn (x :: times) start length =
      countIn times start length + if start <= x ∧ x < start + length then 1 else 0 := by
  rw [countIn, List.countP_cons, countIn]
  simp

theorem countIn_eq_zero {times : List Time} {start length : Time}
    (hlate : forall x, x ∈ times -> start + length <= x) :
    countIn times start length = 0 := by
  apply List.countP_eq_zero.mpr
  intro x hx
  simp [not_lt.mpr (hlate x hx)]

theorem countIn_add_le (times : List Time) (start first second : Time) :
    countIn times start (first + second) <=
      countIn times start first + countIn times (start + first) second := by
  induction times with
  | nil => exact le_rfl
  | cons x rest ih =>
      rw [countIn_cons, countIn_cons, countIn_cons, ← add_assoc]
      by_cases hx : x < start + first
      · have hout : ¬ (start + first <= x ∧ x < start + first + second) :=
          fun h => not_lt.mpr h.1 hx
        rw [if_neg hout]
        split <;> split <;> simp_all <;> omega
      · have hin : start + first <= x := not_lt.mp hx
        have hout : ¬ (start <= x ∧ x < start + first) := fun h => hx h.2
        rw [if_neg hout]
        split <;> split <;> simp_all <;> omega

/-!
# Every other round a gap apart
-/

variable [IsOrderedAddMonoid Time]

theorem le_resumeAt (hgap : 0 <= gap) (last : Option Time) (looked : Time) :
    looked <= resumeAt gap last looked := by
  unfold resumeAt
  split
  · split
    · exact le_add_of_nonneg_right hgap
    · exact le_rfl
  · exact le_rfl

theorem add_le_resumeAt {before looked : Time} (hle : before <= looked) :
    before + gap <= resumeAt gap (some before) looked := by
  by_cases hshort : looked <= before + gap
  · rw [resumeAt, if_pos hshort]
    exact add_le_add_left hle gap
  · rw [resumeAt, if_neg hshort]
    exact (not_le.mp hshort).le

theorem Paced.time_le (hgap : 0 <= gap) {last : Option Time} {t : Time}
    {works looks : List Time} (hpaced : Paced gap last t works looks) :
    (forall x, x ∈ works -> t <= x) ∧ forall x, x ∈ looks -> t <= x := by
  induction hpaced with
  | idle => simp
  | working hcompleted => simpa using hcompleted
  | @round last _ _ looked _ _ hcompleted hlooked _ ih =>
      have hlook := hcompleted.trans hlooked
      have hresume := hlook.trans (le_resumeAt hgap last looked)
      constructor
      · intro x hx
        cases hx with
        | head => exact hcompleted
        | tail _ htail => exact hresume.trans (ih.1 x htail)
      · intro x hx
        cases hx with
        | head => exact hlook
        | tail _ htail => exact hresume.trans (ih.2 x htail)

theorem Paced.ascending (hgap : 0 <= gap) {last : Option Time} {t : Time}
    {works looks : List Time} (hpaced : Paced gap last t works looks) :
    works.Pairwise fun a b => a <= b := by
  induction hpaced with
  | idle => exact List.Pairwise.nil
  | working _ => exact List.pairwise_singleton _ _
  | @round last _ _ looked _ _ _ hlooked hrest ih =>
      refine List.Pairwise.cons ?_ ih
      intro x hx
      have hresume := (hrest.time_le hgap).1 x hx
      exact hlooked.trans ((le_resumeAt hgap last looked).trans hresume)

theorem Paced.works_apart (hgap : 0 <= gap) {last : Option Time} {t : Time}
    {works looks : List Time} (hpaced : Paced gap last t works looks) :
    ThirdsApart gap works := by
  induction hpaced with
  | idle => exact thirdsApart_nil
  | working _ => exact thirdsApart_nil.cons nofun
  | @round last _ completed looked _ _ _ hlooked hrest ih =>
      refine ih.cons ?_
      intro b c after hsplit
      subst hsplit
      cases hrest with
      | @round _ _ _ next _ _ hb hnext hlast =>
          have hlooks : looked <= next :=
            (le_resumeAt hgap last looked).trans (hb.trans hnext)
          calc completed + gap <= looked + gap := add_le_add_left hlooked gap
            _ <= resumeAt gap (some looked) next := add_le_resumeAt hlooks
            _ <= c := (hlast.time_le hgap).1 c List.mem_cons_self

theorem Paced.looks_apart (hgap : 0 <= gap) {last : Option Time} {t : Time}
    {works looks : List Time} (hpaced : Paced gap last t works looks) :
    ThirdsApart gap looks := by
  induction hpaced with
  | idle => exact thirdsApart_nil
  | working _ => exact thirdsApart_nil
  | @round last _ _ looked _ _ _ _ hrest ih =>
      refine ih.cons ?_
      intro b c after hsplit
      subst hsplit
      cases hrest with
      | round hb hnext hlast =>
          have hlooks : looked <= b := (le_resumeAt hgap last looked).trans (hb.trans hnext)
          calc looked + gap <= resumeAt gap (some looked) b := add_le_resumeAt hlooks
            _ <= c := (hlast.time_le hgap).2 c List.mem_cons_self

/-!
# Windows
-/

/-- A window as long as the gap holds at most two of the times. -/
theorem countIn_gap_le_two {times : List Time}
    (hascending : times.Pairwise fun a b => a <= b) (hapart : ThirdsApart gap times)
    (start : Time) : countIn times start gap <= 2 := by
  induction times with
  | nil => exact Nat.zero_le 2
  | cons a rest ih =>
      rcases List.pairwise_cons.mp hascending with ⟨_, hrest⟩
      rw [countIn_cons]
      by_cases hin : start <= a ∧ a < start + gap
      · rw [if_pos hin]
        cases rest with
        | nil => exact Nat.le_succ 1
        | cons b rest =>
            have hlate : forall x, x ∈ rest -> start + gap <= x := by
              cases rest with
              | nil => simp
              | cons c rest =>
                  have hc : start + gap <= c :=
                    (add_le_add_left hin.1 gap).trans (hapart [] a b c rest rfl)
                  have hafter := (List.pairwise_cons.mp hrest).2
                  have hle := (List.pairwise_cons.mp hafter).1
                  intro x hx
                  cases hx with
                  | head => exact hc
                  | tail _ htail => exact hc.trans (hle x htail)
            rw [countIn_cons, countIn_eq_zero hlate]
            split <;> omega
      · rw [if_neg hin]
        exact ih hrest hapart.tail

/-- A window of so many gaps holds at most twice as many of the times. -/
theorem countIn_nsmul_le {times : List Time}
    (hascending : times.Pairwise fun a b => a <= b) (hapart : ThirdsApart gap times)
    (start : Time) (n : Nat) : countIn times start (n • gap) <= 2 * n := by
  induction n generalizing start with
  | zero =>
      have hempty : countIn times start (0 • gap) = 0 := by
        apply List.countP_eq_zero.mpr
        intro x _
        simp
      exact hempty.le
  | succ n ih =>
      have hfirst := countIn_gap_le_two hascending hapart start
      have hrest := ih (start + gap)
      have hsplit := countIn_add_le times start gap (n • gap)
      rw [succ_nsmul']
      omega

end Pacing

end Foundation
