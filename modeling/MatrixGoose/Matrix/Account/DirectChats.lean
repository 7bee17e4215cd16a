import Mathlib.Data.List.Nodup
import MatrixGoose.Foundation.MultiMap
import MatrixGoose.Foundation.TransitionSystem
import MatrixGoose.Matrix.EventHandler.Maps

/-!
# Direct chats

The account data `m.direct` lists for each user the rooms that are direct chats with it.
Creating a direct chat and marking a room as direct add to these lists, unmarking a room
takes it out of all of them.
-/

namespace MatrixGoose

open Foundation

namespace Account

open EventHandler

abbrev DirectEventContent := MultiMap String RoomId

def markAsDm (content : DirectEventContent) (roomId : RoomId) (userIds : List String) :
    DirectEventContent :=
  userIds.foldl (fun content userId => content.push userId roomId) content

def addDirect (roomId : RoomId) (content : DirectEventContent) (userId : String) :
    DirectEventContent :=
  if (content.values userId).any fun other => other == roomId then content
  else content.push userId roomId

/-- Take a room out of all lists, and remove the users whose lists are empty. -/
def removeDirect (roomId : RoomId) (content : DirectEventContent) : DirectEventContent :=
  fun userId =>
    match content userId with
    | some list =>
        let list := list.filter fun other => other != roomId
        if list.isEmpty then none else some list
    | none => none

def setIsDirect (ownUserId : String) (content : DirectEventContent) (roomId : RoomId)
    (isDirect : Bool) (activeMembers : List String) : DirectEventContent :=
  if isDirect then
    let roomMembers := activeMembers.filter fun member => member != ownUserId
    roomMembers.foldl (addDirect roomId) content
  else removeDirect roomId content

def createRoom (content : DirectEventContent) (isDirect : Bool) (invite : List String)
    (roomId : RoomId) : DirectEventContent :=
  if isDirect && !invite.isEmpty then markAsDm content roomId invite else content

inductive DirectAction
  | createRoom (isDirect : Bool) (invite : List String) (roomId : RoomId)
  | setIsDirect (roomId : RoomId) (isDirect : Bool) (activeMembers : List String)

def directStep (ownUserId : String) (content : DirectEventContent) :
    DirectAction -> Option DirectEventContent
  | DirectAction.createRoom isDirect invite roomId =>
      some (createRoom content isDirect invite roomId)
  | DirectAction.setIsDirect roomId isDirect activeMembers =>
      some (setIsDirect ownUserId content roomId isDirect activeMembers)

/-- The operations of a client whose store has the content of the server whenever one of
them begins.  An operation that fails changes nothing and is left out. -/
def directChats (ownUserId : String) (initial : DirectEventContent) :
    TransitionSystem DirectEventContent DirectAction where
  init := initial
  step := directStep ownUserId

def NoRoomTwice (content : DirectEventContent) : Prop :=
  forall userId, (content.values userId).Nodup

/-- A direct chat is created with different users, and is new to their lists. -/
def InvitesOnce (content : DirectEventContent) (a : DirectAction) : Prop :=
  forall invite roomId, a = DirectAction.createRoom true invite roomId ->
    invite.Nodup ∧ forall userId, userId ∈ invite -> roomId ∉ content.values userId

/-!
# The lists after an operation
-/

theorem values_markAsDm (content : DirectEventContent) (roomId : RoomId)
    (userIds : List String) (userId : String) :
    (markAsDm content roomId userIds).values userId =
      content.values userId ++ List.replicate (userIds.count userId) roomId := by
  induction userIds generalizing content with
  | nil => simp [markAsDm]
  | cons first rest ih =>
      have hrest := ih (content.push first roomId)
      rw [markAsDm, List.foldl_cons]
      rw [markAsDm] at hrest
      rw [hrest, MultiMap.values_push]
      by_cases hsame : userId = first
      · subst hsame
        rw [if_pos rfl, List.count_cons_self, List.replicate_succ, List.append_assoc,
          List.singleton_append]
      · rw [if_neg hsame, List.count_cons_of_ne (Ne.symm hsame)]

theorem nodup_append_replicate {rooms : List RoomId} (hrooms : rooms.Nodup)
    (roomId : RoomId) (n : Nat) :
    (rooms ++ List.replicate n roomId).Nodup <-> n <= 1 ∧ (0 < n -> roomId ∉ rooms) := by
  rw [List.nodup_append, List.nodup_replicate]
  constructor
  · intro h
    refine ⟨h.2.1, ?_⟩
    intro hpos hmem
    exact h.2.2 roomId hmem roomId (List.mem_replicate.mpr ⟨Nat.ne_of_gt hpos, rfl⟩) rfl
  · intro h
    refine ⟨hrooms, h.1, ?_⟩
    intro other hother new hnew heq
    rcases List.mem_replicate.mp hnew with ⟨hne, rfl⟩
    subst heq
    exact h.2 (Nat.pos_of_ne_zero hne) hother

theorem noRoomTwice_markAsDm {content : DirectEventContent}
    (hcontent : NoRoomTwice content) (roomId : RoomId) (userIds : List String) :
    NoRoomTwice (markAsDm content roomId userIds) <->
      userIds.Nodup ∧
        forall userId, userId ∈ userIds -> roomId ∉ content.values userId := by
  have heach : NoRoomTwice (markAsDm content roomId userIds) <-> forall userId,
      userIds.count userId <= 1 ∧
        (0 < userIds.count userId -> roomId ∉ content.values userId) := by
    apply forall_congr'
    intro userId
    rw [values_markAsDm, nodup_append_replicate (hcontent userId)]
  simp only [heach, List.nodup_iff_count_le_one, List.count_pos_iff, forall_and]

theorem noRoomTwice_addDirect {content : DirectEventContent}
    (hcontent : NoRoomTwice content) (roomId : RoomId) (userId : String) :
    NoRoomTwice (addDirect roomId content userId) := by
  unfold addDirect
  split
  · exact hcontent
  · next hnew =>
      apply (noRoomTwice_markAsDm hcontent roomId [userId]).mpr
      refine ⟨List.nodup_singleton userId, ?_⟩
      intro other hother hmem
      rw [List.mem_singleton] at hother
      subst hother
      exact hnew (List.any_eq_true.mpr ⟨roomId, hmem, by simp⟩)

theorem values_removeDirect (roomId : RoomId) (content : DirectEventContent)
    (userId : String) :
    (removeDirect roomId content).values userId =
      (content.values userId).filter fun other => other != roomId := by
  unfold MultiMap.values removeDirect
  cases content userId with
  | none => rfl
  | some list =>
      by_cases hempty : list.filter (fun other => other != roomId) = []
      · simp [hempty]
      · simp [hempty]

theorem noRoomTwice_setIsDirect {content : DirectEventContent}
    (hcontent : NoRoomTwice content) (ownUserId : String) (roomId : RoomId)
    (isDirect : Bool) (activeMembers : List String) :
    NoRoomTwice (setIsDirect ownUserId content roomId isDirect activeMembers) := by
  cases isDirect with
  | true =>
      show NoRoomTwice ((activeMembers.filter _).foldl (addDirect roomId) content)
      generalize activeMembers.filter _ = members
      induction members generalizing content with
      | nil => exact hcontent
      | cons member rest ih => exact ih (noRoomTwice_addDirect hcontent roomId member)
  | false =>
      intro userId
      show ((removeDirect roomId content).values userId).Nodup
      rw [values_removeDirect]
      exact (hcontent userId).filter _

/-- One operation keeps the lists free of repetitions exactly if it creates no direct
chat with a user twice, and none that is listed already. -/
theorem noRoomTwice_step {ownUserId : String} {content content' : DirectEventContent}
    {a : DirectAction} (hcontent : NoRoomTwice content)
    (hstep : directStep ownUserId content a = some content') :
    NoRoomTwice content' <-> InvitesOnce content a := by
  cases a with
  | setIsDirect roomId isDirect activeMembers =>
      cases hstep
      exact iff_of_true (noRoomTwice_setIsDirect hcontent _ _ _ _) nofun
  | createRoom isDirect invite roomId =>
      cases hstep
      cases isDirect with
      | false => exact iff_of_true hcontent nofun
      | true =>
          have hcreate : createRoom content true invite roomId =
              markAsDm content roomId invite := by
            cases invite with
            | nil => rfl
            | cons first rest => rfl
          rw [hcreate, noRoomTwice_markAsDm hcontent]
          simp [InvitesOnce]

/-!
# Runs
-/

theorem directStep_total (ownUserId : String) (content : DirectEventContent)
    (a : DirectAction) : exists content', directStep ownUserId content a = some content' := by
  cases a <;> exact ⟨_, rfl⟩

/-- No list ever has a room twice exactly if every direct chat is created with different
users that do not have it yet. -/
theorem neverTwice_iff {ownUserId : String} {initial : DirectEventContent}
    (hinitial : NoRoomTwice initial) (actions : List DirectAction) :
    (directChats ownUserId initial).AllStates NoRoomTwice initial actions <->
      (directChats ownUserId initial).AllSteps InvitesOnce initial actions := by
  rcases (directChats ownUserId initial).exists_runFrom_of_total
    (directStep_total ownUserId) initial actions with ⟨s, hrun⟩
  exact TransitionSystem.allStates_iff_allSteps (I := fun _ => True)
    (fun _ _ _ _ _ => True.intro)
    (fun _ _ _ _ hcontent hstep => noRoomTwice_step hcontent hstep)
    True.intro hinitial hrun

/-- A direct chat with two users, which is then marked and unmarked as direct. -/
theorem neverTwice_iff_two_users :
    (directChats "@me:x" MultiMap.empty).AllStates NoRoomTwice MultiMap.empty
      [.createRoom true ["@a:x", "@b:x"] "!r:x", .setIsDirect "!r:x" true ["@me:x", "@a:x"],
        .setIsDirect "!r:x" false []] := by
  apply (neverTwice_iff (fun _ => by simp) _).mpr
  refine ⟨?_, fun _ _ => ⟨nofun, fun _ _ => ⟨nofun, fun _ _ => True.intro⟩⟩⟩
  intro invite roomId hcreate
  cases hcreate
  exact ⟨by decide, fun _ _ => List.not_mem_nil⟩

/-- A direct chat with a user that is invited twice. -/
theorem invited_twice_listed_twice :
    exists content, (directChats "@me:x" MultiMap.empty).run
        [.createRoom true ["@a:x", "@a:x"] "!r:x"] = some content ∧
      content.values "@a:x" = ["!r:x", "!r:x"] ∧ ¬ NoRoomTwice content := by
  refine ⟨_, rfl, rfl, ?_⟩
  intro hnodup
  have hlist : ["!r:x", "!r:x"].Nodup := hnodup "@a:x"
  exact absurd hlist (by decide)

end Account
end MatrixGoose
