import MatrixGoose.Matrix.Account.DirectChats

/-!
# Laws of marking a room as direct

Marking works on the entries of the members, one after the other and each as if
it were alone; unmarking works on all entries at once.  From what one operation
makes of the entry of one user follow the laws of repeating and combining them.
-/

namespace MatrixGoose

open Foundation

namespace Account

open EventHandler

/-- A list of rooms with the room in it, at its end if it is new. -/
def withRoom (roomId : RoomId) (rooms : List RoomId) : List RoomId :=
  if roomId ∈ rooms then rooms else rooms ++ [roomId]

/-- The members whose lists `set_is_direct` works on. -/
def IsOtherMember (ownUserId : String) (activeMembers : List String)
    (userId : String) : Prop :=
  userId ∈ activeMembers ∧ userId ≠ ownUserId

instance (ownUserId : String) (activeMembers : List String) (userId : String) :
    Decidable (IsOtherMember ownUserId activeMembers userId) :=
  inferInstanceAs (Decidable (_ ∧ _))

theorem mem_withRoom (roomId : RoomId) (rooms : List RoomId) :
    roomId ∈ withRoom roomId rooms := by
  unfold withRoom
  split
  · assumption
  · simp

theorem mem_withRoom_of_ne {roomId other : RoomId} (rooms : List RoomId)
    (h : other ≠ roomId) : other ∈ withRoom roomId rooms <-> other ∈ rooms := by
  unfold withRoom
  split
  · rfl
  · simp [h]

theorem withRoom_withRoom (roomId : RoomId) (rooms : List RoomId) :
    withRoom roomId (withRoom roomId rooms) = withRoom roomId rooms := by
  rw [withRoom, if_pos (mem_withRoom roomId rooms)]

theorem filter_withRoom (roomId : RoomId) (rooms : List RoomId) :
    (withRoom roomId rooms).filter (fun other => other != roomId) =
      rooms.filter fun other => other != roomId := by
  unfold withRoom
  split
  · rfl
  · simp

/-!
# The entry of one user
-/

theorem addDirect_apply (roomId : RoomId) (content : DirectEventContent)
    (member userId : String) :
    addDirect roomId content member userId =
      if userId = member then some (withRoom roomId (content.values userId))
      else content userId := by
  have hany : ((content.values member).any fun other => other == roomId) = true <->
      roomId ∈ content.values member := by
    simp
  unfold addDirect
  by_cases hmem : roomId ∈ content.values member
  · rw [if_pos (hany.mpr hmem)]
    by_cases huser : userId = member
    · subst huser
      rw [if_pos rfl, withRoom, if_pos hmem]
      cases hentry : content userId with
      | none =>
          rw [MultiMap.values_of_eq_none hentry] at hmem
          cases hmem
      | some list => rw [MultiMap.values_of_eq_some hentry]
    · rw [if_neg huser]
  · rw [if_neg (fun h => hmem (hany.mp h)), MultiMap.push]
    by_cases huser : userId = member
    · subst huser
      rw [if_pos rfl, Function.update_self, withRoom, if_neg hmem]
    · rw [if_neg huser, Function.update_of_ne huser]

theorem foldl_addDirect_apply (roomId : RoomId) (content : DirectEventContent)
    (members : List String) (userId : String) :
    members.foldl (addDirect roomId) content userId =
      if userId ∈ members then some (withRoom roomId (content.values userId))
      else content userId := by
  induction members generalizing content with
  | nil => simp
  | cons member rest ih =>
      have hentry := addDirect_apply roomId content member userId
      rw [List.foldl_cons, ih]
      by_cases hmember : userId = member
      · rw [if_pos hmember] at hentry
        rw [MultiMap.values_of_eq_some hentry, withRoom_withRoom, hentry, ite_self,
          if_pos (by simp [hmember])]
      · rw [if_neg hmember] at hentry
        have hvalues : (addDirect roomId content member).values userId =
            content.values userId := by
          rw [MultiMap.values, MultiMap.values, hentry]
        rw [hvalues, hentry]
        simp [hmember]

theorem setIsDirect_true_apply (ownUserId : String) (content : DirectEventContent)
    (roomId : RoomId) (activeMembers : List String) (userId : String) :
    setIsDirect ownUserId content roomId true activeMembers userId =
      if IsOtherMember ownUserId activeMembers userId then
        some (withRoom roomId (content.values userId))
      else content userId := by
  have hmem : userId ∈ activeMembers.filter (fun member => member != ownUserId) <->
      IsOtherMember ownUserId activeMembers userId := by
    simp [IsOtherMember]
  rw [setIsDirect, if_pos rfl, foldl_addDirect_apply]
  simp only [hmem]

theorem values_setIsDirect_true (ownUserId : String) (content : DirectEventContent)
    (roomId : RoomId) (activeMembers : List String) (userId : String) :
    (setIsDirect ownUserId content roomId true activeMembers).values userId =
      if IsOtherMember ownUserId activeMembers userId then
        withRoom roomId (content.values userId)
      else content.values userId := by
  have hentry := setIsDirect_true_apply ownUserId content roomId activeMembers userId
  split at hentry
  · next hother => rw [MultiMap.values_of_eq_some hentry, if_pos hother]
  · next hother => rw [MultiMap.values, hentry, if_neg hother, MultiMap.values]

theorem noEmpty_removeDirect (roomId : RoomId) (content : DirectEventContent) :
    (removeDirect roomId content).NoEmpty := by
  intro userId
  unfold removeDirect
  cases content userId with
  | none => simp
  | some list =>
      dsimp only
      split
      · simp
      · next hne =>
          intro hEq
          exact hne (by rw [Option.some.inj hEq, List.isEmpty_nil])

/-!
# The operations
-/

structure MarkedFor (users : String -> Prop) (roomId : RoomId)
    (before after : DirectEventContent) : Prop where
  listed : forall userId, users userId ->
    after userId = some (withRoom roomId (before.values userId))
  otherLists : forall userId, ¬ users userId -> after userId = before userId
  otherRooms : forall userId other, other ≠ roomId ->
    (other ∈ after.values userId <-> other ∈ before.values userId)

/-- The room was taken out of all lists, the order of the others was kept, and no
user is left with an empty list. -/
structure UnmarkedForAll (roomId : RoomId) (before after : DirectEventContent) :
    Prop where
  lists : forall userId, after.values userId =
    (before.values userId).filter fun other => other != roomId
  noEmpty : after.NoEmpty

theorem UnmarkedForAll.eq {roomId : RoomId}
    {before before' after after' : DirectEventContent}
    (h : UnmarkedForAll roomId before after)
    (h' : UnmarkedForAll roomId before' after')
    (hlists : forall userId,
      (before.values userId).filter (fun other => other != roomId) =
        (before'.values userId).filter fun other => other != roomId) :
    after = after' := by
  apply MultiMap.ext_of_values h.noEmpty h'.noEmpty
  intro userId
  rw [h.lists, h'.lists, hlists]

theorem markedFor_setIsDirect (ownUserId : String) (content : DirectEventContent)
    (roomId : RoomId) (activeMembers : List String) :
    MarkedFor (IsOtherMember ownUserId activeMembers) roomId content
      (setIsDirect ownUserId content roomId true activeMembers) := by
  constructor
  · intro userId hother
    rw [setIsDirect_true_apply, if_pos hother]
  · intro userId hother
    rw [setIsDirect_true_apply, if_neg hother]
  · intro userId other hne
    rw [values_setIsDirect_true]
    split
    · exact mem_withRoom_of_ne _ hne
    · rfl

theorem unmarkedForAll_setIsDirect (ownUserId : String)
    (content : DirectEventContent) (roomId : RoomId)
    (activeMembers : List String) :
    UnmarkedForAll roomId content
      (setIsDirect ownUserId content roomId false activeMembers) where
  lists := values_removeDirect roomId content
  noEmpty := noEmpty_removeDirect roomId content

theorem setIsDirect_true_true (ownUserId : String) (content : DirectEventContent)
    (roomId : RoomId) (activeMembers : List String) :
    setIsDirect ownUserId (setIsDirect ownUserId content roomId true activeMembers) roomId
        true activeMembers =
      setIsDirect ownUserId content roomId true activeMembers := by
  funext userId
  rw [setIsDirect_true_apply]
  split
  · next hother =>
      rw [values_setIsDirect_true, if_pos hother, withRoom_withRoom,
        setIsDirect_true_apply, if_pos hother]
  · rfl

theorem setIsDirect_true_false (ownUserId : String) (content : DirectEventContent)
    (roomId : RoomId) (activeMembers : List String) :
    setIsDirect ownUserId (setIsDirect ownUserId content roomId true activeMembers) roomId
        false activeMembers =
      setIsDirect ownUserId content roomId false activeMembers := by
  apply (unmarkedForAll_setIsDirect ownUserId _ roomId activeMembers).eq
    (unmarkedForAll_setIsDirect ownUserId content roomId activeMembers)
  intro userId
  rw [values_setIsDirect_true]
  split
  · exact filter_withRoom roomId _
  · rfl

theorem setIsDirect_false_false (ownUserId : String) (content : DirectEventContent)
    (roomId : RoomId) (activeMembers : List String) :
    setIsDirect ownUserId (setIsDirect ownUserId content roomId false activeMembers) roomId
        false activeMembers =
      setIsDirect ownUserId content roomId false activeMembers := by
  have hunmarked := unmarkedForAll_setIsDirect ownUserId content roomId activeMembers
  apply (unmarkedForAll_setIsDirect ownUserId _ roomId activeMembers).eq hunmarked
  intro userId
  rw [hunmarked.lists, List.filter_filter]
  simp only [Bool.and_self]

/-- Both operations do what they say, each is idempotent, and unmarking undoes
whatever marking did. -/
theorem setIsDirect_laws (ownUserId : String) (content : DirectEventContent)
    (roomId : RoomId) (activeMembers : List String) :
    let set := fun content isDirect =>
      setIsDirect ownUserId content roomId isDirect activeMembers
    MarkedFor (IsOtherMember ownUserId activeMembers) roomId content
        (set content true) ∧
      set (set content true) true = set content true ∧
      UnmarkedForAll roomId content (set content false) ∧
      set (set content false) false = set content false ∧
      set (set content true) false = set content false := by
  intro set
  constructor
  · exact markedFor_setIsDirect ownUserId content roomId activeMembers
  · constructor
    · exact setIsDirect_true_true ownUserId content roomId activeMembers
    · constructor
      · exact unmarkedForAll_setIsDirect ownUserId content roomId activeMembers
      · constructor
        · exact setIsDirect_false_false ownUserId content roomId activeMembers
        · exact setIsDirect_true_false ownUserId content roomId activeMembers

end Account
end MatrixGoose
