import Mathlib.Data.Finset.Card
import Mathlib.Data.String.Basic
import MatrixGoose.Foundation.Ranking

/-!
# Servers that route to a room

`route` names the server of the most powerful member, if that member is powerful
enough, and then the servers with the most members, three at most.  Server names
and access control lists are those of the protocol library.
-/

namespace MatrixGoose
namespace Room

open Foundation

structure RoomMember (ServerName : Type) where
  serverName : ServerName
  powerLevel : Int

section Route

variable {ServerName Acl : Type} [LinearOrder ServerName]
variable (isAllowed : Acl -> ServerName -> Bool) (isIpLiteral : ServerName -> Bool)

def keepsMember (acl : Option Acl) (member : RoomMember ServerName) : Bool :=
  let server := member.serverName
  (acl.filter fun acl => !isAllowed acl server).isNone && !isIpLiteral server

/-- The server of the member of highest power level, the last one of several. -/
def maxServer (members : List (RoomMember ServerName)) : Option ServerName :=
  ((maxByKey RoomMember.powerLevel members).filter fun max =>
    decide (max.powerLevel >= 50)).map RoomMember.serverName

/-- `*servers.entry(server).or_default() += 1` on a `u32`. -/
def nextCount (count : Nat) : Nat :=
  (count + 1) % UInt32.size

/-- The members of each server but the chosen one, in the order of the
`BTreeMap`. -/
def populations (members : List (RoomMember ServerName)) (max : Option ServerName) :
    OrderedMap ServerName Nat :=
  OrderedMap.tally nextCount
    ((members.map RoomMember.serverName).filter fun server =>
      (max.filter fun max => max == server).isNone)

def route (sorter : UnstableSort (ServerName × Nat) Prod.snd) (acl : Option Acl)
    (joinedMembers : List (RoomMember ServerName)) : List ServerName :=
  let members := joinedMembers.filter (keepsMember isAllowed isIpLiteral acl)
  let max := maxServer members
  let servers := sorter.sort (populations members max)
  (max.toList ++ servers.map Prod.fst).take 3

/-!
# What a routing list says about the members
-/

def Eligible (acl : Option Acl) (member : RoomMember ServerName) : Prop :=
  (forall list, acl = some list -> isAllowed list member.serverName = true) ∧
    isIpLiteral member.serverName = false

def memberCount (members : List (RoomMember ServerName)) (server : ServerName) :
    Nat :=
  (members.map RoomMember.serverName).count server

def HasModerator (members : List (RoomMember ServerName)) : Prop :=
  exists m, m ∈ members ∧ 50 <= m.powerLevel

instance (members : List (RoomMember ServerName)) : Decidable (HasModerator members) :=
  inferInstanceAs (Decidable (exists m, m ∈ members ∧ 50 <= m.powerLevel))

def byPopulation (members : List (RoomMember ServerName))
    (names : List ServerName) : List ServerName :=
  names.drop (if HasModerator members then 1 else 0)

structure Routes (members : List (RoomMember ServerName))
    (names : List ServerName) : Prop where
  atMostThree : names.length <= 3
  distinct : names.Nodup
  ofMembers : forall server, server ∈ names ->
    exists m, m ∈ members ∧ m.serverName = server
  mostPowerfulFirst : HasModerator members ->
    exists m, m ∈ members ∧ (forall m', m' ∈ members -> m'.powerLevel <= m.powerLevel) ∧
      names.head? = some m.serverName
  complete : (members.map RoomMember.serverName).toFinset.card <= 3 ->
    forall m, m ∈ members -> m.serverName ∈ names

structure RanksByPopulation (members : List (RoomMember ServerName))
    (names : List ServerName) : Prop where
  descending : (byPopulation members names).Pairwise fun a b =>
    memberCount members b <= memberCount members a
  optimal : forall m, m ∈ members -> m.serverName ∉ names ->
    forall server, server ∈ byPopulation members names ->
      memberCount members m.serverName <= memberCount members server

/-!
# The choice
-/

variable {isAllowed isIpLiteral}

omit [LinearOrder ServerName] in
theorem keepsMember_iff (acl : Option Acl) (member : RoomMember ServerName) :
    keepsMember isAllowed isIpLiteral acl member = true <->
      Eligible isAllowed isIpLiteral acl member := by
  cases acl with
  | none => simp [keepsMember, Eligible]
  | some list => simp [keepsMember, Eligible]

omit [LinearOrder ServerName] in
theorem maxServer_eq_some {members : List (RoomMember ServerName)}
    {server : ServerName} (h : maxServer members = some server) :
    exists m, m ∈ members ∧ m.serverName = server ∧ 50 <= m.powerLevel ∧
      forall m', m' ∈ members -> m'.powerLevel <= m.powerLevel := by
  rcases Option.map_eq_some_iff.mp h with ⟨m, hfilter, hserver⟩
  rcases Option.filter_eq_some_iff.mp hfilter with ⟨hmax, hlevel⟩
  exact ⟨m, maxByKey_mem hmax, hserver, of_decide_eq_true hlevel,
    fun m' hm' => le_maxByKey hmax hm'⟩

omit [LinearOrder ServerName] in
theorem exists_maxServer {members : List (RoomMember ServerName)}
    (h : HasModerator members) : exists server, maxServer members = some server := by
  rcases h with ⟨m, hm, hlevel⟩
  rcases exists_maxByKey RoomMember.powerLevel hm with ⟨top, htop⟩
  have hle : m.powerLevel <= top.powerLevel := le_maxByKey htop hm
  apply Exists.intro top.serverName
  rw [maxServer, htop, Option.filter_some_pos]
  · rfl
  · exact decide_eq_true (le_trans hlevel hle)

omit [LinearOrder ServerName] in
theorem maxServer_eq_none {members : List (RoomMember ServerName)}
    (h : ¬ HasModerator members) : maxServer members = none := by
  cases hmax : maxServer members with
  | none => rfl
  | some server =>
      rcases maxServer_eq_some hmax with ⟨m, hm, _, hlevel, _⟩
      exact absurd ⟨m, hm, hlevel⟩ h

/-!
# The ranking
-/

theorem iterate_nextCount (n : Nat) : nextCount^[n] 0 = n % UInt32.size := by
  induction n with
  | zero => rfl
  | succ n ih => rw [Function.iterate_succ_apply', ih, nextCount, Nat.mod_add_mod]

theorem mem_populations {members : List (RoomMember ServerName)}
    {max : Option ServerName} {server : ServerName} {n : Nat} :
    (server, n) ∈ populations members max <->
      (exists m, m ∈ members ∧ m.serverName = server) ∧ max ≠ some server ∧
        n = memberCount members server % UInt32.size := by
  have hother : (max.filter fun max => max == server).isNone = true <->
      max ≠ some server := by
    cases max <;> simp
  rw [populations, OrderedMap.mem_tally, List.mem_filter, hother, iterate_nextCount,
    List.mem_map, and_assoc]
  apply and_congr_right
  intro _
  apply and_congr_right
  intro hmax
  have hcount := @List.count_filter _ _ _
    (fun server => (max.filter fun max => max == server).isNone) server
    (members.map RoomMember.serverName) (hother.mpr hmax)
  rw [hcount, memberCount]

def ranked (sorter : UnstableSort (ServerName × Nat) Prod.snd)
    (members : List (RoomMember ServerName)) : List ServerName :=
  (sorter.sort (populations members (maxServer members))).map Prod.fst

variable (sorter : UnstableSort (ServerName × Nat) Prod.snd)
variable (members : List (RoomMember ServerName))

theorem mem_ranked {server : ServerName} :
    server ∈ ranked sorter members <->
      (exists m, m ∈ members ∧ m.serverName = server) ∧
        maxServer members ≠ some server := by
  rw [ranked, ((sorter.perm _).map Prod.fst).mem_iff, List.mem_map]
  constructor
  · intro h
    rcases h with ⟨entry, hentry, hserver⟩
    rcases mem_populations.mp hentry with ⟨hmember, hmax, _⟩
    rw [← hserver]
    exact ⟨hmember, hmax⟩
  · intro h
    exact ⟨(server, memberCount members server % UInt32.size),
      mem_populations.mpr ⟨h.1, h.2, rfl⟩, rfl⟩

theorem nodup_ranked : (ranked sorter members).Nodup := by
  rw [ranked, ((sorter.perm _).map Prod.fst).nodup_iff]
  exact OrderedMap.nodup_keys_tally nextCount _

theorem pairwise_ranked : (ranked sorter members).Pairwise fun a b =>
    memberCount members b % UInt32.size <= memberCount members a % UInt32.size := by
  rw [ranked, List.pairwise_map]
  apply (sorter.sorted _).imp_of_mem
  intro a b ha hb hle
  have hcounter : forall entry : ServerName × Nat,
      entry ∈ sorter.sort (populations members (maxServer members)) ->
        entry.2 = memberCount members entry.1 % UInt32.size := by
    intro entry hentry
    exact (mem_populations.mp ((sorter.perm _).mem_iff.mp hentry)).2.2
  rw [← hcounter a ha, ← hcounter b hb]
  exact hle

/-- Choice and ranking together name every server once. -/
theorem mem_choice_ranked {server : ServerName} :
    server ∈ (maxServer members).toList ++ ranked sorter members <->
      exists m, m ∈ members ∧ m.serverName = server := by
  rw [List.mem_append, Option.mem_toList, mem_ranked]
  constructor
  · intro h
    rcases h with hmax | hranked
    · rcases maxServer_eq_some hmax with ⟨m, hm, hserver, _⟩
      exact ⟨m, hm, hserver⟩
    · exact hranked.1
  · intro h
    by_cases hmax : maxServer members = some server
    · exact Or.inl hmax
    · exact Or.inr ⟨h, hmax⟩

theorem nodup_choice_ranked :
    ((maxServer members).toList ++ ranked sorter members).Nodup := by
  rw [List.nodup_append']
  constructor
  · cases maxServer members <;> simp
  · constructor
    · exact nodup_ranked sorter members
    · intro server hchoice hranked
      exact ((mem_ranked sorter members).mp hranked).2 (Option.mem_toList.mp hchoice)

/-!
# The routing list
-/

def routeOf : List ServerName :=
  ((maxServer members).toList ++ ranked sorter members).take 3

theorem routes_routeOf : Routes members (routeOf sorter members) where
  atMostThree := List.length_take_le ..
  distinct := (nodup_choice_ranked sorter members).sublist (List.take_sublist ..)
  ofMembers server hserver :=
    (mem_choice_ranked sorter members).mp (List.mem_of_mem_take hserver)
  mostPowerfulFirst := by
    intro hmoderator
    rcases exists_maxServer hmoderator with ⟨server, hmax⟩
    rcases maxServer_eq_some hmax with ⟨m, hm, hserver, _, hhighest⟩
    apply Exists.intro m
    constructor
    · exact hm
    · constructor
      · exact hhighest
      · rw [routeOf, hmax, hserver]
        rfl
  complete := by
    intro hcard m hm
    have hset : ((maxServer members).toList ++ ranked sorter members).toFinset =
        (members.map RoomMember.serverName).toFinset := by
      ext server
      rw [List.mem_toFinset, List.mem_toFinset, mem_choice_ranked, List.mem_map]
    have hlength :
        ((maxServer members).toList ++ ranked sorter members).length <= 3 := by
      rw [← List.toFinset_card_of_nodup (nodup_choice_ranked sorter members), hset]
      exact hcard
    rw [routeOf, List.take_of_length_le hlength]
    exact (mem_choice_ranked sorter members).mpr ⟨m, hm, rfl⟩

theorem exists_byPopulation_eq_take : exists n,
    byPopulation members (routeOf sorter members) = (ranked sorter members).take n ∧
      routeOf sorter members =
        (maxServer members).toList ++ (ranked sorter members).take n := by
  by_cases hmoderator : HasModerator members
  · rcases exists_maxServer hmoderator with ⟨server, hmax⟩
    apply Exists.intro 2
    rw [byPopulation, if_pos hmoderator, routeOf, hmax]
    exact ⟨rfl, rfl⟩
  · apply Exists.intro 3
    rw [byPopulation, if_neg hmoderator, routeOf, maxServer_eq_none hmoderator]
    exact ⟨rfl, rfl⟩

theorem ranksByPopulation_routeOf
    (hsmall : forall server, memberCount members server < UInt32.size) :
    RanksByPopulation members (routeOf sorter members) := by
  have hranked : (ranked sorter members).Pairwise fun a b =>
      memberCount members b <= memberCount members a := by
    apply (pairwise_ranked sorter members).imp
    intro a b hle
    rwa [Nat.mod_eq_of_lt (hsmall b), Nat.mod_eq_of_lt (hsmall a)] at hle
  rcases exists_byPopulation_eq_take sorter members with ⟨n, hnames, hroute⟩
  constructor
  · rw [hnames]
    exact hranked.sublist (List.take_sublist ..)
  · intro m hm hout server hserver
    rw [hnames] at hserver
    have hall := (mem_choice_ranked sorter members).mpr ⟨m, hm, rfl⟩
    rw [hroute, List.mem_append, not_or] at hout
    have hdrop : m.serverName ∈ (ranked sorter members).drop n := by
      rcases List.mem_append.mp hall with hchoice | hrest
      · exact absurd hchoice hout.1
      · rw [← List.take_append_drop n (ranked sorter members)] at hrest
        rcases List.mem_append.mp hrest with htake | hdrop
        · exact absurd htake hout.2
        · exact hdrop
    exact rel_of_mem_take_of_mem_drop hranked n hserver hdrop

/-- In a room of ordinary members on three servers at most, a list that is in the order
of the members is in the order of the counters too. -/
theorem counters_of_ranksByPopulation {members : List (RoomMember ServerName)}
    (hordinary : ¬ HasModerator members)
    (hcard : (members.map RoomMember.serverName).toFinset.card <= 3)
    (hranks : RanksByPopulation members (routeOf sorter members)) {m m' : RoomMember ServerName}
    (hm : m ∈ members) (hm' : m' ∈ members) (hne : m.serverName ≠ m'.serverName) :
    let inOrder := fun a b : ServerName =>
      memberCount members b <= memberCount members a ∧
        memberCount members b % UInt32.size <= memberCount members a % UInt32.size
    inOrder m.serverName m'.serverName ∨ inOrder m'.serverName m.serverName := by
  rcases exists_byPopulation_eq_take sorter members with ⟨n, hnames, hroute⟩
  rw [maxServer_eq_none hordinary, Option.toList_none, List.nil_append] at hroute
  have hnamed : forall m, m ∈ members ->
      m.serverName ∈ (ranked sorter members).take n := by
    intro m hm
    rw [← hroute]
    exact (routes_routeOf sorter members).complete hcard m hm
  have hdescending : ((ranked sorter members).take n).Pairwise fun a b =>
      memberCount members b <= memberCount members a := by
    rw [← hnames]
    exact hranks.descending
  have hcounters : ((ranked sorter members).take n).Pairwise fun a b =>
      memberCount members b % UInt32.size <= memberCount members a % UInt32.size :=
    (pairwise_ranked sorter members).sublist (List.take_sublist ..)
  exact rel_or_rel_of_mem (hdescending.and hcounters) (hnamed m hm) (hnamed m' hm') hne

/-- At most three different servers of members that may be named, the server of
the most powerful one first if it is powerful enough, and all of them if they
are three at most.  The others come by the number of their members, which the
code counts in 32 bits. -/
theorem route_spec (acl : Option Acl) (joinedMembers : List (RoomMember ServerName)) :
    let members := joinedMembers.filter (keepsMember isAllowed isIpLiteral acl)
    let names := route isAllowed isIpLiteral sorter acl joinedMembers
    (forall m, m ∈ members <->
      m ∈ joinedMembers ∧ Eligible isAllowed isIpLiteral acl m) ∧
      Routes members names ∧
      ((forall server, memberCount members server < UInt32.size) ->
        RanksByPopulation members names) := by
  intro members names
  constructor
  · intro m
    rw [List.mem_filter, keepsMember_iff]
  · constructor
    · exact routes_routeOf sorter members
    · exact ranksByPopulation_routeOf sorter members

theorem memberCount_lt_of_length {members : List (RoomMember ServerName)}
    (h : members.length < UInt32.size) (server : ServerName) :
    memberCount members server < UInt32.size := by
  apply Nat.lt_of_le_of_lt List.count_le_length
  rw [List.length_map]
  exact h

end Route

/-- A moderated room on two servers, with a member on a blocked one. -/
theorem route_spec_two_servers :
    let joinedMembers : List (RoomMember String) :=
      [⟨"a", 0⟩, ⟨"a", 0⟩, ⟨"b", 100⟩, ⟨"evil", 0⟩]
    let isAllowed : Unit -> String -> Bool := fun _ server => server != "evil"
    let members := joinedMembers.filter (keepsMember isAllowed (fun _ => false) (some ()))
    let names := route isAllowed (fun _ => false)
      (UnstableSort.merge (String × Nat) Prod.snd) (some ()) joinedMembers
    RanksByPopulation members names := by
  intro joinedMembers isAllowed members names
  apply (route_spec (UnstableSort.merge (String × Nat) Prod.snd) (some ())
    joinedMembers).2.2
  apply memberCount_lt_of_length
  decide

/-- Once a server has 2^32 members its counter is back at zero, and a server with
a single member is ranked in front of it. -/
theorem route_ranks_full_server_last :
    let crowd : List (RoomMember String) :=
      List.replicate UInt32.size ⟨"a", 0⟩ ++ [⟨"b", 0⟩]
    let members := crowd.filter
      (keepsMember (fun (_ : Unit) _ => true) (fun _ => false) none)
    ¬ RanksByPopulation members
      (route (fun (_ : Unit) _ => true) (fun _ => false)
        (UnstableSort.merge (String × Nat) Prod.snd) none crowd) := by
  intro crowd members hranks
  have hkept : members = crowd := by
    apply List.filter_eq_self.mpr
    intro m _
    rfl
  have hordinary : ¬ HasModerator members := by
    intro h
    rcases h with ⟨m, hm, hfifty⟩
    rw [hkept, List.mem_append, List.mem_replicate, List.mem_singleton] at hm
    rcases hm with ⟨_, hm⟩ | hm
    · simp [hm] at hfifty
    · simp [hm] at hfifty
  have hservers : members.map RoomMember.serverName =
      List.replicate UInt32.size "a" ++ ["b"] := by
    rw [hkept]
    simp [crowd]
  have hcountA : memberCount members "a" = UInt32.size := by
    rw [memberCount, hservers]
    simp
  have hcountB : memberCount members "b" = 1 := by
    rw [memberCount, hservers]
    simp [List.count_replicate]
  have hcard : (members.map RoomMember.serverName).toFinset.card <= 3 := by
    have hsub : (members.map RoomMember.serverName).toFinset ⊆ {"a", "b"} := by
      intro server hserver
      rw [hservers, List.mem_toFinset, List.mem_append, List.mem_replicate,
        List.mem_singleton] at hserver
      rcases hserver with ⟨_, hserver⟩ | hserver <;> simp [hserver]
    exact Nat.le_trans (Finset.card_le_card hsub) (by simp)
  have hA : ⟨"a", 0⟩ ∈ members := by
    rw [hkept]
    exact List.mem_append_left _ (List.mem_replicate.mpr ⟨by simp, rfl⟩)
  have hB : ⟨"b", 0⟩ ∈ members := by
    rw [hkept]
    exact List.mem_append_right _ (List.mem_singleton_self _)
  rcases counters_of_ranksByPopulation (UnstableSort.merge (String × Nat) Prod.snd)
    hordinary hcard hranks hA hB (by simp) with h | h
  · rw [hcountA, hcountB] at h
    exact absurd h.2 (by decide)
  · rw [hcountA, hcountB] at h
    exact absurd h.1 (by decide)

end Room
end MatrixGoose
