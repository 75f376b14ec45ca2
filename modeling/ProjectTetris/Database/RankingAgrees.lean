import ProjectTetris.Database.RankingManager

/-!
# The ranking in memory agrees with the query

One update is looked at alone: the player's new row is put in front of the other rows with
a positive score, and the ranking is the first ten of the rows without it, or has it already.
-/

namespace ProjectTetris

open FirstK RankingManager
open scoped List

namespace RankingManager

variable {players others rankings : List RankingRow} {old new : RankingRow} {u : ScoreUpdate}

/-! ## The rows -/

/-- The rows the query looks at. -/
def positive (players : List RankingRow) : List RankingRow :=
  players.filter fun player => player.score > 0

theorem loadRankings_eq (players : List RankingRow) :
    loadRankings players = firstK ranksBefore maxRankingCount (positive players) := rfl

theorem positive_of_pos (h : players ~ old :: others) (hpos : 0 < old.score) :
    positive players ~ old :: positive others := by
  have hfilter := h.filter fun player => player.score > 0
  rwa [List.filter_cons_of_pos (by simpa using hpos)] at hfilter

theorem positive_of_nonpos (h : players ~ old :: others) (hpos : old.score ≤ 0) :
    positive players ~ positive others := by
  have hfilter := h.filter fun player => player.score > 0
  rwa [List.filter_cons_of_neg (by simpa using hpos)] at hfilter

theorem storeScore_ids (players : List RankingRow) (playerId score : Int) :
    (storeScore players playerId score).map RankingRow.playerId =
      players.map RankingRow.playerId := by
  rw [storeScore, List.map_map]
  refine List.map_congr_left ?_
  intro player _
  simp only [Function.comp_apply]
  split <;> rfl

/-- One row is written. -/
theorem storeScore_split (hids : (players.map RankingRow.playerId).Nodup) (hold : old ∈ players)
    (score : Int) :
    ∃ others, players ~ old :: others ∧
    storeScore players old.playerId score ~ { old with score } :: others := by
  obtain ⟨before, after, rfl⟩ := List.append_of_mem hold
  have hperm : before ++ old :: after ~ old :: (before ++ after) := List.perm_middle
  have hids' := (hperm.map RankingRow.playerId).nodup_iff.mp hids
  rw [List.map_cons, List.nodup_cons] at hids'
  refine ⟨before ++ after, hperm, ?_⟩
  have hsame : storeScore (before ++ after) old.playerId score = before ++ after := by
    refine (List.map_congr_left ?_).trans (List.map_id _)
    intro player hplayer
    have hne : player.playerId ≠ old.playerId :=
      fun heq => hids'.1 (heq ▸ List.mem_map_of_mem hplayer)
    rw [if_neg hne]
    rfl
  have hstore := hperm.map fun player =>
    if player.playerId = old.playerId then { player with score } else player
  rw [List.map_cons, if_pos rfl] at hstore
  rwa [← hsame]

theorem strict_positive (hids : (players.map RankingRow.playerId).Nodup) :
    Strict ranksBefore (positive players) :=
  (strict_of_nodup hids).of_subset (List.filter_subset_self _)

theorem firstK_subset (l : List RankingRow) : firstK ranksBefore maxRankingCount l ⊆ l := by
  intro a ha
  exact List.mem_mergeSort.mp (List.mem_of_mem_take ha)

/-! ## One update -/

theorem updateRanking_listed {before after : List RankingRow}
    (hids : ((before ++ old :: after).map RankingRow.playerId).Nodup) {nickname : String}
    {score : Int} (hpos : 0 < score) (hraise : old.score < score) :
    updateRanking (before ++ old :: after) old.playerId nickname score
      = sortAndTrim (before ++ ⟨old.playerId, nickname, score⟩ :: after) := by
  have hfind : (before ++ old :: after).findIdx? (fun info => info.playerId = old.playerId) =
      some before.length := by
    rw [List.findIdx?_append]
    have hnone : before.findIdx? (fun info => info.playerId = old.playerId) = none := by
      refine List.findIdx?_eq_none_iff.mpr ?_
      intro info hinfo
      rw [List.map_append, List.map_cons] at hids
      have hne :=
        (List.nodup_append.mp hids).2.2 _ (List.mem_map_of_mem hinfo) _ (List.mem_cons_self ..)
      simpa using hne
    rw [hnone, List.findIdx?_cons]
    simp
  rw [updateRanking, if_neg (by omega), hfind]
  have hmodify : (before ++ old :: after).modify before.length (fun info =>
      { info with nickname, score := if score > info.score then score else info.score })
      = before ++ ⟨old.playerId, nickname, score⟩ :: after := by
    rw [List.modify_eq_take_cons_drop (by simp)]
    simp [if_pos hraise]
  exact congrArg sortAndTrim hmodify

theorem updateRanking_unlisted {playerId : Int} {nickname : String} {score : Int}
    (hpos : 0 < score) (hnot : ∀ info ∈ rankings, info.playerId ≠ playerId) :
    updateRanking rankings playerId nickname score =
      if rankings.length < maxRankingCount ∨
      rankings.getLast?.any fun last => score > last.score then
        sortAndTrim (rankings ++ [⟨playerId, nickname, score⟩])
      else rankings := by
  have hfind : rankings.findIdx? (fun info => info.playerId = playerId) = none := by
    refine List.findIdx?_eq_none_iff.mpr ?_
    intro info hinfo
    simpa using hnot info hinfo
  rw [updateRanking, if_neg (by omega), hfind]

/-- **A listed player**: his row moves up among the ten. -/
theorem listed_right (hids : (players.map RankingRow.playerId).Nodup)
    (hold : old ∈ loadRankings players) {score : Int} (hpos : 0 < score)
    (hraise : old.score < score) :
    updateRanking (loadRankings players) old.playerId old.nickname score
      = loadRankings (storeScore players old.playerId score) := by
  have hmem : old ∈ positive players := firstK_subset _ hold
  have hplayer : old ∈ players := List.mem_of_mem_filter hmem
  have holdpos : 0 < old.score := by simpa using (List.mem_filter.mp hmem).2
  obtain ⟨others, hplayers, hstored⟩ := storeScore_split hids hplayer score
  obtain ⟨before, after, hsplit⟩ := List.append_of_mem hold
  have hnewids : ((storeScore players old.playerId score).map RankingRow.playerId).Nodup := by
    rwa [storeScore_ids]
  have hrows := positive_of_pos hplayers holdpos
  have hnewrows : positive (storeScore players old.playerId score) ~ { old with score } ::
      positive others :=
    positive_of_pos hstored hpos
  have hnewstrict : Strict ranksBefore ({ old with score } :: positive others) :=
    (strict_positive hnewids).of_subset hnewrows.symm.subset
  have hlistids : ((before ++ old :: after).map RankingRow.playerId).Nodup := by
    rw [← hsplit]
    have hsub : loadRankings players <+ (positive players).mergeSort ranksBefore :=
      List.take_sublist ..
    have hperm := (List.mergeSort_perm (positive players) ranksBefore).map RankingRow.playerId
    exact (hperm.nodup_iff.mpr (hids.sublist (List.filter_sublist.map _))).sublist (hsub.map _)
  have hbetter : ∀ c, ranksBefore old c → ranksBefore { old with score } c := by
    intro c hc
    rw [ranksBefore_iff] at hc ⊢
    simp only
    omega
  rw [hsplit, updateRanking_listed hlistids hpos hraise, sortAndTrim_eq, loadRankings_eq,
    firstK_perm ranksBefore_trans ranksBefore_total (hnewstrict) hnewrows]
  exact firstK_improve ranksBefore_trans ranksBefore_total hrows hsplit hbetter hnewstrict

/-- The rows without those of an unlisted player have the same first ten. -/
theorem first_others (hids : (players.map RankingRow.playerId).Nodup)
    (hplayers : players ~ old :: others) (hnot : old ∉ loadRankings players) :
    firstK ranksBefore maxRankingCount (positive others) = loadRankings players := by
  have hstrict := strict_positive hids
  by_cases hpos : 0 < old.score
  · have hrows := positive_of_pos hplayers hpos
    have hsame :=
      firstK_perm (k := maxRankingCount) ranksBefore_trans ranksBefore_total hstrict hrows.symm
    have hstrict' : Strict ranksBefore (old :: positive others) := hstrict.perm hrows.symm
    have hnot' : old ∉ firstK ranksBefore maxRankingCount (old :: positive others) := by
      rwa [hsame]
    rw [firstK_leave ranksBefore_trans ranksBefore_total hstrict' hnot', hsame]
    rfl
  · exact firstK_perm ranksBefore_trans ranksBefore_total hstrict
      (positive_of_nonpos hplayers (by omega)).symm

/-- **A player who is not listed** is compared with the tenth, and by the score alone. -/
theorem unlisted_right_iff (hids : (players.map RankingRow.playerId).Nodup) (hold : old ∈ players)
    {score : Int} (hpos : 0 < score)
    (hnot : ∀ info ∈ loadRankings players, info.playerId ≠ old.playerId) :
    updateRanking (loadRankings players) old.playerId old.nickname score
        = loadRankings (storeScore players old.playerId score)
      ↔ ¬ ScoreUpdate.TiesTenth (loadRankings players) ⟨old.playerId, old.nickname, score⟩ := by
  obtain ⟨others, hplayers, hstored⟩ := storeScore_split hids hold score
  have hnewids : ((storeScore players old.playerId score).map RankingRow.playerId).Nodup := by
    rwa [storeScore_ids]
  have hnewrows : positive (storeScore players old.playerId score) ~ { old with score } ::
      positive others :=
    positive_of_pos hstored hpos
  have hnewstrict : Strict ranksBefore ({ old with score } :: positive others) :=
    (strict_positive hnewids).of_subset hnewrows.symm.subset
  have hothers := first_others hids hplayers fun hin => hnot old hin rfl
  -- what the query returns: the ten of the new row and the old ten
  have hquery : loadRankings (storeScore players old.playerId score)
      = firstK ranksBefore maxRankingCount ({ old with score } :: loadRankings players) := by
    have hcons := firstK_cons (k := maxRankingCount) ranksBefore_trans ranksBefore_total hnewstrict
    rw [loadRankings_eq, firstK_perm ranksBefore_trans ranksBefore_total hnewstrict hnewrows,
      ← hcons, hothers]
  have hsubset : loadRankings players ⊆ positive others := hothers ▸ firstK_subset _
  have hstrict : Strict ranksBefore ({ old with score } :: loadRankings players) :=
    hnewstrict.of_subset (List.cons_subset_cons _ hsubset)
  obtain ⟨rest, hrest, hsorted, hlength⟩ :=
    firstK_spec (k := maxRankingCount) ranksBefore_trans ranksBefore_total (positive players)
  have hlistsorted : (loadRankings players).Pairwise fun a b => ranksBefore a b :=
    (List.pairwise_append.mp hsorted).1
  have hle : (loadRankings players).length ≤ maxRankingCount := by
    rw [loadRankings_eq, hlength]
    exact Nat.min_le_left ..
  rw [hquery, updateRanking_unlisted hpos hnot]
  cases hlast : (loadRankings players).getLast? with
  | none =>
      have hnil := List.getLast?_eq_none_iff.mp hlast
      have hshort : (loadRankings players).length < maxRankingCount := by
        rw [hnil]
        decide
      rw [if_pos (Or.inl hshort), sortAndTrim_eq,
        firstK_perm ranksBefore_trans ranksBefore_total hstrict (List.perm_append_singleton ..)]
      refine ⟨fun _ hties => ?_, fun _ => rfl⟩
      obtain ⟨_, _, _, tenth, htenth, _⟩ := hties
      rw [hlast] at htenth
      cases htenth
  | some tenth =>
      by_cases hin : (loadRankings players).length < maxRankingCount ∨ tenth.score < score
      · have hcond : (loadRankings players).length < maxRankingCount
            ∨ (some tenth).any (fun last => score > last.score) = true := by simpa using hin
        rw [if_pos hcond, sortAndTrim_eq,
          firstK_perm ranksBefore_trans ranksBefore_total hstrict (List.perm_append_singleton ..)]
        refine ⟨fun _ hties => ?_, fun _ => rfl⟩
        obtain ⟨_, _, hfull, tenth', htenth, hscore, _⟩ := hties
        rw [hlast] at htenth
        cases htenth
        simp only at hscore
        omega
      · have hcond : ¬ ((loadRankings players).length < maxRankingCount
            ∨ (some tenth).any (fun last => score > last.score) = true) := by simpa using hin
        rw [if_neg hcond, eq_comm]
        have hfull : (loadRankings players).length = maxRankingCount := by omega
        rw [firstK_cons_eq_iff ranksBefore_trans ranksBefore_total hlistsorted hfull hlast hstrict,
          ranksBefore_iff]
        have hne := hnot tenth (List.mem_of_getLast? hlast)
        constructor
        · rintro hbefore ⟨_, _, _, tenth', htenth, hscore, hid⟩
          rw [hlast] at htenth
          cases htenth
          simp only at hscore hid hbefore
          omega
        · intro hties
          simp only
          by_contra hafter
          refine hties ⟨hpos, hnot, hfull, tenth, hlast, ?_, ?_⟩
          · simp only
            omega
          · simp only
            omega

end RankingManager

namespace ScoreTables

variable {s : ScoreTables} {u : ScoreUpdate} {updates : List ScoreUpdate}

/-- **One update**: the ranking stays right if and only if the score does not tie with the tenth.
-/
theorem update_right_iff (hids : (s.players.map RankingRow.playerId).Nodup)
    (hs : s.rankings = loadRankings s.players) (hraise : u.Raises s.players) :
    (s.update u).rankings = loadRankings (s.update u).players ↔ ¬ u.TiesTenth s.rankings := by
  obtain ⟨old, hold, hid, hnickname, hless⟩ := hraise
  obtain ⟨playerId, nickname, score⟩ := u
  subst hid hnickname
  simp only [update, hs]
  by_cases hpos : 0 < score
  · by_cases hlisted : ∃ info ∈ loadRankings s.players, info.playerId = old.playerId
    · obtain ⟨info, hinfo, hsame⟩ := hlisted
      have hplayer : info ∈ s.players := List.mem_of_mem_filter (firstK_subset _ hinfo)
      obtain rfl : info = old := List.inj_on_of_nodup_map hids hplayer hold hsame
      refine ⟨fun _ hties => hties.2.1 info hinfo rfl, fun _ => ?_⟩
      exact listed_right hids hinfo hpos hless
    · refine unlisted_right_iff hids hold hpos ?_
      intro info hinfo hsame
      exact hlisted ⟨info, hinfo, hsame⟩
  · refine ⟨fun _ hties => hpos hties.1, fun _ => ?_⟩
    obtain ⟨others, hplayers, hstored⟩ := storeScore_split hids hold score
    have hold' :=
      positive_of_nonpos hplayers (Int.le_trans (Int.le_of_lt hless) (Int.not_lt.mp hpos))
    have hnew' : positive (storeScore s.players old.playerId score) ~ positive others :=
      positive_of_nonpos hstored (Int.not_lt.mp hpos)
    rw [updateRanking, if_pos (by omega), loadRankings_eq, loadRankings_eq]
    exact (firstK_perm ranksBefore_trans ranksBefore_total (strict_positive hids)
      (hnew'.trans hold'.symm)).symm

theorem nodup_loadRankings {players : List RankingRow}
    (hids : (players.map RankingRow.playerId).Nodup) :
    ((loadRankings players).map RankingRow.playerId).Nodup := by
  have hsub : loadRankings players <+ (positive players).mergeSort ranksBefore :=
    List.take_sublist ..
  have hperm := (List.mergeSort_perm (positive players) ranksBefore).map RankingRow.playerId
  exact (hperm.nodup_iff.mpr (hids.sublist (List.filter_sublist.map _))).sublist (hsub.map _)

theorem update_ids (s : ScoreTables) (u : ScoreUpdate) :
    (s.update u).players.map RankingRow.playerId = s.players.map RankingRow.playerId :=
  storeScore_ids ..

/-! ## Any number of updates -/

theorem always_right_iff (hids : (s.players.map RankingRow.playerId).Nodup)
    (hs : s.rankings = loadRankings s.players) (hraise : ScoreUpdate.AllRaise s.players updates) :
    (∀ before, before <+: updates → (before.foldl update s).Right) ↔
      ∀ before u, before ++ [u] <+: updates → ¬ u.TiesTenth (before.foldl update s).rankings := by
  have hright : s.Right := ⟨hs, hs ▸ nodup_loadRankings hids⟩
  induction updates generalizing s with
  | nil =>
      refine ⟨fun _ before u hbefore => ?_, fun _ before hbefore => ?_⟩
      · simp at hbefore
      · rw [List.prefix_nil.mp hbefore]
        exact hright
  | cons first updates ih =>
      obtain ⟨hfirst, hraises⟩ := hraise
      have hstep := update_right_iff hids hs hfirst
      have hids' : ((s.update first).players.map RankingRow.playerId).Nodup := by rwa [update_ids]
      have hright' (h : (s.update first).rankings = loadRankings (s.update first).players) :
        (s.update first).Right :=
        ⟨h, h ▸ nodup_loadRankings hids'⟩
      constructor
      · intro hall before u hbefore
        have hnext := (hall [first] (by simp)).1
        cases before with
        | nil =>
            obtain ⟨rfl, _⟩ := List.cons_prefix_cons.mp hbefore
            exact hstep.mp hnext
        | cons _ before =>
            obtain ⟨rfl, hrest⟩ := List.cons_prefix_cons.mp hbefore
            refine (ih hids' hnext hraises (hright' hnext)).mp ?_ before u hrest
            intro b hb
            exact hall (_ :: b) (List.cons_prefix_cons.mpr ⟨rfl, hb⟩)
      · intro hno before hbefore
        cases before with
        | nil => exact hright
        | cons _ before =>
            obtain ⟨rfl, hrest⟩ := List.cons_prefix_cons.mp hbefore
            have hnext := hstep.mpr (hno [] _ (by simp))
            refine (ih hids' hnext hraises (hright' hnext)).mpr ?_ before hrest
            intro b u hb
            exact hno (_ :: b) u (List.cons_prefix_cons.mpr ⟨rfl, hb⟩)

theorem load_rankings (players : List RankingRow) :
    (load players).rankings = loadRankings players := by
  obtain ⟨rest, _, hsorted, hlength⟩ :=
    firstK_spec (k := maxRankingCount) ranksBefore_trans ranksBefore_total (positive players)
  refine firstK_self (List.pairwise_append.mp hsorted).1 ?_
  rw [loadRankings_eq, hlength]
  exact Nat.min_le_left ..

/-- **The ranking is what the query would return**, after the load and after every update, if and
only if no update ties with the tenth. -/
theorem rankings_right_iff (players : List RankingRow)
    (hids : (players.map RankingRow.playerId).Nodup) (updates : List ScoreUpdate)
    (hraise : ScoreUpdate.AllRaise players updates) :
    (∀ before, before <+: updates → (before.foldl update (load players)).Right) ↔
      ∀ before u, before ++ [u] <+: updates →
      ¬ u.TiesTenth (before.foldl update (load players)).rankings :=
  always_right_iff hids (load_rankings players) hraise

theorem rankings_right_iff_two :
    (∀ before : List ScoreUpdate, before <+: [⟨1, "a", 30⟩] →
      (before.foldl update (load [⟨2, "b", 20⟩, ⟨1, "a", 10⟩])).Right) ↔
      ∀ (before : List ScoreUpdate) (u : ScoreUpdate), before ++ [u] <+: [⟨1, "a", 30⟩] →
        ¬ u.TiesTenth (before.foldl update (load [⟨2, "b", 20⟩, ⟨1, "a", 10⟩])).rankings :=
  rankings_right_iff [⟨2, "b", 20⟩, ⟨1, "a", 10⟩] (by decide) [⟨1, "a", 30⟩]
    ⟨⟨⟨1, "a", 10⟩, by simp, rfl, rfl, by decide⟩, trivial⟩

/-- Ten players with a hundred points. -/
def tenPlayers : List RankingRow :=
  [⟨2, "b", 100⟩, ⟨3, "c", 100⟩, ⟨4, "d", 100⟩, ⟨5, "e", 100⟩, ⟨6, "f", 100⟩, ⟨7, "g", 100⟩,
    ⟨8, "h", 100⟩, ⟨9, "i", 100⟩, ⟨10, "j", 100⟩, ⟨11, "k", 100⟩]

/-- A player who has no points yet, and comes before them all. -/
def newcomer : RankingRow := ⟨1, "a", 0⟩

theorem rankings_tied :
    ¬ ∀ (players : List RankingRow) (updates : List ScoreUpdate),
      (players.map RankingRow.playerId).Nodup →
      ScoreUpdate.AllRaise players updates →
      ∀ before, before <+: updates → (before.foldl update (load players)).Right := by
  intro h
  have hids : ((tenPlayers ++ [newcomer]).map RankingRow.playerId).Nodup := by decide
  have hraise : ScoreUpdate.Raises (tenPlayers ++ [newcomer]) ⟨1, "a", 100⟩ :=
    ⟨newcomer, by simp, rfl, rfl, by decide⟩
  have hright := h _ [⟨1, "a", 100⟩] hids ⟨hraise, trivial⟩ [⟨1, "a", 100⟩] (List.prefix_refl _)
  -- the query returns the ten as they stand
  have hload : (load (tenPlayers ++ [newcomer])).rankings = tenPlayers := by
    rw [load_rankings, loadRankings_eq]
    exact firstK_self (l := tenPlayers) (by decide) (by decide)
  have hties : ScoreUpdate.TiesTenth (load (tenPlayers ++ [newcomer])).rankings ⟨1, "a", 100⟩ := by
    rw [hload]
    exact ⟨by decide, by decide, rfl, (⟨11, "k", 100⟩ : RankingRow), rfl, rfl, by decide⟩
  exact (update_right_iff hids (load_rankings _) hraise).mp hright.1 hties

end ScoreTables

end ProjectTetris
