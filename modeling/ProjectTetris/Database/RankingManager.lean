import ProjectTetris.Lib.FirstK

/-!
# The ranking

The ten best scores are loaded once and kept up to date without the database: a score that
is stored is compared with the ten only. That finds the ten best of all players as long as
no score ties with the tenth, since the comparison looks at the score alone.
-/

namespace ProjectTetris

open FirstK
open scoped List

/-- `RankingInfo`, a row of the table of players. -/
structure RankingRow where
  playerId : Int
  nickname : String
  score : Int
  deriving DecidableEq, Repr

namespace RankingManager

def maxRankingCount : Nat := 10

def compareRankingInfo (lhs rhs : RankingRow) : Bool :=
  if lhs.score ≠ rhs.score then lhs.score > rhs.score else lhs.playerId < rhs.playerId

/-- `std::sort` by `CompareRankingInfo`, and the ten that come first. -/
def sortAndTrim (rankings : List RankingRow) : List RankingRow :=
  (rankings.mergeSort fun lhs rhs => !compareRankingInfo rhs lhs).take maxRankingCount

def initRanking (initialRankings : List RankingRow) : List RankingRow :=
  sortAndTrim initialRankings

def updateRanking (rankings : List RankingRow) (playerId : Int) (nickname : String) (score : Int) :
    List RankingRow :=
  if score ≤ 0 then rankings
  else
    match rankings.findIdx? fun info => info.playerId = playerId with
    | some i =>
        sortAndTrim (rankings.modify i fun info =>
          { info with nickname, score := if score > info.score then score else info.score })
    | none =>
        if rankings.length < maxRankingCount ∨
          rankings.getLast?.any fun last => score > last.score then
          sortAndTrim (rankings ++ [⟨playerId, nickname, score⟩])
        else rankings

/-- `SQL_LOAD_RANKINGS`. -/
def loadRankings (players : List RankingRow) : List RankingRow :=
  ((players.filter fun player => player.score > 0).mergeSort fun lhs rhs =>
    !compareRankingInfo rhs lhs).take 10

/-- `SQL_UPDATE_SCORE`. -/
def storeScore (players : List RankingRow) (playerId score : Int) : List RankingRow :=
  players.map fun player => if player.playerId = playerId then { player with score } else player

end RankingManager

/-- A score that is stored. -/
structure ScoreUpdate where
  playerId : Int
  nickname : String
  score : Int
  deriving DecidableEq, Repr

/-- The table of players, as far as the ranking reads it, and the ranking in memory. -/
structure ScoreTables where
  players : List RankingRow
  rankings : List RankingRow
  deriving DecidableEq, Repr

namespace ScoreTables

open RankingManager

def load (players : List RankingRow) : ScoreTables := ⟨players, initRanking (loadRankings players)⟩

def update (s : ScoreTables) (u : ScoreUpdate) : ScoreTables :=
  ⟨storeScore s.players u.playerId u.score, updateRanking s.rankings u.playerId u.nickname u.score⟩

/-- `GetRankings` returns what the query would, and nobody twice. -/
def Right (s : ScoreTables) : Prop :=
  s.rankings = loadRankings s.players ∧ (s.rankings.map RankingRow.playerId).Nodup

end ScoreTables

namespace ScoreUpdate

open RankingManager

/-- The score is better than the one its player has. -/
def Raises (players : List RankingRow) (u : ScoreUpdate) : Prop :=
  ∃ player ∈ players, player.playerId = u.playerId ∧ player.nickname = u.nickname ∧
    player.score < u.score

def AllRaise : List RankingRow → List ScoreUpdate → Prop
  | _, [] => True
  | players, u :: us => u.Raises players ∧ AllRaise (storeScore players u.playerId u.score) us

/-- The player is not listed, has the score of the tenth, and comes before him. -/
def TiesTenth (rankings : List RankingRow) (u : ScoreUpdate) : Prop :=
  0 < u.score ∧ (∀ info ∈ rankings, info.playerId ≠ u.playerId) ∧
    rankings.length = maxRankingCount ∧
    ∃ tenth ∈ rankings.getLast?, u.score = tenth.score ∧ u.playerId < tenth.playerId

end ScoreUpdate

namespace RankingManager

/-! ## The order -/

/-- The order `std::sort` sorts in. -/
def ranksBefore (lhs rhs : RankingRow) : Bool := !compareRankingInfo rhs lhs

theorem ranksBefore_iff {a b : RankingRow} :
    ranksBefore a b = true ↔ b.score < a.score ∨
    (a.score = b.score ∧ a.playerId ≤ b.playerId) := by
  unfold ranksBefore compareRankingInfo
  by_cases h : b.score = a.score
  · simp [h]
  · simp only [ne_eq, h, not_false_eq_true, if_true, Bool.not_eq_true', decide_eq_false_iff_not]
    omega

theorem ranksBefore_trans (a b c : RankingRow) (hab : ranksBefore a b) (hbc : ranksBefore b c) :
    ranksBefore a c := by
  rw [ranksBefore_iff] at hab hbc ⊢
  omega

theorem ranksBefore_total (a b : RankingRow) : ranksBefore a b || ranksBefore b a := by
  rw [Bool.or_eq_true, ranksBefore_iff, ranksBefore_iff]
  omega

/-- Players do not share a place. -/
theorem strict_of_nodup {l : List RankingRow} (h : (l.map RankingRow.playerId).Nodup) :
    Strict ranksBefore l := by
  intro a ha b hb hab hba
  rw [ranksBefore_iff] at hab hba
  exact List.inj_on_of_nodup_map h ha hb (by omega)

theorem sortAndTrim_eq (rankings : List RankingRow) :
    sortAndTrim rankings = firstK ranksBefore maxRankingCount rankings := rfl

end RankingManager

end ProjectTetris
