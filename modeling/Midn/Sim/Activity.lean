import Midn.Sim.Traffic

/-!
# What a UE with a session does

Once a UE has its session, two things go on at the same time, in both simulators: the core receives
what the UE has sent to confirm the session and the registration, and the UE sends user data until
it has an echo or gives up.
-/

namespace Midn.Sim

/-- How much the core has received of what the UE sends when it is accepted. -/
inductive Confirmed where
  | nothing
  | session
  | registration

/-- The core receives the confirmations in order. -/
inductive Confirmed.Next : Confirmed → Confirmed → Prop
  | session : Next nothing session
  | registration : Next session registration

theorem maxAttempts_pos : 0 < maxAttempts := by decide

def firstAttempt : Fin maxAttempts := ⟨0, maxAttempts_pos⟩

/-- Why a UE gives up: it has had no echo, or its socket has not taken a packet. -/
inductive GivenUp where
  | noEcho
  | unsent
deriving DecidableEq

/-- What the UE does; waiting for an echo follows the attempt it counts. -/
inductive Activity where
  | sending (attempt : Fin maxAttempts)
  | waiting (attempt : Fin maxAttempts)
  | leaving
  | stranded (why : GivenUp)

/-- An attempt is made, and then there is an echo, another attempt, or no more of them. -/
inductive Activity.Next : Activity → Activity → Prop
  | transmit (attempt : Fin maxAttempts) : Next (sending attempt) (waiting attempt)
  | fail (attempt : Fin maxAttempts) : Next (sending attempt) (stranded .unsent)
  | retry {attempt attempt' : Fin maxAttempts} (hnext : attempt'.val = attempt.val + 1) :
      Next (waiting attempt) (sending attempt')
  | giveUp {attempt : Fin maxAttempts} (hlast : attempt.val + 1 = maxAttempts) :
      Next (waiting attempt) (stranded .noEcho)
  | leave (attempt : Fin maxAttempts) : Next (waiting attempt) leaving

/-! ## How much is left -/

def Confirmed.rank : Confirmed → Nat
  | nothing => 2
  | session => 1
  | registration => 0

/-- With the three steps after it that a UE takes to the end. -/
def Activity.rank : Activity → Nat
  | sending attempt => 6 + 2 * (4 - attempt.val)
  | waiting attempt => 5 + 2 * (4 - attempt.val)
  | leaving => 4
  | stranded _ => 0

theorem Confirmed.rank_lt_of_next {confirmed confirmed' : Confirmed}
    (hnext : confirmed.Next confirmed') : confirmed'.rank < confirmed.rank := by
  cases hnext with
  | session => exact Nat.lt_succ_self _
  | registration => exact Nat.lt_succ_self _

theorem Activity.rank_lt_of_next {activity activity' : Activity} (hnext : activity.Next activity') :
    activity'.rank < activity.rank := by
  cases hnext with
  | transmit attempt =>
      simp only [rank]
      omega
  | fail attempt =>
      simp only [rank]
      omega
  | retry hstep =>
      next attempt attempt' =>
        have hbound : attempt'.val < 5 := attempt'.isLt
        simp only [rank]
        omega
  | giveUp hlast =>
      simp only [rank]
      omega
  | leave attempt =>
      simp only [rank]
      omega

/-! ## How much has been sent -/

/-- How many packets a UE may have sent; an echo needs one, and the last attempt is the fifth. -/
def Activity.Attempted : Activity → Nat → Prop
  | sending attempt, n => n = attempt.val
  | waiting attempt, n => n = attempt.val + 1
  | leaving, n => 0 < n ∧ n ≤ maxAttempts
  | stranded .noEcho, n => n = maxAttempts
  | stranded .unsent, n => n < maxAttempts

/-- A UE that waits decides what comes next, without another packet. -/
theorem Activity.attempted_of_next {attempt : Fin maxAttempts} {activity : Activity} {n : Nat}
    (hnext : (waiting attempt).Next activity) (hattempted : n = attempt.val + 1) :
    activity.Attempted n := by
  cases hnext with
  | retry hnext => exact hattempted.trans hnext.symm
  | giveUp hlast => exact hattempted.trans hlast
  | leave attempt =>
      rw [hattempted]
      exact ⟨Nat.succ_pos _, attempt.isLt⟩

end Midn.Sim
